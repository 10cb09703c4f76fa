import LineAudit.Pattern.Reader
import LineAudit.Pattern.Search

/-!
Patterns ready for a search.

A text becomes a pattern when it can be read, when what its lookbehinds look for has a fixed width,
and when it repeats nothing in places where that is not possible.
-/

namespace LineAudit.Pattern

mutual

/-- The first mistake in a node that shows only when the whole pattern has been read. -/
def nodeFault? : Node → Flags → Option Fault
  | .branch alternatives, flags => branchFault? alternatives flags
  | .group _ add del body, flags => seqFault? body (flags.within add del)
  | .atomic body, flags => seqFault? body flags
  | .repeated greed _ _ body, flags =>
    if flags.contains .template then some (.templateRepeat greed) else seqFault? body flags
  | .look none _ body, flags => seqFault? body flags
  | .look (some width) _ body, flags =>
    if countLimit < width.least then some .lookbehindTooLong
    else if width.least ≠ width.most then some .variableLookbehind
    else seqFault? body flags
  | .condition _ yes none, flags => seqFault? yes flags
  | .condition _ yes (some no), flags =>
    match seqFault? yes flags with
    | some fault => some fault
    | none => seqFault? no flags
  | _, _ => none

def seqFault? : List Node → Flags → Option Fault
  | [], _ => none
  | node :: rest, flags =>
    match nodeFault? node flags with
    | some fault => some fault
    | none => seqFault? rest flags

def branchFault? : List (List Node) → Flags → Option Fault
  | [], _ => none
  | body :: rest, flags =>
    match seqFault? body flags with
    | some fault => some fault
    | none => branchFault? rest flags

end

/-- A character that is itself alone under the flags at its place. -/
def isPlainLiteral (flags : Flags) (n : Nat) : Bool :=
  match folding? flags with
  | none => true
  | some f => !f.isCased n

mutual

/-- Whether a node starts with a plain literal; not decided by a group that takes nothing. -/
def nodeStartsPlain? : Node → Flags → Option Bool
  | .literal n, flags => some (isPlainLiteral flags n)
  | .group _ add del body, flags => startsPlain? body (flags.within add del)
  | _, _ => some false

/-- Whether a pattern starts with a plain literal; not decided by nodes that take nothing. -/
def startsPlain? : List Node → Flags → Option Bool
  | [], _ => none
  | node :: rest, flags =>
    match nodeStartsPlain? node flags with
    | some answer => some answer
    | none => startsPlain? rest flags

end

/-- The characters with which the alternatives start, if each starts with a plain literal. -/
def leadingLiterals? (flags : Flags) : List (List Node) → Option (List Item)
  | [] => some []
  | (.literal n :: _) :: rest =>
    if isPlainLiteral flags n then (leadingLiterals? flags rest).map (.char n :: ·) else none
  | _ => none

mutual

/-- The set of characters with which a node starts, as far as it shows without regard to letter
case. -/
def nodeLeadingSet? : Node → Flags → Option (Bool × List Item)
  | .literal n, flags => if isPlainLiteral flags n then some (false, [.char n]) else none
  | .group _ add del body, flags => leadingSet? body (flags.within add del)
  | .branch alternatives, flags =>
    (leadingLiterals? flags alternatives).map fun items => (false, items)
  | .set negated items, flags =>
    match folding? flags with
    | none => some (negated, items)
    | some f => if items.any (·.folds f) then none else some (negated, items)
  | _, _ => none

def leadingSet? : List Node → Flags → Option (Bool × List Item)
  | [], _ => none
  | node :: _, flags => nodeLeadingSet? node flags

end

/-- A pattern ready for a search. -/
structure Compiled where
  body : List Node
  flags : Flags
  /-- The characters with which every place found starts, judged by the flags of the whole
  pattern. -/
  lead? : Option (Bool × List Item)

def compile (pattern : String) (ignoreCase : Bool) : Except Refusal Compiled := do
  let begin : Progress := {
    rest := pattern.toList, position := 0, flags := [], names := [], widths := []
    lookbehind? := none, conditions := [] }
  let (body, s) ← Reading.whole.run begin
  let flags := if ignoreCase then .ignoreCase :: s.flags else s.flags
  match seqFault? body flags with
  | some fault => throw (.malformed fault none)
  | none =>
    let groups := fun index => (s.widths[index - 1]?).join.getD ⟨0, 0⟩
    let lead? :=
      if (seqWidth groups body).least = 0 ∨ startsPlain? body flags = some true then none
      else leadingSet? body flags
    return { body, flags, lead? }

namespace Compiled

/-- A match can start at a place, as far as its first character shows. -/
def admits (p : Compiled) (ahead : List Char) : Bool :=
  match p.lead?, ahead with
  | none, _ => true
  | some _, [] => false
  | some (negated, items), c :: _ =>
    items.any (·.has (p.flags.contains .unicode) c.toNat) != negated

def matchesAt (p : Compiled) (s : Spot) : Bool :=
  p.admits s.ahead && (matchAll p.body p.flags (.begin s) some).isSome

def searchFrom (p : Compiled) (position : Nat) (behind : List Char) : List Char → Bool
  | [] => p.matchesAt ⟨position, behind, []⟩
  | c :: ahead =>
    p.matchesAt ⟨position, behind, c :: ahead⟩ ||
      p.searchFrom (position + 1) (c :: behind) ahead

def search (p : Compiled) (text : String) : Bool := p.searchFrom 0 [] text.toList

end Compiled

end LineAudit.Pattern
