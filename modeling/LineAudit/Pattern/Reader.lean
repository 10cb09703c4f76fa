import LineAudit.Pattern.Bracket
import LineAudit.Pattern.Count
import LineAudit.Pattern.Inline
import LineAudit.Text.Identifier

/-!
Reading a pattern into a tree.

Alternatives that start alike share their start, and alternatives of one character each are a set.
A group that neither has a number nor changes a flag is replaced by what it holds.
-/

namespace LineAudit.Pattern

/-- Splits off the leaves with which all of several sequences start, given the first one. -/
def splitCommon : List Node → List (List Node) → List Node × List (List Node)
  | [], others => ([], [] :: others)
  | node :: rest, others =>
    let shared := others.all fun other =>
      match other with
      | [] => false
      | n :: _ => n.sameLeaf node
    if shared then
      let (common, remainders) := splitCommon rest (others.map List.tail)
      (node :: common, remainders)
    else ([], (node :: rest) :: others)

def itemsOf? : List Node → Option (List Item)
  | [.literal n] => some [.char n]
  | [.set false items] => some items
  | _ => none

def joinAlternatives : List (List Node) → List Node
  | [] => []
  | [body] => body
  | first :: others =>
    let (common, remainders) := splitCommon first others
    match remainders.mapM itemsOf? with
    | some items => common ++ [.set false items.flatten.eraseDups]
    | none => common ++ [.branch remainders]

/-- What a group holds that is nothing but a pair of parentheses. -/
def unwrap : Node → List Node
  | .group none [] [] body => body
  | node => [node]

/-- The sequence of the nodes read, given with the last one first. -/
def sequenceOf (done : List Node) : List Node := done.reverse.flatMap unwrap

/-- White space that is passed over in a pattern laid out freely. -/
def isLayout (c : Char) : Bool :=
  c = ' ' || c = '\t' || c = '\n' || c = '\r' || c = '\x0b' || c = '\x0c'

/-- Numbers of groups lie below this one. -/
def groupLimit : Nat := 1073741823

namespace Reading

def skipLine : Nat → Reading Unit
  | 0 => pure ()
  | fuel + 1 => do
    let piece ← take
    if piece.isEmpty ∨ piece = ['\n'] then return () else skipLine fuel

def skipComment (start : Nat) : Nat → Reading Unit
  | 0 => pure ()
  | fuel + 1 => do
    if (← next).isEmpty then failAt start .unterminatedComment
    else if (← take) = [')'] then return ()
    else skipComment start fuel

/-- Takes the parenthesis that closes a group which started at `start`. -/
def closing (start : Nat) : Reading Unit := do
  if ← accept ')' then return () else failAt start .unterminatedGroup

/-- A name must be an identifier; it has just been read together with its closing character. -/
def checkName (name : List Char) : Reading Unit :=
  if Text.isIdentifier name then pure ()
  else failBack (name.length + 1) (.badGroupName (String.ofList name))

def groupNamed (name : List Char) : Reading Nat := do
  match (← get).names.find? (·.1 = String.ofList name) with
  | some (_, index) => return index
  | none => failBack (name.length + 1) (.unknownGroup (String.ofList name))

/-- A reference to a group by name, after its sign. -/
def namedReference : Reading Node := do
  let name ← takeName ')' "group name"
  checkName name
  let index ← groupNamed name
  if (← width? index).isNone then failBack (name.length + 1) .openGroup
  checkLookbehind index
  return .reference index

def numberedCondition (name : List Char) : Reading Nat := do
  let back := name.length + 1
  let bad := failBack back (.badGroupName (String.ofList name))
  match Number.readInteger (String.ofList name) with
  | .error _ => bad
  | .ok n =>
    if n < 0 then bad
    else if n = 0 then failBack back .badGroupNumber
    else if groupLimit ≤ n.toNat then failBack back (.invalidReference n.toNat)
    else
      let s ← get
      unless s.conditions.any (·.1 = n.toNat) do
        set { s with conditions := s.conditions ++ [(n.toNat, s.position - back)] }
      return n.toNat

def conditionGroup : Reading Nat := do
  let name ← takeName ')' "group name"
  let index ← if Text.isIdentifier name then groupNamed name else numberedCondition name
  checkLookbehind index
  return index

/-- The direction and sense of a look around, after its first sign. -/
def lookSigns (sign : Char) : Reading (Bool × Bool) := do
  if sign = '<' then
    match ← take with
    | [] => fail .unexpectedEnd
    | ['='] => return (true, false)
    | ['!'] => return (true, true)
    | piece => failBack (piece.length + 2) (.unknownExtension (String.ofList ('<' :: piece)))
  else return (false, sign = '!')

/-- Enters a lookbehind; the answer is what held before. -/
def enterLook (behind : Bool) : Reading (Option Nat) := do
  let before := (← get).lookbehind?
  if behind ∧ before.isNone then
    let count ← groupCount
    modify fun s => { s with lookbehind? := some count }
  return before

mutual

/-- Reads alternatives. At the top of a pattern the flags read so far say whether the pattern is
laid out freely. -/
def alternation : Nat → (verbose top : Bool) → Reading (List Node)
  | 0, _, _ => pure []
  | fuel + 1, verbose, top => do
    return joinAlternatives (← alternatives fuel verbose top [])

/-- Reads alternatives, given those before, last one first. -/
def alternatives :
    Nat → (verbose top : Bool) → List (List Node) → Reading (List (List Node))
  | 0, _, _, acc => pure acc.reverse
  | fuel + 1, verbose, top, acc => do
    let body ← sequence fuel verbose (top && acc.isEmpty) []
    if ← accept '|' then
      let free := (← get).flags.contains .verbose
      alternatives fuel (if top then free else verbose) top (body :: acc)
    else return (body :: acc).reverse

/-- Reads a sequence, given the nodes before, last one first. -/
def sequence : Nat → (verbose first : Bool) → List Node → Reading (List Node)
  | 0, _, _, done => pure (sequenceOf done)
  | fuel + 1, verbose, first, done => do
    match ← next with
    | [] => return sequenceOf done
    | ['\\', c] =>
      let escape ← take
      sequence fuel verbose first ((← nodeEscape escape c) :: done)
    | c :: _ =>
      if c = '|' ∨ c = ')' then return sequenceOf done
      let start := (← get).position
      let _ ← take
      if verbose ∧ isLayout c then sequence fuel verbose first done
      else if verbose ∧ c = '#' then
        skipLine ((← get).rest.length + 1)
        sequence fuel verbose first done
      else match c with
        | '[' => sequence fuel verbose first ((← bracket) :: done)
        | '.' => sequence fuel verbose first (.any :: done)
        | '^' => sequence fuel verbose first (.place .start :: done)
        | '$' => sequence fuel verbose first (.place .stop :: done)
        | '(' =>
          let (node?, verbose) ← parenthesis fuel verbose (first && done.isEmpty) start
          sequence fuel verbose first (node?.toList ++ done)
        | c =>
          if c = '*' ∨ c = '+' ∨ c = '?' ∨ c = '{' then
            sequence fuel verbose first (← repetition c done)
          else sequence fuel verbose first (.literal c.toNat :: done)

/-- Reads what starts with a parenthesis at `start`, after it. The answer is the node, if there is
one, and whether the pattern is laid out freely from there on. -/
def parenthesis :
    Nat → (verbose atStart : Bool) → (start : Nat) → Reading (Option Node × Bool)
  | 0, verbose, _, _ => pure (none, verbose)
  | fuel + 1, verbose, atStart, start => do
    if ← accept '?' then
      match ← take with
      | [] => fail .unexpectedEnd
      | ['P'] =>
        if ← accept '<' then
          let name ← takeName '>' "group name"
          checkName name
          return (some (← capture fuel verbose start (some (String.ofList name))), verbose)
        else if ← accept '=' then return (some (← namedReference), verbose)
        else
          let piece ← take
          if piece.isEmpty then fail .unexpectedEnd
          else failBack (piece.length + 2) (.unknownExtension (String.ofList ('P' :: piece)))
      | [':'] => return (some (.group none [] [] (← inner fuel verbose start)), verbose)
      | ['>'] => return (some (.atomic (← inner fuel verbose start)), verbose)
      | ['#'] =>
        skipComment start ((← get).rest.length + 1)
        return (none, verbose)
      | ['('] =>
        let index ← conditionGroup
        let yes ← sequence fuel verbose false []
        let no? ← if ← accept '|' then
            let no ← sequence fuel verbose false []
            if (← next) = ['|'] then fail .tooManyBranches
            pure (some no)
          else pure none
        closing start
        return (some (.condition index yes no?), verbose)
      | [c] =>
        if c = '=' ∨ c = '!' ∨ c = '<' then
          let (behind, negated) ← lookSigns c
          let before ← enterLook behind
          let body ← alternation fuel verbose false
          modify fun s => { s with lookbehind? := before }
          closing start
          let width := seqWidth (← groupWidths) body
          return (some (.look (if behind then some width else none) negated body), verbose)
        else if c ≠ '-' ∧ (Flag.ofLetter? c).isNone then
          failBack 2 (.unknownExtension c.toString)
        else
          match ← inlineFlags (Flag.ofLetter? c) with
          | none =>
            if atStart then return (none, (← get).flags.contains .verbose)
            else failAt start .lateGlobalFlags
          | some (add, del) =>
            let free := (verbose || add.contains .verbose) && !del.contains .verbose
            return (some (.group none add del (← inner fuel free start)), verbose)
      | piece => failBack (piece.length + 1) (.unknownExtension (String.ofList piece))
    else return (some (← capture fuel verbose start none), verbose)

def inner : Nat → (verbose : Bool) → (start : Nat) → Reading (List Node)
  | 0, _, _ => pure []
  | fuel + 1, verbose, start => do
    let body ← alternation fuel verbose false
    closing start
    return body

def capture : Nat → (verbose : Bool) → (start : Nat) → Option String → Reading Node
  | 0, _, _, _ => pure .any
  | fuel + 1, verbose, start, name? => do
    let index ← openGroup name?
    let body ← alternation fuel verbose false
    closing start
    closeGroup index body
    return .group (some index) [] [] body

end

/-- Every group that a condition refers to by number must exist. -/
def checkConditions : Reading Unit := do
  let count ← groupCount
  match (← get).conditions.find? fun c => count ≤ c.1 with
  | some (index, position) => failAt position (.invalidReference index)
  | none => pure ()

/-- Fixes the alphabet of the whole pattern. -/
def settleFlags : Reading Unit := do
  let flags := (← get).flags
  if !flags.contains .ascii then modify fun s => { s with flags := .unicode :: flags }
  else if flags.contains .unicode then throw .twoAlphabets

def whole : Reading (List Node) := do
  let s ← get
  checkEnd s.rest s.position
  let body ← alternation (8 * s.rest.length + 8) false true
  settleFlags
  unless (← next).isEmpty do fail .unbalanced
  checkConditions
  return body

end Reading

end LineAudit.Pattern
