import LineAudit.Pattern.Flag

/-!
Patterns as trees.

A sequence is a list of nodes. Characters are code points, so that a pattern can name any of them.
The width of a sequence bounds how many characters it takes from a text; widths are cut off at a
number that no text reaches. A look behind carries the width of what it looks for.
-/

namespace LineAudit.Pattern

inductive Category
  | digit
  | space
  | word
  deriving DecidableEq, Repr

inductive Item
  | char (n : Nat)
  | range (lo hi : Nat)
  | category (negated : Bool) (c : Category)
  deriving DecidableEq, Repr

/-- A condition on a place in a text. -/
inductive Place
  | start
  | textStart
  | stop
  | textStop
  | boundary
  | nonBoundary
  deriving DecidableEq, Repr

/-- How a repetition chooses among the counts that it allows: the greatest first, the least first,
or the greatest alone. -/
inductive Greed
  | greedy
  | lazy
  | possessive
  deriving DecidableEq, Repr

/-- The least and the greatest number of characters. -/
structure Width where
  least : Nat
  most : Nat
  deriving DecidableEq, Repr, Inhabited

namespace Width

/-- Widths are cut off here. -/
def limit : Nat := 18446744073709551616

def add (v w : Width) : Width := ⟨v.least + w.least, v.most + w.most⟩

def join (v w : Width) : Width := ⟨min v.least w.least, max v.most w.most⟩

def cut (w : Width) : Width := ⟨min w.least limit, min w.most limit⟩

/-- The width of a repetition; one without a bound and with a body that takes something is wider
than any text. -/
def times (w : Width) (least : Nat) (most? : Option Nat) : Width :=
  let most := match most? with
    | some m => w.most * m
    | none => if w.most = 0 then 0 else limit
  ⟨w.least * least, most⟩

end Width

/-- A part of a pattern. -/
inductive Node
  | any
  | literal (n : Nat)
  | notLiteral (n : Nat)
  | set (negated : Bool) (items : List Item)
  | place (p : Place)
  | branch (alternatives : List (List Node))
  | group (index? : Option Nat) (add del : Flags) (body : List Node)
  | atomic (body : List Node)
  | repeated (greed : Greed) (least : Nat) (most? : Option Nat) (body : List Node)
  | look (behind? : Option Width) (negated : Bool) (body : List Node)
  | reference (index : Nat)
  | condition (index : Nat) (yes : List Node) (no? : Option (List Node))
  deriving Inhabited

namespace Node

/-- Equality of the nodes that have no parts; any other node differs from every node. -/
def sameLeaf : Node → Node → Bool
  | any, any => true
  | literal m, literal n => m == n
  | notLiteral m, notLiteral n => m == n
  | set s a, set t b => s == t && a == b
  | place p, place q => p == q
  | reference i, reference j => i == j
  | _, _ => false

end Node

mutual

/-- The width of a node, given those of the groups. -/
def nodeWidth (groups : Nat → Width) : Node → Width
  | .any | .literal _ | .notLiteral _ | .set _ _ => ⟨1, 1⟩
  | .place _ | .look _ _ _ => ⟨0, 0⟩
  | .branch alternatives => branchWidth groups alternatives
  | .group _ _ _ body => seqWidth groups body
  | .atomic body => seqWidth groups body
  | .repeated _ least most? body => (seqWidth groups body).times least most?
  | .reference index => groups index
  | .condition _ yes (some no) => (seqWidth groups yes).join (seqWidth groups no)
  | .condition _ yes none => ⟨0, (seqWidth groups yes).most⟩

def sumWidth (groups : Nat → Width) : List Node → Width
  | [] => ⟨0, 0⟩
  | node :: rest => (nodeWidth groups node).add (sumWidth groups rest)

/-- The width of a sequence, cut off. -/
def seqWidth (groups : Nat → Width) : List Node → Width
  | [] => ⟨0, 0⟩
  | node :: rest => ((nodeWidth groups node).add (sumWidth groups rest)).cut

def branchWidth (groups : Nat → Width) : List (List Node) → Width
  | [] => ⟨0, 0⟩
  | [body] => seqWidth groups body
  | body :: rest => (seqWidth groups body).join (branchWidth groups rest)

end

end LineAudit.Pattern
