import LineAudit.Matcher.Basic

/-!
Edits of matchers in place, and the marks by which they find their nodes.

An edit is made at a mark: it changes every node with that mark, wherever it stands, and no other
node. A matcher that is handed in gets marks that no other matcher has.
-/

namespace LineAudit

inductive NodeEdit
  /-- One more child after the others, of a node that has children. -/
  | child (m : Matcher)
  /-- Another text, of a literal. -/
  | text (v : Value)

namespace NodeEdit

def newChildren : NodeEdit → List Matcher
  | child m => [m]
  | text _ => []

def newText (e : NodeEdit) (old : Value) : Value :=
  match e with
  | child _ => old
  | text v => v

end NodeEdit

namespace Matcher

def mark? : Matcher → Option Nat
  | .literal mark _ | .regex mark _ | .any mark _ | .all mark _ | .alarmed mark _ _ _ => some mark
  | .foreign _ => none

/-- The mark of the root, if the root takes children. -/
def jointMark? : Matcher → Option Nat
  | .any mark _ | .all mark _ => some mark
  | _ => none

/-- Where an edit of a matcher is made. Every matcher takes a text, but only literals heed it; a
value that is no matcher takes nothing. -/
def target? (m : Matcher) : NodeEdit → Option Nat
  | .child _ => m.jointMark?
  | .text _ => m.mark?

mutual

def editAt (mark : Nat) (e : NodeEdit) : Matcher → Matcher
  | .literal k v => .literal k (if k = mark then e.newText v else v)
  | .any k children =>
    .any k (editEachAt mark e children ++ if k = mark then e.newChildren else [])
  | .all k children =>
    .all k (editEachAt mark e children ++ if k = mark then e.newChildren else [])
  | .regex k r => .regex k r
  | .alarmed k trigger failure r => .alarmed k trigger failure r
  | .foreign v => .foreign v

def editEachAt (mark : Nat) (e : NodeEdit) : List Matcher → List Matcher
  | [] => []
  | m :: rest => m.editAt mark e :: editEachAt mark e rest

end

mutual

def marks : Matcher → List Nat
  | .literal k _ | .regex k _ | .alarmed k _ _ _ => [k]
  | .any k children | .all k children => k :: marksOfEach children
  | .foreign _ => []

def marksOfEach : List Matcher → List Nat
  | [] => []
  | m :: rest => m.marks ++ marksOfEach rest

end

def takeMark : StateM Nat Nat := modifyGet fun next => (next, next + 1)

mutual

def fresh : Matcher → StateM Nat Matcher
  | .literal _ v => return .literal (← takeMark) v
  | .regex _ r => return .regex (← takeMark) r
  | .any _ children => do
    let mark ← takeMark
    return .any mark (← freshEach children)
  | .all _ children => do
    let mark ← takeMark
    return .all mark (← freshEach children)
  | .alarmed _ trigger failure r => return .alarmed (← takeMark) trigger failure r
  | .foreign v => return .foreign v

def freshEach : List Matcher → StateM Nat (List Matcher)
  | [] => return []
  | m :: rest => do
    let first ← m.fresh
    return first :: (← freshEach rest)

end

mutual

/-- An edit at a mark leaves a matcher alone that does not have the mark. -/
theorem editAt_of_not_mem {mark : Nat} (e : NodeEdit) :
    ∀ m : Matcher, mark ∉ m.marks → m.editAt mark e = m
  | .literal k v, h => by simp [marks] at h; simp [editAt, Ne.symm h]
  | .any k children, h => by
    simp [marks] at h
    simp [editAt, Ne.symm h.1, editEachAt_of_not_mem e children h.2]
  | .all k children, h => by
    simp [marks] at h
    simp [editAt, Ne.symm h.1, editEachAt_of_not_mem e children h.2]
  | .regex _ _, _ | .alarmed _ _ _ _, _ | .foreign _, _ => rfl

theorem editEachAt_of_not_mem {mark : Nat} (e : NodeEdit) :
    ∀ ms : List Matcher, mark ∉ marksOfEach ms → editEachAt mark e ms = ms
  | [], _ => rfl
  | m :: rest, h => by
    simp [marksOfEach] at h
    simp [editEachAt, editAt_of_not_mem e m h.1, editEachAt_of_not_mem e rest h.2]

end

end Matcher

end LineAudit
