import LineAudit.Matcher.Edit
import LineAudit.Rule

/-!
Edits of rules, and rules with new marks.

A field of a rule is edited in the one object that holds it, while an edit of a matcher reaches all
rules that hold the matcher.
-/

namespace LineAudit

inductive FieldEdit
  | severity (v : Value)
  | matcher (m : Matcher)
  /-- One more exclusion after the others. -/
  | exclusion (m : Matcher)

inductive RuleEdit
  | field (e : FieldEdit)
  | node (e : NodeEdit)

def FieldEdit.fresh : FieldEdit → StateM Nat FieldEdit
  | severity v => return severity v
  | matcher m => return matcher (← m.fresh)
  | exclusion m => return exclusion (← m.fresh)

def NodeEdit.fresh : NodeEdit → StateM Nat NodeEdit
  | child m => return child (← m.fresh)
  | text v => return text v

def RuleEdit.fresh : RuleEdit → StateM Nat RuleEdit
  | field e => return field (← e.fresh)
  | node e => return node (← e.fresh)

namespace Rule

variable {σ : Type}

def editAt (mark : Nat) (e : NodeEdit) (r : Rule σ) : Rule σ :=
  { r with
    matcher := r.matcher.editAt mark e
    exclusions := Matcher.editEachAt mark e r.exclusions }

def marks (r : Rule σ) : List Nat := r.matcher.marks ++ Matcher.marksOfEach r.exclusions

def fresh (r : Rule σ) : StateM Nat (Rule σ) := do
  let matcher ← r.matcher.fresh
  return { r with matcher, exclusions := ← Matcher.freshEach r.exclusions }

/-- An edit of matchers leaves a rule alone that does not have the mark. -/
theorem editAt_of_not_mem {mark : Nat} (e : NodeEdit) (r : Rule σ) (h : mark ∉ r.marks) :
    r.editAt mark e = r := by
  simp [marks] at h
  simp [editAt, Matcher.editAt_of_not_mem e _ h.1, Matcher.editEachAt_of_not_mem e _ h.2]

end Rule

end LineAudit
