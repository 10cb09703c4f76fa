import LineAudit.Value.Display
import LineAudit.Value.Order
import Mathlib.Data.Nat.Notation
import Mathlib.Tactic.Common

/-!
Which values can be put in order, and which can be written.
-/

namespace LineAudit.Value

/-- Values can be put in order: there are not two of them, or they are all of one kind. -/
def Sortable (items : List Value) : Prop :=
  items.length ≤ 1 ∨ ∃ kind, ∀ v ∈ items, v.orderKind? = some kind

lemma exists_sort?_iff (items : List Value) :
    (∃ sorted, sort? items = some sorted) ↔ Sortable items := by
  unfold sort? Sortable
  split
  next => simp
  next => simp
  next first rest hlong =>
    have hlength : ¬ (first :: rest).length ≤ 1 := by
      cases rest with
      | nil => exact absurd rfl hlong
      | cons => simp
    rw [or_iff_right hlength]
    split
    next hkind => simp [hkind]
    next kind hkind => simp [hkind]

lemma perm_of_sort? {items sorted : List Value} (h : sort? items = some sorted) :
    sorted.Perm items := by
  unfold sort? at h
  split at h
  next => exact Option.some.inj h ▸ .refl _
  next => exact Option.some.inj h ▸ .refl _
  next first rest hlong =>
    split at h
    next => cases h
    next kind hkind =>
      split at h
      next => exact Option.some.inj h ▸ List.mergeSort_perm ..
      next => cases h

/-- A whole number of more than 4300 digits cannot be written. -/
lemma isWritable_of_le {n : ℕ} (h : tenTo Number.digitLimit ≤ n) :
    (int (Int.ofNat n)).isWritable = false := by
  rw [isWritable]
  exact Number.isShort_eq_false_iff.mpr h

lemma areWritable_iff (items : List Value) : areWritable items ↔ ∀ v ∈ items, v.isWritable := by
  induction items with
  | nil => simp [areWritable]
  | cons v rest ih => simp [areWritable, ih]

end LineAudit.Value
