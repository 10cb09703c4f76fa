import LineAudit.Value.Basic
import Mathlib.Tactic.Common

/-!
A comparison of values that can be computed.

It takes values for the same that are made in the same way of texts, lists and mappings.
-/

namespace LineAudit.Value

mutual

/-- Values are made in the same way of texts, lists and mappings. -/
def sameText : Value → Value → Bool
  | .str s, .str t => s == t
  | .list xs, .list ys => sameTexts xs ys
  | .dict xs, .dict ys => sameEntries xs ys
  | _, _ => false

def sameTexts : List Value → List Value → Bool
  | [], [] => true
  | x :: xs, y :: ys => sameText x y && sameTexts xs ys
  | _, _ => false

def sameEntries : List (Value × Value) → List (Value × Value) → Bool
  | [], [] => true
  | (k, x) :: xs, (l, y) :: ys => sameText k l && sameText x y && sameEntries xs ys
  | _, _ => false

end

mutual

lemma eq_of_sameText (x y : Value) (h : sameText x y = true) : x = y := by
  unfold sameText at h
  split at h
  next s t => rw [beq_iff_eq.mp h]
  next xs ys => rw [eq_of_sameTexts xs ys h]
  next xs ys => rw [eq_of_sameEntries xs ys h]
  next => cases h

lemma eq_of_sameTexts (xs ys : List Value) (h : sameTexts xs ys = true) : xs = ys := by
  unfold sameTexts at h
  split at h
  next => rfl
  next x xs y ys =>
    obtain ⟨hx, hxs⟩ := Bool.and_eq_true_iff.mp h
    rw [eq_of_sameText x y hx, eq_of_sameTexts xs ys hxs]
  next => cases h

lemma eq_of_sameEntries (xs ys : List (Value × Value)) (h : sameEntries xs ys = true) :
    xs = ys := by
  unfold sameEntries at h
  split at h
  next => rfl
  next k x xs l y ys =>
    obtain ⟨hkx, hxs⟩ := Bool.and_eq_true_iff.mp h
    obtain ⟨hk, hx⟩ := Bool.and_eq_true_iff.mp hkx
    rw [eq_of_sameText k l hk, eq_of_sameText x y hx, eq_of_sameEntries xs ys hxs]
  next => cases h

end

end LineAudit.Value
