import LineAudit.Severity
import Mathlib.Algebra.BigOperators.Group.List.Basic
import Mathlib.Algebra.Ring.Nat
import Mathlib.Tactic.Common

/-!
The gravest of some severities, thresholds, and figures for each severity.
-/

namespace LineAudit.Severity

/-- The graver of two severities; of two of one rank the first. -/
def graver (s t : Severity) : Severity := if s.rank < t.rank then t else s

lemma rank_le_graver (s t : Severity) :
    s.rank ≤ (graver s t).rank ∧ t.rank ≤ (graver s t).rank := by
  unfold graver
  split <;> omega

lemma graver_eq_or (s t : Severity) : graver s t = s ∨ graver s t = t := by
  unfold graver
  split
  · exact .inr rfl
  · exact .inl rfl

/-- The gravest of a severity and others is one of them, and none of them is graver. -/
lemma foldl_graver (s : Severity) (rest : List Severity) :
    rest.foldl graver s ∈ s :: rest ∧ ∀ t ∈ s :: rest, t.rank ≤ (rest.foldl graver s).rank := by
  induction rest generalizing s with
  | nil => simp
  | cons t rest ih =>
    obtain ⟨hmem, hall⟩ := ih (graver s t)
    rw [List.foldl_cons]
    constructor
    · rcases List.mem_cons.mp hmem with heq | hmem
      · rw [heq]
        rcases graver_eq_or s t with h | h <;> simp [h]
      · simp [hmem]
    · rw [List.forall_mem_cons, List.forall_mem_cons]
      rw [List.forall_mem_cons] at hall
      have hst := rank_le_graver s t
      exact ⟨Nat.le_trans hst.1 hall.1, Nat.le_trans hst.2 hall.1, hall.2⟩

lemma worst?_eq_some_iff {severities : List Severity} {s : Severity} :
    worst? severities = some s → s ∈ severities ∧ ∀ t ∈ severities, t.rank ≤ s.rank := by
  cases severities with
  | nil => simp [worst?]
  | cons first rest =>
    intro h
    obtain rfl := Option.some.inj h
    exact foldl_graver first rest

/-- The gravest severity reaches a threshold when some severity does. -/
lemma meets_worst?_iff {severities : List Severity} {threshold : Severity} :
    meets (worst? severities) threshold = true ↔ ∃ s ∈ severities, threshold.rank ≤ s.rank := by
  cases hworst : worst? severities with
  | none =>
    cases severities with
    | nil => simp [meets]
    | cons first rest => simp [worst?] at hworst
  | some s =>
    obtain ⟨hmem, hall⟩ := worst?_eq_some_iff hworst
    simp only [meets, decide_eq_true_eq]
    constructor
    · intro h
      exact ⟨s, hmem, h⟩
    · rintro ⟨t, ht, h⟩
      exact Nat.le_trans h (hall t ht)

/-! ### Figures -/

lemma mem_all (s : Severity) : s ∈ all := by
  cases s <;> decide

lemma pairwise_all : all.Pairwise fun s t => t.rank < s.rank := by decide

/-- Counts by severity leave nothing out. -/
lemma sum_countIn (severities : List Severity) :
    (all.map (countIn severities)).sum = severities.length := by
  induction severities with
  | nil => decide
  | cons s rest ih =>
    have hone : (all.map fun t => if s == t then 1 else 0).sum = 1 := by
      cases s <;> decide
    have hsplit : all.map (countIn (s :: rest)) =
        all.map fun t => countIn rest t + if s == t then 1 else 0 :=
      List.map_congr_left fun t _ => List.count_cons
    rw [hsplit, List.sum_map_add, ih, hone, List.length_cons]

/-- The gravest severity is the first one, in descending order, of which there is any. -/
lemma worst?_eq_find? (severities : List Severity) :
    worst? severities = all.find? fun s => countIn severities s != 0 := by
  have hpresent (s : Severity) : (countIn severities s != 0) = decide (s ∈ severities) := by
    rw [countIn, Bool.eq_iff_iff, decide_eq_true_iff, bne_iff_ne, ← Nat.pos_iff_ne_zero,
      List.count_pos_iff]
  simp only [hpresent]
  cases hworst : worst? severities with
  | none =>
    cases severities with
    | nil => rfl
    | cons first rest => simp [worst?] at hworst
  | some s =>
    obtain ⟨hmem, hall⟩ := worst?_eq_some_iff hworst
    obtain ⟨before, after, hsplit⟩ := List.append_of_mem (mem_all s)
    refine (List.find?_eq_some_iff_append.mpr ⟨by simpa using hmem, before, after, hsplit, ?_⟩).symm
    intro t ht
    -- a severity before `s` is graver, and none of those that there are is
    have hgraver : s.rank < t.rank := by
      have hsorted := pairwise_all
      rw [hsplit, List.pairwise_append] at hsorted
      exact hsorted.2.2 t ht s (by simp)
    simpa using fun hin => absurd (hall t hin) (Nat.not_le.mpr hgraver)

end LineAudit.Severity
