import Mathlib.Data.List.Forall2
import Mathlib.Tactic.Common

/-!
Steps that may be refused: when several of them in a row succeed, and how they fail.
-/

namespace LineAudit

variable {ε α β : Type}

lemma bind_eq_ok_iff {x : Except ε α} {f : α → Except ε β} {b : β} :
    x >>= f = .ok b ↔ ∃ a, x = .ok a ∧ f a = .ok b := by
  cases x with
  | error c => simp [bind, Except.bind]
  | ok a => simp [bind, Except.bind]

lemma bind_eq_error_iff {x : Except ε α} {f : α → Except ε β} {c : ε} :
    x >>= f = .error c ↔ x = .error c ∨ ∃ a, x = .ok a ∧ f a = .error c := by
  cases x with
  | error d => simp [bind, Except.bind]
  | ok a => simp [bind, Except.bind]

lemma pure_eq_ok_iff {a b : α} : (pure a : Except ε α) = .ok b ↔ a = b := by
  simp [pure, Except.pure]

lemma map_eq_ok_iff {x : Except ε α} {f : α → β} {b : β} :
    f <$> x = .ok b ↔ ∃ a, x = .ok a ∧ f a = b := by
  cases x with
  | error c => simp [Functor.map, Except.map]
  | ok a => simp [Functor.map, Except.map]

lemma error_of_map_eq_error {x : Except ε α} {f : α → β} {c : ε} (h : x.map f = .error c) :
    x = .error c := by
  cases x with
  | error d => exact congrArg Except.error (Except.error.inj h)
  | ok a => cases h

lemma exists_ok_of_isOk {x : Except ε α} (h : x.isOk = true) : ∃ a, x = .ok a := by
  cases x with
  | error c => cases h
  | ok a => exact ⟨a, rfl⟩

lemma exists_ok_of_toOption {x : Except ε α} {f : α → β} {b : β}
    (h : x.toOption.map f = some b) : ∃ a, x = .ok a ∧ f a = b := by
  cases x with
  | error c => simp [Except.toOption] at h
  | ok a => exact ⟨a, rfl, by simpa [Except.toOption] using h⟩

/-- A step for each of some items succeeds exactly with the results of all steps. -/
lemma mapM_eq_ok_iff {f : α → Except ε β} {as : List α} {bs : List β} :
    as.mapM f = .ok bs ↔ List.Forall₂ (fun a b => f a = .ok b) as bs := by
  induction as generalizing bs with
  | nil => rw [List.mapM_nil, pure_eq_ok_iff, List.forall₂_nil_left_iff, eq_comm]
  | cons a as ih =>
    simp only [List.mapM_cons, bind_eq_ok_iff, pure_eq_ok_iff, ih, List.forall₂_cons_left_iff]
    constructor
    · rintro ⟨b, hb, bs, hbs, rfl⟩
      exact ⟨b, bs, hb, hbs, rfl⟩
    · rintro ⟨b, bs, hb, hbs, rfl⟩
      exact ⟨b, hb, bs, hbs, rfl⟩

/-- A step for each of some items fails with the failure of the first item whose step fails. -/
lemma mapM_eq_error_iff {f : α → Except ε β} {as : List α} {c : ε} :
    as.mapM f = .error c ↔ ∃ before a after, as = before ++ a :: after ∧
      (∀ x ∈ before, ∃ b, f x = .ok b) ∧ f a = .error c := by
  induction as with
  | nil => simp [List.mapM_nil, pure, Except.pure]
  | cons x rest ih =>
    rw [List.mapM_cons]
    cases hx : f x with
    | error d =>
      simp only [bind, Except.bind, Except.error.injEq]
      constructor
      · rintro rfl
        exact ⟨[], x, rest, rfl, by simp, hx⟩
      · rintro ⟨before, a, after, he, hb, ha⟩
        cases before with
        | nil =>
          obtain ⟨rfl, rfl⟩ := List.cons.inj he
          exact Except.error.inj (hx.symm.trans ha)
        | cons y before =>
          obtain ⟨rfl, -⟩ := List.cons.inj he
          obtain ⟨b, hok⟩ := hb x (by simp)
          simp [hx] at hok
    | ok b =>
      have hrest : (do let bs ← rest.mapM f; pure (b :: bs)) = (.error c : Except ε (List β)) ↔
          rest.mapM f = .error c := by
        cases rest.mapM f <;> simp [bind, Except.bind, pure, Except.pure]
      refine hrest.trans (ih.trans ?_)
      constructor
      · rintro ⟨before, a, after, rfl, hb, ha⟩
        exact ⟨x :: before, a, after, rfl, List.forall_mem_cons.mpr ⟨⟨b, hx⟩, hb⟩, ha⟩
      · rintro ⟨before, a, after, he, hb, ha⟩
        cases before with
        | nil =>
          obtain ⟨rfl, -⟩ := List.cons.inj he
          simp [hx] at ha
        | cons y before =>
          obtain ⟨rfl, rfl⟩ := List.cons.inj he
          exact ⟨before, a, after, rfl, (List.forall_mem_cons.mp hb).2, ha⟩

/-- Two lists of complaints, listed one after the other, are both empty. -/
lemma append_eq_nil_iff {x : Except ε (List α)} {y : Except ε (List β)} (f : α → β) :
    (do let here ← x; let rest ← y; return here.map f ++ rest) = .ok [] ↔
      x = .ok [] ∧ y = .ok [] := by
  simp only [bind_eq_ok_iff, pure_eq_ok_iff, List.append_eq_nil_iff, List.map_eq_nil_iff]
  constructor
  · rintro ⟨here, hhere, rest, hrest, rfl, rfl⟩
    exact ⟨hhere, hrest⟩
  · rintro ⟨hhere, hrest⟩
    exact ⟨[], hhere, [], hrest, rfl, rfl⟩

/-- Two steps, of which the second one does not depend on the first, fail when one of them does. -/
lemma exists_error_join_iff {γ : Type} {x : Except ε α} {y : Except ε β} (f : α → β → γ) :
    (∃ c, (do let a ← x; let b ← y; return f a b) = (.error c : Except ε γ)) ↔
      (∃ c, x = .error c) ∨ ∃ c, y = .error c := by
  cases x <;> cases y <;> simp [bind, Except.bind, pure, Except.pure]

/-- A step for each of some items fails when the step for one of them does. -/
lemma exists_mapM_error_iff {f : α → Except ε β} (as : List α) :
    (∃ c, as.mapM f = .error c) ↔ ∃ a ∈ as, ∃ c, f a = .error c := by
  induction as with
  | nil => simp [List.mapM_nil, pure, Except.pure]
  | cons a rest ih =>
    rw [List.mapM_cons, exists_error_join_iff, ih]
    simp

end LineAudit
