import LineAudit.Pattern.Compiled
import Mathlib.Data.Nat.Notation
import Mathlib.Tactic.Common

/-!
What searches find, for parts of patterns that look ahead only.

Main results: a pattern that starts with a caret matches at the start of a text or not at all,
literals find themselves, and as many rounds as possible of a test on one character find what
follows some characters that pass the test.
-/

namespace LineAudit.Pattern

variable {flags : Flags}

/-! ### The start of a text -/

lemma start_holds (hflags : flags.contains .multiline = false) (s : Spot) :
    Place.start.holds flags s = s.behind.isEmpty := by
  rw [Place.holds, hflags]
  simp

/-- A caret at the start of a pattern stands for the start of the text. -/
lemma search_of_start {rest : List Node} (hflags : flags.contains .multiline = false)
    (text : String) :
    (Compiled.mk (.place .start :: rest) flags none).search text =
      (matchAll rest flags (.begin (.start text.toList)) some).isSome := by
  -- no place but the first one has nothing behind it
  have hlater (position : ℕ) (c : Char) (behind ahead : List Char) :
      (Compiled.mk (.place .start :: rest) flags none).searchFrom position (c :: behind) ahead =
        false := by
    induction ahead generalizing position c behind with
    | nil =>
      simp [Compiled.searchFrom, Compiled.matchesAt, matchAll, matchNode, start_holds hflags,
        Trail.begin]
    | cons d ahead ih =>
      rw [Compiled.searchFrom, ih, Bool.or_false]
      simp [Compiled.matchesAt, matchAll, matchNode, start_holds hflags, Trail.begin]
  have hhere : (Compiled.mk (.place .start :: rest) flags none).matchesAt (.start text.toList) =
      (matchAll rest flags (.begin (.start text.toList)) some).isSome := by
    simp [Compiled.matchesAt, Compiled.admits, matchAll, matchNode, start_holds hflags,
      Trail.begin, Spot.start]
  rw [← hhere, Compiled.search]
  cases text.toList with
  | nil => rfl
  | cons c ahead => rw [Compiled.searchFrom, hlater, Bool.or_false]; rfl

/-! ### Literals and alternatives -/

/-- A goal is reached from everywhere. -/
def Goal.Free (k : Goal) : Prop := ∀ t, (k t).isSome

/-- Literals that are compared as they are find themselves. -/
lemma literals_found_iff (hflags : flags.contains .ignoreCase = false) {k : Goal} (hk : k.Free)
    (word : List Char) (t : Trail) :
    (matchAll (word.map fun c => .literal c.toNat) flags t k).isSome ↔ word <+: t.spot.ahead := by
  induction word generalizing t with
  | nil => simpa [matchAll] using hk t
  | cons c rest ih =>
    rw [List.map_cons, matchAll, matchNode, Trail.step]
    cases hahead : t.spot.ahead with
    | nil => simp
    | cons d ahead =>
      have hsame : admitsLiteral flags c.toNat d.toNat = true ↔ c = d := by
        rw [admitsLiteral, folding?, hflags]
        simpa using Char.toNat_inj
      rw [List.cons_prefix_cons, ← hsame]
      by_cases hadmits : admitsLiteral flags c.toNat d.toNat = true
      · simp [hadmits, ih]
      · simp [hadmits]

/-- Alternatives of literals find each of these words. -/
lemma words_found_iff (hflags : flags.contains .ignoreCase = false) {k : Goal} (hk : k.Free)
    (words : List (List Char)) (t : Trail) :
    (matchAny (words.map fun word => word.map fun c => .literal c.toNat) flags t k).isSome ↔
      ∃ word ∈ words, word <+: t.spot.ahead := by
  induction words with
  | nil => simp [matchAny]
  | cons word rest ih =>
    rw [List.map_cons, matchAny]
    simp only [List.mem_cons, exists_eq_or_imp, ← ih, ← literals_found_iff hflags hk word t]
    cases matchAll (word.map fun c => .literal c.toNat) flags t k <;> simp

/-! ### Rounds of a test on one character -/

/-- A text has something after some characters that pass a test. -/
def After (test : ℕ → Bool) (P : List Char → Prop) (cs : List Char) : Prop :=
  ∃ passed rest, cs = passed ++ rest ∧ (∀ c ∈ passed, test c.toNat = true) ∧ P rest

lemma after_nil_iff {test : ℕ → Bool} {P : List Char → Prop} : After test P [] ↔ P [] := by
  simp [After]

lemma after_cons_iff {test : ℕ → Bool} {P : List Char → Prop} {c : Char} {cs : List Char} :
    After test P (c :: cs) ↔ P (c :: cs) ∨ test c.toNat = true ∧ After test P cs := by
  constructor
  · rintro ⟨passed, rest, hsplit, hpassed, hP⟩
    cases passed with
    | nil => exact .inl (hsplit ▸ hP)
    | cons d passed =>
      obtain ⟨rfl, hrest⟩ := List.cons.inj hsplit
      obtain ⟨hc, hpassed⟩ := List.forall_mem_cons.mp hpassed
      exact .inr ⟨hc, passed, rest, hrest, hpassed, hP⟩
  · rintro (hP | ⟨hc, passed, rest, rfl, hpassed, hP⟩)
    · exact ⟨[], c :: cs, rfl, by simp, hP⟩
    · exact ⟨c :: passed, rest, rfl, List.forall_mem_cons.mpr ⟨hc, hpassed⟩, hP⟩

/-- As many rounds as possible of a test on one character lead to a goal that asks for what is ahead
exactly when this stands after some characters that pass the test. -/
lemma manyRounds_found_iff {test : ℕ → Bool} {k : Goal} {P : List Char → Prop}
    (hk : ∀ t, (k t).isSome ↔ P t.spot.ahead) (fuel : ℕ) (last? : Option ℕ) (t : Trail)
    (hfuel : t.spot.ahead.length < fuel) (hlast : last? ≠ some t.spot.position) :
    (manyRounds (fun t k => t.step test k) fuel none last? t k).isSome ↔
      After test P t.spot.ahead := by
  induction fuel generalizing last? t with
  | zero => omega
  | succ fuel ih =>
    have hmay : mayRepeat none last? t = true := by simpa [mayRepeat] using hlast
    rw [manyRounds, if_pos hmay, Trail.step]
    cases hahead : t.spot.ahead with
    | nil => simp [hk, hahead, after_nil_iff]
    | cons c ahead =>
      have hP := hk t
      rw [hahead] at hP
      rw [after_cons_iff, ← hP]
      by_cases hc : test c.toNat = true
      · -- a further round goes on from the place after `c`
        have hnext := ih (some t.spot.position)
          { t with spot := ⟨t.spot.position + 1, c :: t.spot.behind, ahead⟩ }
          (by simpa [hahead] using hfuel) (by simp)
        simp only [hc, Option.map_none, true_and, ← hnext]
        cases manyRounds (fun t k => t.step test k) fuel none (some t.spot.position)
          { t with spot := ⟨t.spot.position + 1, c :: t.spot.behind, ahead⟩ } k <;> simp
      · simp [hc]

/-- A repetition of a test on one character, of any number of times. -/
lemma repeated_found_iff {test : ℕ → Bool} {body : List Node} {k : Goal} {P : List Char → Prop}
    (hbody : matchAll body flags = fun t k => t.step test k)
    (hk : ∀ t, (k t).isSome ↔ P t.spot.ahead) (t : Trail) :
    (matchNode (.repeated .greedy 0 none body) flags t k).isSome ↔ After test P t.spot.ahead := by
  rw [matchNode, hbody]
  exact manyRounds_found_iff hk _ none t (by omega) (by simp)

end LineAudit.Pattern
