import LineAudit.Text.Lowercase
import Mathlib.Data.Nat.Notation
import Mathlib.Tactic.Common

/-!
Texts whose lower-case form is a plain word.

Beyond ASCII there are two characters only that have an ASCII letter in their lower-case form: the
dotted capital i, which leaves its dot behind, and the sign of the kelvin. Main statement: a text
has a word without `k` for its lower-case form exactly when it is that word in ASCII letters of
either case.
-/

namespace LineAudit.Text

/-! ### Beyond ASCII -/

/-- A code point stays, or moves by the shift of a run that it lies in. -/
lemma moveBy_eq_or (runs : List CaseRun) (n : ℕ) : moveBy runs n = n ∨
    ∃ r ∈ runs, r.first ≤ n ∧ n ≤ r.last ∧ moveBy runs n = (n + r.shift).toNat := by
  induction runs with
  | nil => exact .inl rfl
  | cons r rest ih =>
    rw [moveBy]
    split_ifs with hbefore hin
    · exact .inl rfl
    · exact .inr ⟨r, by simp, by omega, hin.1, rfl⟩
    · exact ih.imp_right fun ⟨r, hr, h⟩ => ⟨r, List.mem_cons_of_mem _ hr, h⟩

/-- Two characters apart, no run moves a code point from beyond ASCII into it. -/
lemma lowerRuns_stay : ∀ r ∈ lowerRuns, r.last < 128 ∨ 128 ≤ (r.first : Int) + r.shift ∨
    r.first = r.last ∧ (r.last = 0x130 ∨ r.last = 0x212a) := by decide +kernel

lemma lowerPoint_ge {n : ℕ} (h : 128 ≤ n) (hdotted : n ≠ 0x130) (hkelvin : n ≠ 0x212a) :
    128 ≤ lowerPoint n := by
  rcases moveBy_eq_or lowerRuns n with hstay | ⟨r, hr, hfirst, hlast, hmoved⟩
  · rwa [lowerPoint, hstay]
  · rw [lowerPoint, hmoved]
    rcases lowerRuns_stay r hr with hascii | hshift | ⟨hone, htwo⟩ <;> omega

lemma toNat_ofNat_eq_or (n : ℕ) : (Char.ofNat n).toNat = n ∨ (Char.ofNat n).toNat = 0 := by
  by_cases hn : n.isValidChar
  · exact .inl (congrArg Char.toNat (dif_pos hn))
  · exact .inr (congrArg Char.toNat (dif_neg hn))

lemma lt_of_isAlpha {c : Char} (h : c.isAlpha = true) : 0 < c.toNat ∧ c.toNat < 128 := by
  have hbounds {low high : UInt32} (hlow : 0 < low.toNat) (hhigh : high.toNat < 128)
      (hge : low ≤ c.val) (hle : c.val ≤ high) : 0 < c.toNat ∧ c.toNat < 128 :=
    ⟨Nat.lt_of_lt_of_le hlow (UInt32.le_iff_toNat_le.mp hge),
      Nat.lt_of_le_of_lt (UInt32.le_iff_toNat_le.mp hle) hhigh⟩
  rcases Bool.or_eq_true_iff.mp h with hupper | hlower
  · obtain ⟨hge, hle⟩ := of_decide_eq_true hupper
    exact hbounds (by decide) (by decide) hge hle
  · obtain ⟨hge, hle⟩ := Bool.and_eq_true_iff.mp hlower
    exact hbounds (by decide) (by decide) (of_decide_eq_true hge) (of_decide_eq_true hle)

/-- Beyond ASCII every character but the sign of the kelvin leaves something that is no letter of
ASCII in its lower-case form. -/
lemma exists_mem_lowerIn {c : Char} (h : 128 ≤ c.toNat) (hkelvin : c ≠ '\u212a')
    (before after : List Char) : ∃ d ∈ lowerIn before c after, d.isAlpha = false := by
  unfold lowerIn
  split_ifs with hdotted hsigma
  · exact ⟨'\u0307', by simp, by decide⟩
  · exact ⟨'ς', by simp, by decide⟩
  · exact ⟨'σ', by simp, by decide⟩
  · refine ⟨_, List.mem_singleton_self _, ?_⟩
    have hpoint {d : Char} (hne : c ≠ d) : c.toNat ≠ d.toNat := fun he =>
      hne (by rw [← Char.ofNat_toNat c, he, Char.ofNat_toNat])
    have hlow := lowerPoint_ge h (hpoint hdotted) (hpoint hkelvin)
    rw [← Bool.not_eq_true]
    intro halpha
    have hascii := lt_of_isAlpha halpha
    rcases toNat_ofNat_eq_or (lowerPoint c.toNat) with he | he <;> omega

lemma lowerIn_kelvin (before after : List Char) : lowerIn before '\u212a' after = ['k'] := by
  have hpoint : Char.ofNat (lowerPoint 0x212a) = 'k' := by decide +kernel
  rw [lowerIn, if_neg (by decide), if_neg (by decide)]
  exact congrArg (· :: []) hpoint

/-! ### Within ASCII -/

lemma lowerPoint_of_lt : ∀ n < 128, Char.ofNat (lowerPoint n) = (Char.ofNat n).toLower := by
  decide +kernel

lemma lowerIn_of_lt {c : Char} (h : c.toNat < 128) (before after : List Char) :
    lowerIn before c after = [c.toLower] := by
  have hdotted : c ≠ 'İ' := by
    rintro rfl
    exact absurd h (by decide)
  have hsigma : c ≠ 'Σ' := by
    rintro rfl
    exact absurd h (by decide)
  rw [lowerIn, if_neg hdotted, if_neg hsigma, lowerPoint_of_lt _ h, Char.ofNat_toNat]

lemma toLower_of_ge {c : Char} (h : 128 ≤ c.toNat) : c.toLower = c := by
  refine dif_neg ?_
  rintro ⟨-, hhigh⟩
  exact absurd (UInt32.le_iff_toNat_le.mp hhigh) (Nat.not_le.mpr (Nat.lt_of_lt_of_le (by decide) h))

/-- Letters of ASCII other than `k`. -/
def PlainWord (word : List Char) : Prop := ∀ d ∈ word, d.isAlpha = true ∧ d ≠ 'k'

instance (word : List Char) : Decidable (PlainWord word) :=
  List.decidableBAll (fun d : Char => d.isAlpha = true ∧ d ≠ 'k') word

/-- **A text has a plain word for its lower-case form exactly when it is that word in ASCII letters
of either case.** -/
lemma lowerFrom_eq_iff {word : List Char} (hword : PlainWord word) (before cs : List Char) :
    lowerFrom before cs = word ↔ cs.map Char.toLower = word := by
  induction cs generalizing before word with
  | nil => rfl
  | cons c rest ih =>
    rw [lowerFrom, List.map_cons]
    by_cases h : c.toNat < 128
    · rw [lowerIn_of_lt h, List.singleton_append]
      cases word with
      | nil => simp
      | cons d word =>
        rw [List.cons_eq_cons, List.cons_eq_cons, ih fun x hx => hword x (by simp [hx])]
    · -- beyond ASCII neither side is a plain word
      have hge : 128 ≤ c.toNat := Nat.not_lt.mp h
      constructor
      · intro heq
        have hmem : ∀ d ∈ lowerIn before c rest, d ∈ word :=
          fun d hd => heq ▸ List.mem_append_left _ hd
        by_cases hkelvin : c = '\u212a'
        · subst hkelvin
          exact absurd rfl (hword 'k' (hmem 'k' (by simp [lowerIn_kelvin]))).2
        · obtain ⟨d, hd, halpha⟩ := exists_mem_lowerIn hge hkelvin before rest
          simp [(hword d (hmem d hd)).1] at halpha
      · intro heq
        have hmem : c ∈ word := by
          rw [← heq, toLower_of_ge hge]
          exact List.mem_cons_self
        exact absurd (lt_of_isAlpha (hword c hmem).1).2 h

end LineAudit.Text
