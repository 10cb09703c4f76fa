import LineAudit.Quality.Pragma
import Mathlib.Data.List.TakeWhile
import Mathlib.Tactic.Common

/-!
The versions named in a text.

A text is gone through from left to right. Where digits, a point and digits start, with all digits
that there are and with a third number if one follows, a version is found, and the scan goes on
after it; elsewhere it goes on with the next character. Main statement: the versions that are named
are those found in this way.
-/

namespace LineAudit.Pragma

open Text (isDigit)

/-! ### Digits -/

/-- A text that goes on after digits does not start with one. -/
def AfterDigits (cs : List Char) : Prop := ∀ c ∈ cs.head?, isDigit c = false

/-- A text is split where its digits end. -/
lemma split_digits {ds tail : List Char} (hds : ∀ c ∈ ds, isDigit c = true)
    (htail : AfterDigits tail) :
    (ds ++ tail).takeWhile isDigit = ds ∧ (ds ++ tail).dropWhile isDigit = tail := by
  rw [List.takeWhile_append_of_pos hds, List.dropWhile_append_of_pos hds]
  cases tail with
  | nil => simp
  | cons c tail =>
    have hc : ¬ isDigit c = true := by simp [htail c rfl]
    simp [hc]

lemma afterDigits_dropWhile (cs : List Char) : AfterDigits (cs.dropWhile isDigit) := by
  intro c hc
  have hfirst := List.head?_dropWhile_not isDigit cs
  rw [Option.mem_def.mp hc] at hfirst
  simpa using hfirst

/-! ### The scan -/

lemma length_dropPatch_le (cs : List Char) : (dropPatch cs).length ≤ cs.length := by
  unfold dropPatch
  split
  · split
    · exact (List.length_dropWhile_le ..).trans (Nat.le_succ _)
    · exact Nat.le_refl _
  · exact Nat.le_refl _

/-- The scan does not depend on its fuel, if there is enough of it. -/
lemma versionDigits_fuel {fuel fuel' : ℕ} {cs : List Char} (h : cs.length < fuel)
    (h' : cs.length < fuel') : versionDigits fuel cs = versionDigits fuel' cs := by
  induction fuel generalizing fuel' cs with
  | zero => omega
  | succ fuel ih =>
    obtain ⟨fuel', rfl⟩ : ∃ n, fuel' = n + 1 := ⟨fuel' - 1, by omega⟩
    cases cs with
    | nil => rfl
    | cons c rest =>
      have hlength := List.length_dropWhile_le isDigit rest
      simp only [List.length_cons] at h h'
      have hsame (left : List Char) (hleft : left.length ≤ rest.length) :
          versionDigits fuel left = versionDigits fuel' left := ih (by omega) (by omega)
      simp only [versionDigits]
      split
      next =>
        split
        next after hafter =>
          rw [hafter, List.length_cons] at hlength
          have hminor := List.length_dropWhile_le isDigit after
          have hpatch := length_dropPatch_le (after.dropWhile isDigit)
          rw [hsame after (by omega),
            hsame (dropPatch (after.dropWhile isDigit)) (by omega)]
        next => exact hsame _ hlength
      next => exact hsame _ (Nat.le_refl _)

/-- The digits of all versions in a text. -/
def namedDigits (cs : List Char) : List (List Char × List Char) :=
  versionDigits (cs.length + 1) cs

/-- Characters none of which is a digit. -/
def Digitless (cs : List Char) : Prop := ∀ c ∈ cs, isDigit c = false

instance (cs : List Char) : Decidable (Digitless cs) :=
  List.decidableBAll (fun c => isDigit c = false) cs

lemma namedDigits_skip {plain : List Char} (hplain : Digitless plain) (rest : List Char) :
    namedDigits (plain ++ rest) = namedDigits rest := by
  induction plain with
  | nil => rfl
  | cons c plain ih =>
    obtain ⟨hc, hplain⟩ := List.forall_mem_cons.mp hplain
    rw [← ih hplain, List.cons_append, namedDigits, List.length_cons, versionDigits]
    simp [hc, namedDigits]

/-- A number: one digit or more. -/
structure IsNumber (ds : List Char) : Prop where
  ne_nil : ds ≠ []
  digits : ∀ c ∈ ds, isDigit c = true

/-- Digits, a point and digits are a version, whose third number is passed over. -/
lemma namedDigits_version {major minor tail : List Char} (hmajor : IsNumber major)
    (hminor : IsNumber minor) (htail : AfterDigits tail) :
    namedDigits (major ++ '.' :: (minor ++ tail)) =
      (major, minor) :: namedDigits (dropPatch tail) := by
  obtain ⟨m, ms, rfl⟩ := List.exists_cons_of_ne_nil hmajor.ne_nil
  obtain ⟨hm, hms⟩ := List.forall_mem_cons.mp hmajor.digits
  have hpoint : AfterDigits ('.' :: (minor ++ tail)) := by
    rintro c ⟨⟩
    decide
  have hpatch := length_dropPatch_le tail
  rw [namedDigits, List.cons_append, versionDigits, if_pos hm]
  simp only [split_digits hms hpoint, split_digits hminor.digits htail]
  rw [if_neg (by simpa using hminor.ne_nil)]
  refine congrArg _ (versionDigits_fuel ?_ (Nat.lt_succ_self _))
  simp only [List.length_cons, List.length_append]
  omega

/-- Digits are passed over when no point and no second digits follow. -/
lemma namedDigits_digits {ds tail : List Char} (hds : ∀ c ∈ ds, isDigit c = true)
    (htail : AfterDigits tail) (hno : ∀ c rest, tail = '.' :: c :: rest → isDigit c = false) :
    namedDigits (ds ++ tail) = namedDigits tail := by
  cases ds with
  | nil => rfl
  | cons d ds =>
    obtain ⟨hd, hds⟩ := List.forall_mem_cons.mp hds
    have hfuel {cs : List Char} (hcs : cs.length ≤ tail.length) :
        versionDigits ((ds ++ tail).length + 1) cs = namedDigits cs :=
      versionDigits_fuel (by simp; omega) (Nat.lt_succ_self _)
    rw [namedDigits, List.cons_append, List.length_cons, versionDigits, if_pos hd]
    simp only [split_digits hds htail]
    split
    next rest =>
      have hminor : rest.takeWhile isDigit = [] := by
        cases rest with
        | nil => rfl
        | cons c rest => simp [hno c rest rfl]
      have hpoint : Digitless ['.'] := by decide
      rw [hminor, List.isEmpty_nil, if_pos rfl, hfuel (by simp)]
      exact (namedDigits_skip hpoint rest).symm
    next => exact hfuel (Nat.le_refl _)

/-! ### What is found -/

/-- A version stands at the start of a text, with something left after it. -/
inductive StartsVersion : List Char → List Char × List Char → List Char → Prop
  | long {major minor patch left : List Char} (hmajor : IsNumber major) (hminor : IsNumber minor)
      (hpatch : IsNumber patch) (hleft : AfterDigits left) :
      StartsVersion (major ++ '.' :: (minor ++ '.' :: (patch ++ left))) (major, minor) left
  | short {major minor left : List Char} (hmajor : IsNumber major) (hminor : IsNumber minor)
      (hleft : AfterDigits left) (hno : ∀ c rest, left = '.' :: c :: rest → isDigit c = false) :
      StartsVersion (major ++ '.' :: (minor ++ left)) (major, minor) left

/-- Versions are found in a text from left to right, none of them within another one. -/
inductive Scans : List Char → List (List Char × List Char) → Prop
  | done : Scans [] []
  | skip {c : Char} {rest : List Char} {found : List (List Char × List Char)}
      (hno : ∀ v left, ¬ StartsVersion (c :: rest) v left) (h : Scans rest found) :
      Scans (c :: rest) found
  | found {cs left : List Char} {v : List Char × List Char} {found : List (List Char × List Char)}
      (hv : StartsVersion cs v left) (h : Scans left found) : Scans cs (v :: found)

lemma dropPatch_of_number {patch left : List Char} (hpatch : IsNumber patch)
    (hleft : AfterDigits left) : dropPatch ('.' :: (patch ++ left)) = left := by
  have hfirst : ((patch ++ left).head?.map isDigit).getD false = true := by
    obtain ⟨p, ps, rfl⟩ := List.exists_cons_of_ne_nil hpatch.ne_nil
    exact hpatch.digits p (by simp)
  rw [dropPatch, if_pos hfirst, (split_digits hpatch.digits hleft).2]

lemma dropPatch_of_no_number {cs : List Char}
    (hno : ∀ c rest, cs = '.' :: c :: rest → isDigit c = false) : dropPatch cs = cs := by
  unfold dropPatch
  split
  next rest =>
    cases rest with
    | nil => rfl
    | cons c rest => simp [hno c rest rfl]
  next => rfl

lemma namedDigits_of_startsVersion {cs left : List Char} {v : List Char × List Char}
    (h : StartsVersion cs v left) : namedDigits cs = v :: namedDigits left := by
  cases h with
  | long hmajor hminor hpatch hleft =>
    have hpoint : ∀ rest, AfterDigits ('.' :: rest) := by
      rintro rest c ⟨⟩
      decide
    rw [namedDigits_version hmajor hminor (hpoint _), dropPatch_of_number hpatch hleft]
  | short hmajor hminor hleft hno =>
    rw [namedDigits_version hmajor hminor hleft, dropPatch_of_no_number hno]

/-- After digits, a point and a digit there is a version. -/
lemma exists_startsVersion {ds : List Char} (hds : IsNumber ds) {c : Char}
    (hc : isDigit c = true) (rest : List Char) :
    ∃ v left, StartsVersion (ds ++ '.' :: c :: rest) v left := by
  have hminor : IsNumber (c :: rest.takeWhile isDigit) := by
    refine ⟨by simp, List.forall_mem_cons.mpr ⟨hc, fun d hd => List.mem_takeWhile_imp hd⟩⟩
  have hsplit : c :: rest = (c :: rest.takeWhile isDigit) ++ rest.dropWhile isDigit := by simp
  have hafter := afterDigits_dropWhile rest
  generalize rest.dropWhile isDigit = tail at hsplit hafter
  by_cases hpatch : ∃ d after, tail = '.' :: d :: after ∧ isDigit d = true
  · obtain ⟨d, after, rfl, hd⟩ := hpatch
    have hthird : IsNumber (d :: after.takeWhile isDigit) := by
      refine ⟨by simp, List.forall_mem_cons.mpr ⟨hd, fun x hx => List.mem_takeWhile_imp hx⟩⟩
    have hthirdSplit : d :: after = (d :: after.takeWhile isDigit) ++ after.dropWhile isDigit := by
      simp
    refine ⟨(ds, c :: rest.takeWhile isDigit), after.dropWhile isDigit, ?_⟩
    rw [hsplit, hthirdSplit]
    exact .long hds hminor hthird (afterDigits_dropWhile after)
  · refine ⟨(ds, c :: rest.takeWhile isDigit), tail, ?_⟩
    rw [hsplit]
    refine .short hds hminor hafter fun d after he => ?_
    by_contra hd
    exact hpatch ⟨d, after, he, by simpa using hd⟩

/-- Where no version starts, the scan goes on with the next character. -/
lemma namedDigits_of_not_startsVersion {c : Char} {rest : List Char}
    (h : ∀ v left, ¬ StartsVersion (c :: rest) v left) :
    namedDigits (c :: rest) = namedDigits rest := by
  by_cases hc : isDigit c = true
  · have hds : ∀ d ∈ rest.takeWhile isDigit, isDigit d = true :=
      fun d hd => List.mem_takeWhile_imp hd
    have hrest : rest = rest.takeWhile isDigit ++ rest.dropWhile isDigit :=
      List.takeWhile_append_dropWhile.symm
    have htail := afterDigits_dropWhile rest
    have hno : ∀ d after, rest.dropWhile isDigit = '.' :: d :: after → isDigit d = false := by
      intro d after he
      by_contra hd
      have hnumber : IsNumber (c :: rest.takeWhile isDigit) :=
        ⟨by simp, List.forall_mem_cons.mpr ⟨hc, hds⟩⟩
      obtain ⟨v, left, hv⟩ := exists_startsVersion hnumber (by simpa using hd) after
      rw [← he, List.cons_append, ← hrest] at hv
      exact h v left hv
    have hlong := namedDigits_digits (List.forall_mem_cons.mpr ⟨hc, hds⟩) htail hno
    have hshort := namedDigits_digits hds htail hno
    rw [List.cons_append, ← hrest] at hlong
    rw [← hrest] at hshort
    exact hlong.trans hshort.symm
  · have hplain : Digitless [c] := by simpa [Digitless] using hc
    exact namedDigits_skip hplain rest

lemma StartsVersion.length_lt {cs left : List Char} {v : List Char × List Char}
    (h : StartsVersion cs v left) : left.length < cs.length := by
  cases h <;> simp <;> omega

/-- **The versions that are named are those found from left to right.** -/
theorem scans_iff {cs : List Char} {found : List (List Char × List Char)} :
    Scans cs found ↔ found = namedDigits cs := by
  constructor
  · intro h
    induction h with
    | done => rfl
    | skip hno _ ih => rw [ih, namedDigits_of_not_startsVersion hno]
    | found hv _ ih => rw [ih, namedDigits_of_startsVersion hv]
  · rintro rfl
    induction hn : cs.length using Nat.strong_induction_on generalizing cs with
    | _ n ih =>
      cases cs with
      | nil => exact .done
      | cons c rest =>
        by_cases hv : ∃ v left, StartsVersion (c :: rest) v left
        · obtain ⟨v, left, hv⟩ := hv
          rw [namedDigits_of_startsVersion hv]
          exact .found hv (ih _ (hn ▸ hv.length_lt) rfl)
        · push Not at hv
          rw [namedDigits_of_not_startsVersion hv]
          exact .skip hv (ih _ (hn ▸ Nat.lt_succ_self _) rfl)

end LineAudit.Pragma
