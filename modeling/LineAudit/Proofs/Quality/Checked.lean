import LineAudit.Proofs.Lists
import LineAudit.Proofs.Outcome
import LineAudit.Proofs.Quality.Constraint
import LineAudit.Proofs.Quality.Versions
import LineAudit.Quality.Facts

/-!
Which compilers check arithmetic, as far as the pragma tells.

The releases named in a pragma are found by their digits, without a look at comparators. Main
result: when a pragma is told to check arithmetic, it keeps out the releases that do not exactly if
some constraint in it is no upper bound.
-/

namespace LineAudit

namespace Pragma

open Text (isDigit)

/-! ### Written pragmas -/

lemma digitValue?_of_isDigit {c : Char} (h : c.isDigit = true) :
    Text.digitValue? c = some (c.toNat - 48) := by
  have hlow : 48 ≤ c.toNat := (Char.isDigit_iff_toNat.mp h).1
  have hhigh : c.toNat ≤ 57 := (Char.isDigit_iff_toNat.mp h).2
  simp only [Text.digitValue?, Text.digitZeros, Text.rowValue?]
  rw [if_neg (by omega), if_pos (by omega)]

lemma isDigit_of_mem_toDigits {c : Char} {n : ℕ} (h : c ∈ Nat.toDigits 10 n) :
    isDigit c = true := by
  have hc := Nat.isDigit_of_mem_toDigits (by decide) (by decide) h
  rw [isDigit, digitValue?_of_isDigit hc]
  rfl

lemma ofDigits_filterMap {ds : List Char} (h : ∀ c ∈ ds, c.isDigit = true) :
    Number.ofDigits 10 (ds.filterMap Text.digitValue?) = Nat.ofDigitChars 10 ds 0 := by
  unfold Number.ofDigits Nat.ofDigitChars
  generalize 0 = start
  induction ds generalizing start with
  | nil => rfl
  | cons c rest ih =>
    obtain ⟨hc, hrest⟩ := List.forall_mem_cons.mp h
    rw [List.filterMap_cons_some (digitValue?_of_isDigit hc), List.foldl_cons, List.foldl_cons,
      ih hrest]
    rfl

/-- A number is read back from its digits, if there are not too many of them. -/
lemma readDigits_toDigits {m n : ℕ} (h : readDigits (Nat.toDigits 10 n) = .ok m) : m = n := by
  unfold readDigits at h
  split at h
  · cases h
  · rw [← Except.ok.inj h, ofDigits_filterMap fun c hc =>
      Nat.isDigit_of_mem_toDigits (by decide) (by decide) hc, Nat.ofDigitChars_ten_toDigits]

lemma Comparator.digitless_chars (comparator : Comparator) : Digitless comparator.chars := by
  cases comparator <;> decide

lemma Constraint.digitless_comparator (c : Constraint) :
    Digitless ((c.comparator?.map Comparator.chars).getD []) := by
  cases c.comparator? with
  | none => exact List.forall_mem_nil _
  | some comparator => exact comparator.digitless_chars

/-- The digits of the first two numbers of a release. -/
def Release.digits (r : Release) : List Char × List Char :=
  (Nat.toDigits 10 r.major, Nat.toDigits 10 r.minor)

lemma isNumber_toDigits (n : ℕ) : IsNumber (Nat.toDigits 10 n) :=
  ⟨Nat.toDigits_ne_nil, fun _ hc => isDigit_of_mem_toDigits hc⟩

lemma namedDigits_release (r : Release) {rest : List Char} (hrest : AfterDigits rest) :
    namedDigits (r.chars ++ rest) = r.digits :: namedDigits rest := by
  have hlong := StartsVersion.long (isNumber_toDigits r.major) (isNumber_toDigits r.minor)
    (isNumber_toDigits r.patch) hrest
  rw [← Release.digits] at hlong
  rw [← namedDigits_of_startsVersion hlong]
  simp [Release.chars]

/-- What follows a constraint in a pragma does not start with a digit. -/
lemma afterDigits_next (row : List Constraint) :
    AfterDigits (row.flatMap (fun c => ' ' :: c.chars) ++ [';']) := by
  cases row with
  | nil =>
    rintro c ⟨⟩
    decide
  | cons c row =>
    rintro d ⟨⟩
    decide

/-- The versions found in a pragma are the releases named by its constraints. -/
lemma namedDigits_written (row : List Constraint) :
    namedDigits (written row) = row.map fun c => c.release.digits := by
  have hopening : Digitless "pragma solidity".toList := by
    rw [String.toList_ofList]
    decide
  refine (namedDigits_skip hopening _).trans ?_
  induction row with
  | nil => decide
  | cons c row ih =>
    have hplain : Digitless (' ' :: (c.comparator?.map Comparator.chars).getD []) :=
      List.forall_mem_cons.mpr ⟨by decide, c.digitless_comparator⟩
    calc namedDigits ((c :: row).flatMap (fun c => ' ' :: c.chars) ++ [';'])
        = namedDigits ((' ' :: (c.comparator?.map Comparator.chars).getD []) ++
            (c.release.chars ++ (row.flatMap (fun c => ' ' :: c.chars) ++ [';']))) := by
          simp [Constraint.chars]
      _ = c.release.digits :: namedDigits (row.flatMap (fun c => ' ' :: c.chars) ++ [';']) := by
          rw [namedDigits_skip hplain, namedDigits_release c.release (afterDigits_next row)]
      _ = (c :: row).map fun c => c.release.digits := by rw [ih, List.map_cons]

/-- The first release that checks arithmetic. -/
def firstChecked : Release := ⟨0, 8, 0⟩

lemma firstChecked_le_iff (r : Release) :
    firstChecked ≤ r ↔ Version.isChecked ⟨r.major, r.minor⟩ = true := by
  rw [← not_lt, Release.lt_iff]
  simp [firstChecked, Version.isChecked]
  omega

/-- The first two numbers of a release. -/
def Release.version (r : Release) : Version := ⟨r.major, r.minor⟩

lemma readVersion_digits {r : Release} {v : Version} (h : readVersion r.digits = .ok v) :
    r.version = v := by
  simp only [readVersion, Release.digits, bind_eq_ok_iff, pure_eq_ok_iff] at h
  obtain ⟨major, hmajor, minor, hminor, rfl⟩ := h
  rw [readDigits_toDigits hmajor, readDigits_toDigits hminor, Release.version]

lemma versions_written {s : String} {row : List Constraint} {vs : List Version}
    (hs : s.toList = written row) (h : versions s = .ok vs) :
    row.map (fun c => c.release.version) = vs := by
  have hdigits : versionDigits (s.length + 1) s.toList = row.map fun c => c.release.digits := by
    rw [← namedDigits_written, ← hs, namedDigits, String.length_toList]
  rw [versions, hdigits, mapM_eq_ok_iff, List.forall₂_map_left_iff] at h
  rw [← List.forall₂_eq_eq_eq, List.forall₂_map_left_iff]
  exact h.imp fun c v => readVersion_digits

/-- When a pragma is told to check arithmetic, its constraints name releases that do. -/
lemma firstChecked_le_of_namesChecked {s : String} {row : List Constraint}
    (hs : s.toList = written row) (h : namesChecked s = .ok true) :
    ∀ c ∈ row, firstChecked ≤ c.release := by
  unfold namesChecked at h
  split at h
  next vs hvs =>
    have hall := (Bool.and_eq_true_iff.mp (Except.ok.inj h)).2
    rw [← versions_written hs hvs, List.all_map, List.all_eq_true] at hall
    exact fun c hc => (firstChecked_le_iff c.release).mpr (hall c hc)
  next => cases h

end Pragma

namespace Quality

open Pragma (Constraint Satisfies firstChecked)

/-- The first pragma is the first line that is one, over all files. -/
lemma firstPragma?_eq (files : List SourceFile) : (firstPragma? files).map (·.1) =
    ((files.flatMap SourceFile.lines).find? Pragma.isPragma).map Text.strip := by
  induction files with
  | nil => rfl
  | cons f rest ih =>
    rw [firstPragma?, List.flatMap_cons, List.find?_append]
    cases f.lines.find? Pragma.isPragma with
    | some line => rfl
    | none => exact ih

/-- Whether arithmetic is checked: what is told of the first pragma. -/
def checksArithmetic (files : List SourceFile) : Except ℕ Bool :=
  match firstPragma? files with
  | some (line, _) => Pragma.namesChecked line
  | none => .ok false

/-- The facts, by whether arithmetic is checked. -/
def factsWith (files : List SourceFile) (isChecked : Bool) : List Fact :=
  let pragma? := firstPragma? files
  let source := sourceText (pragma?.map (·.2))
  [presence "deps.openzeppelin" ["@openzeppelin"] files,
    presence "guards.reentrancy" ["ReentrancyGuard", "nonReentrant"] files,
    ⟨"compiler.pragma", (pragma?.map fun p => Writable.str p.1).getD .null, source⟩,
    ⟨"compiler.checked_arithmetic", .bool isChecked, source⟩]

lemma facts_eq (files : List SourceFile) :
    Quality.facts files = (checksArithmetic files).map (factsWith files) := by
  unfold Quality.facts checksArithmetic factsWith
  cases firstPragma? files with
  | none => rfl
  | some pragma =>
    dsimp only
    cases Pragma.namesChecked pragma.1 <;> rfl

/-- The facts say that arithmetic is checked. -/
def TellsChecked (facts : List Fact) : Prop :=
  ∃ fact ∈ facts, fact.key = "compiler.checked_arithmetic" ∧ fact.value = .bool true

lemma checksArithmetic_of_tellsChecked {files : List SourceFile} {facts : List Fact}
    (h : Quality.facts files = .ok facts) (hchecked : TellsChecked facts) :
    checksArithmetic files = .ok true := by
  rw [facts_eq] at h
  cases hchecks : checksArithmetic files with
  | error digits =>
    rw [hchecks] at h
    cases h
  | ok isChecked =>
    rw [hchecks] at h
    obtain rfl := Except.ok.inj h
    have htrue : isChecked = true := by simpa [TellsChecked, factsWith, presence] using hchecked
    rw [htrue]

/-- **When the facts say that arithmetic is checked, the pragma keeps out every release that does
not check it, if some constraint in it is no upper bound.** A pragma of upper bounds alone lets such
releases in. -/
theorem excludesUnchecked_iff {files : List SourceFile} {facts : List Fact} {line : String}
    {row : List Constraint}
    (hline : (files.flatMap SourceFile.lines).find? Pragma.isPragma = some line)
    (hrow : Text.strip line = String.ofList (Pragma.written row))
    (hfacts : Quality.facts files = .ok facts) (hchecked : TellsChecked facts) :
    (∀ r, Satisfies r row → ¬ r < firstChecked) ↔ ∃ c ∈ row, ¬ c.IsUpperBound := by
  have hfirst := firstPragma?_eq files
  have hchecks := checksArithmetic_of_tellsChecked hfacts hchecked
  rw [hline] at hfirst
  obtain ⟨⟨line', f⟩, hpragma, rfl⟩ := Option.map_eq_some_iff.mp hfirst
  rw [checksArithmetic, hpragma] at hchecks
  refine Pragma.forall_satisfies_iff (by decide) ?_
  refine Pragma.firstChecked_le_of_namesChecked ?_ hchecks
  exact (congrArg String.toList hrow).trans String.toList_ofList

/-- The facts of files that are told to check arithmetic. -/
lemma exists_facts (files : List SourceFile) (h : checksArithmetic files = .ok true) :
    ∃ facts, Quality.facts files = .ok facts ∧ TellsChecked facts :=
  ⟨factsWith files true, by rw [facts_eq, h]; rfl, by simp [TellsChecked, factsWith]⟩

/-- Two files, of which the second one has a pragma with two bounds. -/
def boundedFiles : List SourceFile :=
  [⟨"A.sol", ["// pragma"]⟩, ⟨"B.sol", ["", "  pragma solidity >=0.8.4 <0.9.0; "]⟩]

/-- The constraints of that pragma. -/
def boundedRow : List Constraint := [⟨some .atLeast, ⟨0, 8, 4⟩⟩, ⟨some .below, ⟨0, 9, 0⟩⟩]

theorem excludesUnchecked_iff_boundedFiles : ∃ line facts,
    (boundedFiles.flatMap SourceFile.lines).find? Pragma.isPragma = some line ∧
    Text.strip line = String.ofList (Pragma.written boundedRow) ∧
    Quality.facts boundedFiles = .ok facts ∧ TellsChecked facts ∧
    ∀ r, Satisfies r boundedRow → ¬ r < firstChecked := by
  obtain ⟨facts, hfacts, hchecked⟩ := exists_facts boundedFiles (by decide +kernel)
  have hline : (boundedFiles.flatMap SourceFile.lines).find? Pragma.isPragma =
      some "  pragma solidity >=0.8.4 <0.9.0; " := by decide +kernel
  have hrow : Text.strip "  pragma solidity >=0.8.4 <0.9.0; " =
      String.ofList (Pragma.written boundedRow) := by decide +kernel
  refine ⟨_, facts, hline, hrow, hfacts, hchecked, ?_⟩
  refine (excludesUnchecked_iff hline hrow hfacts hchecked).mpr ⟨⟨some .atLeast, ⟨0, 8, 4⟩⟩, ?_⟩
  simp [boundedRow, Pragma.Constraint.IsUpperBound]

/-- A file whose pragma has an upper bound alone. -/
def openFiles : List SourceFile := [⟨"A.sol", ["pragma solidity <0.9.0;"]⟩]

/-- Such a pragma lets in a release that does not check arithmetic, while the facts say that
arithmetic is checked. -/
theorem not_excludesUnchecked_openFiles : ∃ line facts r,
    (openFiles.flatMap SourceFile.lines).find? Pragma.isPragma = some line ∧
    Text.strip line = String.ofList (Pragma.written [⟨some .below, ⟨0, 9, 0⟩⟩]) ∧
    Quality.facts openFiles = .ok facts ∧ TellsChecked facts ∧
    Satisfies r [⟨some .below, ⟨0, 9, 0⟩⟩] ∧ r < firstChecked := by
  obtain ⟨facts, hfacts, hchecked⟩ := exists_facts openFiles (by decide +kernel)
  have hline : (openFiles.flatMap SourceFile.lines).find? Pragma.isPragma =
      some "pragma solidity <0.9.0;" := by decide +kernel
  exact ⟨_, facts, ⟨0, 7, 6⟩, hline, by decide +kernel, hfacts, hchecked, by decide, by decide⟩

end Quality

end LineAudit
