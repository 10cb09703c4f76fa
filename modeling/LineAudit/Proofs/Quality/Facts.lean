import LineAudit.Proofs.Matcher.Occurrence
import LineAudit.Proofs.Quality.Checked
import LineAudit.Proofs.Text.Blank

/-!
What the facts tell about some files.

The first two facts name the first file with a line that holds one of some texts, and the other two
the file of the first pragma. Main result: all four are told of the files as they are; the order of
the files changes neither of the first two answers, and nothing after the first pragma changes the
last two.
-/

namespace LineAudit

namespace Pragma

open Text (isBlank isWordChar)

/-! ### Lines that open a pragma -/

/-- After white space, the two words that open a pragma start a line, with white space between them,
and the second one ends there. -/
def Opens (line : List Char) : Prop := ∃ indent gap rest,
  line = indent ++ ("pragma".toList ++ (gap ++ ("solidity".toList ++ rest))) ∧
  (∀ c ∈ indent, isBlank c = true) ∧ gap ≠ [] ∧ (∀ c ∈ gap, isBlank c = true) ∧
  ∀ c ∈ rest.head?, isWordChar c = false

lemma afterWord?_eq_some_iff {word cs rest : List Char} :
    afterWord? word cs = some rest ↔ cs = word ++ rest := by
  unfold afterWord?
  split
  next h =>
    obtain ⟨tail, rfl⟩ := List.isPrefixOf_iff_prefix.mp h
    simp
  next h =>
    refine iff_of_false nofun ?_
    rintro rfl
    exact h (List.isPrefixOf_iff_prefix.mpr (List.prefix_append word rest))

lemma exists_gap {cs rest : List Char} (h : afterBlanks? cs = some rest) :
    ∃ gap, cs = gap ++ rest ∧ gap ≠ [] ∧ ∀ c ∈ gap, isBlank c = true := by
  cases cs with
  | nil => cases h
  | cons c cs =>
    obtain ⟨hc, hrest⟩ := Option.ite_none_right_eq_some.mp h
    refine ⟨c :: cs.takeWhile isBlank, ?_, List.cons_ne_nil _ _, ?_⟩
    · rw [← Option.some.inj hrest]
      exact congrArg (c :: ·) List.takeWhile_append_dropWhile.symm
    · exact List.forall_mem_cons.mpr ⟨hc, fun d hd => List.mem_takeWhile_imp hd⟩

lemma afterBlanks?_append {gap word : List Char} (hne : gap ≠ [])
    (hgap : ∀ c ∈ gap, isBlank c = true) (hword : word ≠ []) (hsolid : Text.Solid word)
    (rest : List Char) : afterBlanks? (gap ++ (word ++ rest)) = some (word ++ rest) := by
  obtain ⟨c, gap, rfl⟩ := List.exists_cons_of_ne_nil hne
  obtain ⟨hc, hgap⟩ := List.forall_mem_cons.mp hgap
  rw [List.cons_append, afterBlanks?, if_pos hc, Text.dropBlanks_append hgap hword hsolid]

lemma endsWord_iff {cs : List Char} :
    endsWord cs = true ↔ ∀ c ∈ cs.head?, isWordChar c = false := by
  cases cs <;> simp [endsWord]

lemma solid_pragma : Text.Solid "pragma".toList := by
  rw [String.toList_ofList]
  decide

lemma solid_solidity : Text.Solid "solidity".toList := by
  rw [String.toList_ofList]
  decide

lemma isPragma_iff {line : String} : isPragma line = true ↔ Opens line.toList := by
  rw [isPragma, Option.isSome_iff_exists]
  simp only [body?, Option.bind_eq_bind, Option.bind_eq_some_iff, afterWord?_eq_some_iff,
    Option.ite_none_right_eq_some]
  constructor
  · rintro ⟨-, first, hfirst, second, hsecond, rest, rfl, hends, -⟩
    obtain ⟨gap, rfl, hne, hgap⟩ := exists_gap hsecond
    refine ⟨line.toList.takeWhile isBlank, gap, rest, ?_, fun c hc => List.mem_takeWhile_imp hc,
      hne, hgap, endsWord_iff.mp hends⟩
    rw [← hfirst]
    exact List.takeWhile_append_dropWhile.symm
  · rintro ⟨indent, gap, rest, hline, hindent, hne, hgap, hends⟩
    refine ⟨rest, gap ++ ("solidity".toList ++ rest), ?_, "solidity".toList ++ rest, ?_, rest, rfl,
      endsWord_iff.mpr hends, rfl⟩
    · rw [hline, Text.dropBlanks_append hindent (by decide) solid_pragma]
    · exact afterBlanks?_append hne hgap (by decide) solid_solidity rest

/-! ### Versions of a pragma -/

/-- The number that digits of any script write. -/
def number (ds : List Char) : ℕ := Number.ofDigits 10 (ds.filterMap Text.digitValue?)

/-- Neither number of a version has too many digits to be read. -/
def Readable (v : List Char × List Char) : Prop := v.1.length ≤ 4300 ∧ v.2.length ≤ 4300

lemma readVersion_of_readable {v : List Char × List Char} (h : Readable v) :
    readVersion v = .ok ⟨number v.1, number v.2⟩ := by
  have hread {ds : List Char} (hds : ds.length ≤ 4300) : readDigits ds = .ok (number ds) :=
    if_neg (Nat.not_lt.mpr hds)
  rw [readVersion, hread h.1, hread h.2]
  rfl

lemma isChecked_iff (major minor : ℕ) : Version.isChecked ⟨major, minor⟩ = true ↔
    toLex (0, 8) ≤ toLex (major, minor) := by
  rw [Prod.Lex.toLex_le_toLex]
  simp [Version.isChecked]
  omega

/-- Some versions are found, and none of them comes before 0.8. -/
def AllChecked (found : List (List Char × List Char)) : Prop :=
  found ≠ [] ∧ ∀ v ∈ found, toLex (0, 8) ≤ toLex (number v.1, number v.2)

/-- A pragma whose versions can be read is told to check arithmetic exactly if all of them do. -/
lemma exists_namesChecked {s : String} {found : List (List Char × List Char)}
    (hscan : Scans s.toList found) (hread : ∀ v ∈ found, Readable v) :
    ∃ isChecked, namesChecked s = .ok isChecked ∧ (isChecked = true ↔ AllChecked found) := by
  have hversions : versions s = .ok (found.map fun v => ⟨number v.1, number v.2⟩) := by
    rw [versions, ← String.length_toList, ← namedDigits, ← scans_iff.mp hscan, mapM_eq_ok_iff,
      List.forall₂_map_right_iff, List.forall₂_same]
    exact fun v hv => readVersion_of_readable (hread v hv)
  rw [namesChecked, hversions]
  refine ⟨_, rfl, ?_⟩
  simp [AllChecked, isChecked_iff]

end Pragma

namespace Quality

variable {files before : List SourceFile} {f : SourceFile} {line : String}
  {above : List String} {isChecked : Bool}

/-! ### Where a text is found -/

/-- Some line of a file holds one of some texts. -/
def HoldsText (needles : List String) (f : SourceFile) : Prop :=
  ∃ line ∈ f.lines, ∃ needle ∈ needles, Occurs needle line

/-- Whether something is found, and where it is known from. -/
structure Presence where
  isFound : Bool
  source : String

/-- What is found is in the first file that holds one of the texts. -/
inductive Presence.Describes (needles : List String) (files : List SourceFile) : Presence → Prop
  | file {before after : List SourceFile} {f : SourceFile} (hfiles : files = before ++ f :: after)
      (hbefore : ∀ g ∈ before, ¬ HoldsText needles g) (hf : HoldsText needles f) :
      Describes needles files ⟨true, "quality:" ++ f.path⟩
  | corpus (hno : ∀ f ∈ files, ¬ HoldsText needles f) :
      Describes needles files ⟨false, "quality:corpus"⟩

lemma Presence.Describes.isFound_iff {needles : List String} {p : Presence}
    (h : p.Describes needles files) : p.isFound = true ↔ ∃ f ∈ files, HoldsText needles f := by
  cases h with
  | file hfiles hbefore hf => exact iff_of_true rfl ⟨_, by simp [hfiles], hf⟩
  | corpus hno => exact iff_of_false nofun fun ⟨f, hmem, hf⟩ => hno f hmem hf

/-- The presence of some texts, as it is told. -/
def presenceOf (needles : List String) (files : List SourceFile) : Presence :=
  ⟨(firstFileWith? needles files).isSome, sourceText (firstFileWith? needles files)⟩

lemma holdsText_iff {needles : List String} {f : SourceFile} :
    (f.lines.any fun line => needles.any (contains line)) = true ↔ HoldsText needles f := by
  simp [HoldsText, contains_iff]

lemma sourceText_file (hf : f.path ≠ "") : sourceText (some f) = "quality:" ++ f.path := by
  have hne : f.path.isEmpty = false := by simpa using hf
  simp [sourceText, hne]

lemma presenceOf_describes (hpaths : ∀ f ∈ files, f.path ≠ "") (needles : List String) :
    (presenceOf needles files).Describes needles files := by
  unfold presenceOf
  cases hfirst : firstFileWith? needles files with
  | none =>
    refine .corpus fun f hf hholds => ?_
    exact List.find?_eq_none.mp hfirst f hf (holdsText_iff.mpr hholds)
  | some f =>
    obtain ⟨hf, before, after, hfiles, hbefore⟩ := List.find?_eq_some_iff_append.mp hfirst
    rw [sourceText_file (hpaths f (List.mem_of_find?_eq_some hfirst))]
    refine .file hfiles (fun g hg hholds => ?_) (holdsText_iff.mp hf)
    have hno := hbefore g hg
    rw [holdsText_iff.mpr hholds] at hno
    cases hno

/-! ### The first pragma -/

/-- A line opens a pragma, and none is opened before it: neither in the files before its own nor in
the lines above it. -/
structure FirstAt (before : List SourceFile) (above : List String) (line : String) : Prop where
  before : ∀ f ∈ before, ∀ line ∈ f.lines, ¬ Pragma.Opens line.toList
  above : ∀ line ∈ above, ¬ Pragma.Opens line.toList
  opens : Pragma.Opens line.toList

/-- The first line of some files that opens a pragma, with its file. -/
def FirstPragma (files : List SourceFile) (f : SourceFile) (line : String) : Prop :=
  ∃ before after above below, files = before ++ f :: after ∧ f.lines = above ++ line :: below ∧
    FirstAt before above line

lemma find?_isPragma_eq_none_iff {lines : List String} :
    lines.find? Pragma.isPragma = none ↔ ∀ line ∈ lines, ¬ Pragma.Opens line.toList := by
  simp only [List.find?_eq_none, Pragma.isPragma_iff]

lemma firstPragma?_of_firstPragma (h : FirstPragma files f line) :
    firstPragma? files = some (Text.strip line, f) := by
  obtain ⟨before, after, above, below, rfl, hlines, hfirst⟩ := h
  induction before with
  | nil =>
    have hline : f.lines.find? Pragma.isPragma = some line := by
      rw [hlines, List.find?_append, find?_isPragma_eq_none_iff.mpr hfirst.above, Option.none_or,
        List.find?_cons_of_pos (Pragma.isPragma_iff.mpr hfirst.opens)]
    rw [List.nil_append, firstPragma?, hline]
  | cons g before ih =>
    obtain ⟨hg, hbefore⟩ := List.forall_mem_cons.mp hfirst.before
    rw [List.cons_append, firstPragma?, find?_isPragma_eq_none_iff.mpr hg]
    exact ih ⟨hbefore, hfirst.above, hfirst.opens⟩

lemma firstPragma?_of_none (h : ∀ f ∈ files, ∀ line ∈ f.lines, ¬ Pragma.Opens line.toList) :
    firstPragma? files = none := by
  induction files with
  | nil => rfl
  | cons f rest ih =>
    obtain ⟨hf, hrest⟩ := List.forall_mem_cons.mp h
    rw [firstPragma?, find?_isPragma_eq_none_iff.mpr hf]
    exact ih hrest

/-- A pragma is opened in some files or there is none. -/
lemma exists_firstPragma (files : List SourceFile) : (∃ f line, FirstPragma files f line) ∨
    ∀ f ∈ files, ∀ line ∈ f.lines, ¬ Pragma.Opens line.toList := by
  induction files with
  | nil => exact .inr (List.forall_mem_nil _)
  | cons f rest ih =>
    cases hfind : f.lines.find? Pragma.isPragma with
    | some line =>
      obtain ⟨hline, above, below, hlines, habove⟩ := List.find?_eq_some_iff_append.mp hfind
      refine .inl ⟨f, line, [], rest, above, below, rfl, hlines, List.forall_mem_nil _, ?_,
        Pragma.isPragma_iff.mp hline⟩
      intro other hother hopens
      have hno := habove other hother
      rw [Pragma.isPragma_iff.mpr hopens] at hno
      cases hno
    | none =>
      have hf := find?_isPragma_eq_none_iff.mp hfind
      rcases ih with ⟨g, line, before, after, above, below, rfl, hlines, hfirst⟩ | hrest
      · refine .inl ⟨g, line, f :: before, after, above, below, rfl, hlines, ?_, hfirst.above,
          hfirst.opens⟩
        exact List.forall_mem_cons.mpr ⟨hf, hfirst.before⟩
      · exact .inr (List.forall_mem_cons.mpr ⟨hf, hrest⟩)

/-! ### What is told -/

/-- What is told about the compiler: the pragma, whether arithmetic is checked, and where both are
known from. -/
structure Compiler where
  pragma? : Option String
  isChecked : Bool
  source : String

/-- The first pragma is told as it is written, and arithmetic is checked exactly if all versions
found in it do so. -/
inductive Compiler.Describes (files : List SourceFile) : Compiler → Prop
  | pragma {f : SourceFile} {line : String} {found : List (List Char × List Char)}
      {isChecked : Bool}
      (hfirst : FirstPragma files f line) (hscan : Pragma.Scans (Text.strip line).toList found)
      (hchecked : isChecked = true ↔ Pragma.AllChecked found) :
      Describes files ⟨some (Text.strip line), isChecked, "quality:" ++ f.path⟩
  | corpus (hno : ∀ f ∈ files, ∀ line ∈ f.lines, ¬ Pragma.Opens line.toList) :
      Describes files ⟨none, false, "quality:corpus"⟩

/-- What is told about some files. -/
structure Told where
  imports : Presence
  guards : Presence
  compiler : Compiler

namespace Told

/-- What is told, as facts. -/
def facts (t : Told) : List Fact := [
  ⟨"deps.openzeppelin", .bool t.imports.isFound, t.imports.source⟩,
  ⟨"guards.reentrancy", .bool t.guards.isFound, t.guards.source⟩,
  ⟨"compiler.pragma", (t.compiler.pragma?.map Writable.str).getD .null, t.compiler.source⟩,
  ⟨"compiler.checked_arithmetic", .bool t.compiler.isChecked, t.compiler.source⟩]

/-- Everything told describes the files. -/
structure Describes (t : Told) (files : List SourceFile) : Prop where
  imports : t.imports.Describes ["@openzeppelin"] files
  guards : t.guards.Describes ["ReentrancyGuard", "nonReentrant"] files
  compiler : t.compiler.Describes files

end Told

/-- What is told about the compiler of some files, by whether arithmetic is checked. -/
def compilerOf (files : List SourceFile) (isChecked : Bool) : Compiler :=
  ⟨(firstPragma? files).map (·.1), isChecked, sourceText ((firstPragma? files).map (·.2))⟩

/-- What is told about some files, by whether arithmetic is checked. -/
def told (files : List SourceFile) (isChecked : Bool) : Told where
  imports := presenceOf ["@openzeppelin"] files
  guards := presenceOf ["ReentrancyGuard", "nonReentrant"] files
  compiler := compilerOf files isChecked

lemma facts_eq_told (h : checksArithmetic files = .ok isChecked) :
    Quality.facts files = .ok (told files isChecked).facts := by
  rw [facts_eq, h]
  unfold told compilerOf factsWith
  cases firstPragma? files <;> rfl

/-- No two ways of telling give the same facts. -/
lemma Told.facts_injective : Function.Injective Told.facts := by
  rintro ⟨⟨_, _⟩, ⟨_, _⟩, ⟨pragma?, _, _⟩⟩ ⟨⟨_, _⟩, ⟨_, _⟩, ⟨pragma'?, _, _⟩⟩ h
  cases pragma? <;> cases pragma'? <;> simp_all [Told.facts]

lemma exists_told {t : Told} (h : Quality.facts files = .ok t.facts) :
    ∃ isChecked, t = told files isChecked := by
  cases hchecks : checksArithmetic files with
  | error digits =>
    rw [facts_eq, hchecks] at h
    cases h
  | ok isChecked =>
    rw [facts_eq_told hchecks] at h
    exact ⟨isChecked, (Told.facts_injective (Except.ok.inj h)).symm⟩

/-- The order of the files does not decide whether a text is found. -/
lemma isFound_presenceOf_perm {files' : List SourceFile} (hpaths : ∀ f ∈ files, f.path ≠ "")
    (hperm : files.Perm files') (needles : List String) :
    (presenceOf needles files').isFound = (presenceOf needles files).isFound := by
  have hpaths' : ∀ f ∈ files', f.path ≠ "" := fun f hf => hpaths f (hperm.mem_iff.mpr hf)
  rw [Bool.eq_iff_iff, (presenceOf_describes hpaths' needles).isFound_iff,
    (presenceOf_describes hpaths needles).isFound_iff]
  simp only [hperm.mem_iff]

/-- The versions found in the first pragma of some files can be read. -/
def ReadablePragma (files : List SourceFile) : Prop := ∀ f line found, FirstPragma files f line →
  Pragma.Scans (Text.strip line).toList found → ∀ v ∈ found, Pragma.Readable v

lemma compilerOf_describes (hpaths : ∀ f ∈ files, f.path ≠ "") (hread : ReadablePragma files) :
    ∃ isChecked, checksArithmetic files = .ok isChecked ∧
      (compilerOf files isChecked).Describes files := by
  unfold checksArithmetic compilerOf
  rcases exists_firstPragma files with ⟨f, line, hfirst⟩ | hno
  · have hscan : Pragma.Scans (Text.strip line).toList _ := Pragma.scans_iff.mpr rfl
    obtain ⟨isChecked, hnames, hchecked⟩ :=
      Pragma.exists_namesChecked hscan (hread f line _ hfirst hscan)
    have hf : f ∈ files := by
      obtain ⟨before, after, -, -, rfl, -⟩ := hfirst
      exact List.mem_append_cons_self
    rw [firstPragma?_of_firstPragma hfirst]
    refine ⟨isChecked, hnames, ?_⟩
    rw [Option.map_some, Option.map_some, sourceText_file (hpaths f hf)]
    exact .pragma hfirst hscan hchecked
  · rw [firstPragma?_of_none hno]
    exact ⟨false, rfl, .corpus hno⟩

lemma firstPragma?_of_firstAt (h : FirstAt before above line) (path : String) (below : List String)
    (after : List SourceFile) : firstPragma? (before ++ ⟨path, above ++ line :: below⟩ :: after) =
      some (Text.strip line, ⟨path, above ++ line :: below⟩) :=
  firstPragma?_of_firstPragma ⟨before, after, above, below, rfl, rfl, h⟩

/-- **The facts describe the files.** The order of the files changes neither answer on the texts,
and whatever stands after the first pragma changes nothing that is told about the compiler. -/
theorem facts_describe (hpaths : ∀ f ∈ files, f.path ≠ "") (hread : ReadablePragma files) :
    ∃ t : Told, Quality.facts files = .ok t.facts ∧ t.Describes files ∧
      (∀ files' t', files.Perm files' → Quality.facts files' = .ok (Told.facts t') →
        t'.imports.isFound = t.imports.isFound ∧ t'.guards.isFound = t.guards.isFound) ∧
      ∀ before after path above below line,
        files = before ++ ⟨path, above ++ line :: below⟩ :: after → FirstAt before above line →
        ∀ below' after', ∃ t', t'.compiler = t.compiler ∧
          Quality.facts (before ++ ⟨path, above ++ line :: below'⟩ :: after') =
            .ok (Told.facts t') := by
  obtain ⟨isChecked, hchecks, hcompiler⟩ := compilerOf_describes hpaths hread
  refine ⟨told files isChecked, facts_eq_told hchecks, ?_, ?_, ?_⟩
  · exact ⟨presenceOf_describes hpaths _, presenceOf_describes hpaths _, hcompiler⟩
  · intro files' t' hperm hfacts
    obtain ⟨isChecked', rfl⟩ := exists_told hfacts
    exact ⟨isFound_presenceOf_perm hpaths hperm _, isFound_presenceOf_perm hpaths hperm _⟩
  · rintro before after path above below line rfl hfirst below' after'
    -- the search ends at the pragma, so it never sees what is changed
    have hpragma := firstPragma?_of_firstAt hfirst path below after
    have hpragma' := firstPragma?_of_firstAt hfirst path below' after'
    refine ⟨told _ isChecked, ?_, facts_eq_told ?_⟩
    · simp only [told, compilerOf, hpragma, hpragma']
      rfl
    · simpa only [checksArithmetic, hpragma, hpragma'] using hchecks

lemma readablePragma_of_text {text : String}
    (htext : (firstPragma? files).map (·.1) = some text)
    (hread : ∀ v ∈ Pragma.namedDigits text.toList, Pragma.Readable v) : ReadablePragma files := by
  intro f line found hfirst hscan
  rw [firstPragma?_of_firstPragma hfirst] at htext
  have hline : Text.strip line = text := Option.some.inj htext
  rw [Pragma.scans_iff.mp hscan, hline]
  exact hread

/-- A file with an import, and no pragma. -/
def importing : SourceFile :=
  ⟨"A.sol", ["import \"@openzeppelin/contracts/token/ERC20/IERC20.sol\";", "// pragma solidity"]⟩

/-- A file with a pragma, and some lines below it. -/
def compiled (below : List String) : SourceFile :=
  ⟨"B.sol", [""] ++ "  pragma  solidity ^0.8.20; // not 0.9" :: below⟩

lemma firstAt_compiled : FirstAt [importing] [""] "  pragma  solidity ^0.8.20; // not 0.9" where
  before := by
    simp only [← Pragma.isPragma_iff]
    decide +kernel
  above := by
    simp only [← Pragma.isPragma_iff]
    decide +kernel
  opens := Pragma.isPragma_iff.mp (by decide +kernel)

/-- The files are described in either order, and as far as the compiler goes also with other lines
and files after the pragma. -/
theorem facts_describe_importing :
    let files := [importing, compiled ["pragma solidity 0.7.6;"]]
    (∀ f ∈ files, f.path ≠ "") ∧ ReadablePragma files ∧
    ∃ t : Told, Quality.facts files = .ok t.facts ∧ t.Describes files ∧
      (∃ t', Quality.facts files.reverse = .ok (Told.facts t') ∧
        t'.imports.isFound = t.imports.isFound) ∧
      ∃ t', t'.compiler = t.compiler ∧
        Quality.facts [importing, compiled [], importing] = .ok (Told.facts t') := by
  intro files
  have hpaths : ∀ f ∈ files, f.path ≠ "" := by decide
  have hdigits : ∀ v ∈ Pragma.namedDigits "pragma  solidity ^0.8.20; // not 0.9".toList,
      Pragma.Readable v := by
    unfold Pragma.Readable
    decide +kernel
  have hread : ReadablePragma files := readablePragma_of_text (by decide +kernel) hdigits
  obtain ⟨t, hfacts, hdescribes, hperm, hafter⟩ := facts_describe hpaths hread
  have hread' : ReadablePragma files.reverse := readablePragma_of_text (by decide +kernel) hdigits
  obtain ⟨t', hfacts', -⟩ := facts_describe (by decide) hread'
  have hsame := hperm _ t' files.reverse_perm.symm hfacts'
  exact ⟨hpaths, hread, t, hfacts, hdescribes, ⟨t', hfacts', hsame.1⟩,
    hafter _ _ _ _ _ _ rfl firstAt_compiled [] [importing]⟩

end Quality

end LineAudit
