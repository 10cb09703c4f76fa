import LineAudit.File.Corpus
import LineAudit.Proofs.File.Tree
import Mathlib.Data.List.Sort

/-!
The sources below a folder.

Candidates come in the order of their paths, which no two of them share, and each of them becomes
either a source or a warning. Main result: sources and warnings are what the candidates become, and
nothing else in the tree has a part in them.
-/

namespace LineAudit

/-! ### Byte order marks -/

namespace Text

lemma decode?_eq_some_iff {bytes : ByteArray} {text : String} :
    decode? bytes = some text ↔ bytes = text.toUTF8 := by
  unfold decode? String.fromUTF8?
  constructor
  · intro h
    split at h
    next hvalid =>
      obtain rfl := Option.some.inj h
      rfl
    next => simp at h
  · rintro rfl
    rw [String.toUTF8_eq_toByteArray, dif_pos text.isValidUTF8]
    rfl

/-- The bytes of a byte order mark. -/
def byteOrderMark : ByteArray := ⟨#[0xef, 0xbb, 0xbf]⟩

/-- A text starts with a byte order mark. -/
def StartsWithMark (text : String) : Prop := text.toList.head? = some '\uFEFF'

instance (text : String) : Decidable (StartsWithMark text) :=
  inferInstanceAs (Decidable (text.toList.head? = some '\uFEFF'))

lemma dropByteOrderMark_of_not_startsWithMark {text : String} (h : ¬ StartsWithMark text) :
    dropByteOrderMark text = text := by
  unfold dropByteOrderMark
  split
  next hlist => exact absurd (by simp [StartsWithMark, hlist]) h
  next => rfl

/-- Behind a byte order mark the whole text is left. -/
lemma decode?_byteOrderMark_append {bytes : ByteArray} {text : String}
    (h : decode? bytes = some text) : ∃ marked, decode? (byteOrderMark ++ bytes) = some marked ∧
      dropByteOrderMark marked = text := by
  have hmark : byteOrderMark = "\uFEFF".toUTF8 := by decide +kernel
  refine ⟨"\uFEFF" ++ text, decode?_eq_some_iff.mpr ?_, ?_⟩
  · rw [decode?_eq_some_iff.mp h, hmark]
    exact String.toByteArray_append.symm
  · simp [dropByteOrderMark]

end Text

namespace Corpus

/-- A file is selected, with the names that lead to it from a place. -/
structure Candidate (t : FileTree) (s : Selection) (place names : List String) (f : StoredFile) :
    Prop where
  stored : f ∈ t.files
  path : f.path = place ++ names
  below : names ≠ []
  folders : ∀ name ∈ names.dropLast, name ∉ s.excludedFolders
  extension : Text.lowercase (Path.extensionOf (names.getLast below)) ∈
    s.extensions.map Text.lowercase

/-- What becomes of a candidate: a source or a warning. -/
inductive Becomes (target : Path) (names : List String) (f : StoredFile) :
    Except Warning SourceFile → Prop
  | source {text : String} (hreadable : f.problem? = none)
      (htext : Text.decode? f.bytes = some text) :
      Becomes target names f
        (.ok ⟨Path.joined names, Text.lines (Text.dropByteOrderMark text)⟩)
  | notText (hreadable : f.problem? = none) (hbytes : Text.decode? f.bytes = none) :
      Becomes target names f (.error (.notText (target.below names)))
  | unreadable {e : SystemError} (hproblem : f.problem? = some e) :
      Becomes target names f (.error (.unreadable (target.below names) e))

variable {t : FileTree} {s : Selection} {target : Path} {place names : List String}
  {f : StoredFile}

lemma becomes_iff {r : Except Warning SourceFile} :
    Becomes target names f r ↔ readFile (target.below names) (Path.joined names) f = r := by
  unfold readFile
  constructor
  · rintro (⟨hreadable, htext⟩ | ⟨hreadable, hbytes⟩ | hproblem)
    · rw [hreadable]
      dsimp only
      rw [htext]
      rfl
    · rw [hreadable]
      dsimp only
      rw [hbytes]
    · rw [hproblem]
  · rintro rfl
    split
    next e hproblem => exact .unreadable hproblem
    next hreadable =>
      split
      next text htext => exact .source hreadable htext
      next hbytes => exact .notText hreadable hbytes

/-- A file is read like another one: it holds the same, or the same behind a byte order mark, where
no other mark follows. -/
inductive ReadsLike (f f' : StoredFile) : Prop
  | same (hproblem : f'.problem? = f.problem?) (hbytes : f'.bytes = f.bytes)
  | marked {text : String} (hproblem : f'.problem? = f.problem?)
      (htext : Text.decode? f.bytes = some text) (hmark : ¬ Text.StartsWithMark text)
      (hbytes : f'.bytes = Text.byteOrderMark ++ f.bytes)

/-- A valid text is left whole behind a byte order mark. -/
lemma readFile_marked {f' : StoredFile} {text : String} (path : Path) (name : String)
    (hreadable : f'.problem? = none) (htext : Text.decode? f.bytes = some text)
    (hbytes : f'.bytes = Text.byteOrderMark ++ f.bytes) :
    readFile path name f' = .ok ⟨name, Text.lines text⟩ := by
  obtain ⟨marked, hmarked, rfl⟩ := Text.decode?_byteOrderMark_append htext
  unfold readFile
  rw [hreadable]
  dsimp only
  rw [hbytes, hmarked]
  rfl

lemma ReadsLike.readFile_eq {f' : StoredFile} (h : ReadsLike f f') (path : Path) (name : String) :
    readFile path name f' = readFile path name f := by
  rcases h with ⟨hproblem, hbytes⟩ | ⟨hproblem, htext, hmark, hbytes⟩
  · rw [readFile, readFile, hproblem, hbytes]
  · cases hf : f.problem? with
    | some e => rw [readFile, readFile, hproblem, hf]
    | none =>
      rw [readFile_marked path name (hproblem.trans hf) htext hbytes, readFile, hf]
      dsimp only
      rw [htext]
      dsimp only
      rw [Text.dropByteOrderMark_of_not_startsWithMark hmark]
      rfl

/-! ### Candidates in order -/

/-- What is found along some names has a path before what is found along others. -/
def PathBefore {α : Type} (c d : List String × α) : Prop := Path.joined c.1 < Path.joined d.1

instance {α : Type} : Std.Asymm (PathBefore : List String × α → List String × α → Prop) where
  asymm _ _ := String.lt_asymm

/-- The candidates below a place, with the names that lead to them. -/
def selected (t : FileTree) (s : Selection) (place : List String) :
    List (List String × StoredFile) :=
  (t.below place).filter fun (names, _) => s.takes names

/-- The candidates in the order of their paths. -/
def ordered (t : FileTree) (s : Selection) (place : List String) :
    List (List String × StoredFile) :=
  (selected t s place).mergeSort fun c d => decide (Path.joined c.1 ≤ Path.joined d.1)

lemma takes_iff (hne : names ≠ []) : s.takes names = true ↔
    (∀ name ∈ names.dropLast, name ∉ s.excludedFolders) ∧
      Text.lowercase (Path.extensionOf (names.getLast hne)) ∈ s.extensions.map Text.lowercase := by
  have hlast : names.getLastD "" = names.getLast hne := by
    rw [List.getLastD_eq_getLast?, List.getLast?_eq_some_getLast hne, Option.getD_some]
  rw [Selection.takes, hlast]
  simp [Selection.wantsName]

lemma mem_selected_iff :
    (names, f) ∈ selected t s place ↔ Candidate t s place names f := by
  rw [selected, List.mem_filter, FileTree.mem_below_iff]
  constructor
  · rintro ⟨⟨hstored, hpath, hne⟩, htakes⟩
    obtain ⟨hfolders, hextension⟩ := (takes_iff hne).mp htakes
    exact ⟨hstored, hpath, hne, hfolders, hextension⟩
  · rintro ⟨hstored, hpath, hne, hfolders, hextension⟩
    exact ⟨⟨hstored, hpath, hne⟩, (takes_iff hne).mpr ⟨hfolders, hextension⟩⟩

lemma mem_ordered_iff : (names, f) ∈ ordered t s place ↔ Candidate t s place names f := by
  rw [ordered, List.mem_mergeSort, mem_selected_iff]

/-- Candidates with one path are one candidate. -/
lemma Candidate.eq_of_joined (hsound : t.Sound) {names' : List String} {f' : StoredFile}
    (h : Candidate t s place names f) (h' : Candidate t s place names' f')
    (hjoined : Path.joined names = Path.joined names') : names = names' ∧ f = f' := by
  have hnames {ns : List String} {g : StoredFile} (hg : Candidate t s place ns g) :
      ∀ name ∈ ns, '/' ∉ name.toList := fun name hname =>
    hsound.names g hg.stored name (hg.path ▸ List.mem_append_right place hname)
  obtain rfl := Path.joined_inj (hnames h) (hnames h') h.below h'.below hjoined
  exact ⟨rfl, hsound.eq_of_path h.stored h'.stored (h.path.trans h'.path.symm)⟩

lemma pairwise_ordered (hsound : t.Sound) (s : Selection) (place : List String) :
    (ordered t s place).Pairwise PathBefore := by
  have hsorted : (ordered t s place).Pairwise fun c d => Path.joined c.1 ≤ Path.joined d.1 := by
    refine (List.pairwise_mergeSort (fun b c d hbc hcd => ?_) (fun c d => ?_) _).imp
      of_decide_eq_true
    · exact decide_eq_true (String.le_trans (of_decide_eq_true hbc) (of_decide_eq_true hcd))
    · simpa using String.le_total (Path.joined c.1) (Path.joined d.1)
  have hnodup : (ordered t s place).Nodup :=
    (List.mergeSort_perm _ _).nodup_iff.mpr ((hsound.nodup_below place).filter _)
  refine (hsorted.and hnodup).imp_of_mem fun {c d} hc hd h => String.not_le.mp fun hle => h.2 ?_
  have hsame := (mem_ordered_iff.mp hc).eq_of_joined hsound (mem_ordered_iff.mp hd)
    (String.le_antisymm h.1 hle)
  exact Prod.ext hsame.1 hsame.2

lemma candidates_eq (hfile : t.fileAt? place = none) : candidates t s target place =
    (ordered t s place).map fun c => (target.below c.1, Path.joined c.1, c.2) := by
  unfold candidates ordered selected
  rw [hfile, List.map_mergeSort]
  exact fun _ _ _ _ => rfl

/-- What becomes of the candidates below a place, each with the names that lead to it. -/
def outcomes (t : FileTree) (s : Selection) (target : Path) (place : List String) :
    List (List String × Except Warning SourceFile) :=
  (ordered t s place).map fun c => (c.1, readFile (target.below c.1) (Path.joined c.1) c.2)

lemma mem_outcomes_iff {r : Except Warning SourceFile} :
    (names, r) ∈ outcomes t s target place ↔
      ∃ f, Candidate t s place names f ∧
        readFile (target.below names) (Path.joined names) f = r := by
  unfold outcomes
  rw [List.mem_map]
  constructor
  · rintro ⟨⟨names, f⟩, hmem, heq⟩
    obtain ⟨rfl, rfl⟩ := Prod.mk.inj heq
    exact ⟨f, mem_ordered_iff.mp hmem, rfl⟩
  · rintro ⟨f, hf, rfl⟩
    exact ⟨(names, f), mem_ordered_iff.mpr hf, rfl⟩

lemma pairwise_outcomes (hsound : t.Sound) (s : Selection) (target : Path) (place : List String) :
    (outcomes t s target place).Pairwise PathBefore :=
  List.pairwise_map.mpr (pairwise_ordered hsound s place)

/-- The warning, if that is what a candidate becomes. -/
def warning? : Except Warning SourceFile → Option Warning
  | .ok _ => none
  | .error w => some w

lemma load_eq (h : t.HasFolder target place) (s : Selection) :
    load t s target = (((outcomes t s target place).map Prod.snd).filterMap Except.toOption,
      ((outcomes t s target place).map Prod.snd).filterMap warning?) := by
  unfold load outcomes
  rw [h.resolves]
  simp only [candidates_eq h.noFile, List.map_map, Function.comp_def]
  refine Prod.ext (List.filterMap_congr fun r _ => ?_) (List.filterMap_congr fun r _ => ?_)
  · cases r <;> rfl
  · cases r <;> rfl

/-! ### Sources and warnings -/

lemma path_of_mem_outcomes {x : SourceFile} (h : (names, .ok x) ∈ outcomes t s target place) :
    x.path = Path.joined names := by
  obtain ⟨f, -, hread⟩ := mem_outcomes_iff.mp h
  cases becomes_iff.mpr hread
  rfl

lemma pairwise_sources (hsound : t.Sound) (h : t.HasFolder target place) (s : Selection) :
    (load t s target).1.Pairwise fun x y => x.path < y.path := by
  rw [load_eq h]
  dsimp only
  rw [List.filterMap_map, List.pairwise_filterMap]
  refine (pairwise_outcomes hsound s target place).imp_of_mem ?_
  rintro ⟨names, r⟩ ⟨names', r'⟩ hmem hmem' hbefore x hx x' hx'
  cases r <;> cases hx
  cases r' <;> cases hx'
  rw [path_of_mem_outcomes hmem, path_of_mem_outcomes hmem']
  exact hbefore

/-- A warning tells that a file is skipped, and for which reason. -/
def Warning.Skips (w : Warning) (path : Path) : Prop :=
  ∃ reason, w.text = "skipping " ++ path.text ++ ": " ++ reason

lemma Becomes.skips {w : Warning} (h : Becomes target names f (.error w)) :
    w.Skips (target.below names) := by
  cases h with
  | notText =>
    have hsplit : ": not valid UTF-8" = ": " ++ "not valid UTF-8" := by decide +kernel
    refine ⟨"not valid UTF-8", ?_⟩
    exact (congrArg (_ ++ ·) hsplit).trans String.append_assoc.symm
  | @unreadable e => exact ⟨e.briefText, rfl⟩

lemma skips_of_mem_warnings (h : t.HasFolder target place) {w : Warning}
    (hw : w ∈ (load t s target).2) :
    ∃ names f, Candidate t s place names f ∧ w.Skips (target.below names) := by
  rw [load_eq h] at hw
  dsimp only at hw
  rw [List.filterMap_map, List.mem_filterMap] at hw
  obtain ⟨⟨names, r⟩, hmem, hr⟩ := hw
  cases r <;> cases hr
  obtain ⟨f, hf, hread⟩ := mem_outcomes_iff.mp hmem
  exact ⟨names, f, hf, (becomes_iff.mpr hread).skips⟩

/-- Two folders hold candidates along the same names that are read alike. -/
@[mk_iff]
structure Alike (s : Selection) (t : FileTree) (place : List String) (t' : FileTree)
    (place' : List String) : Prop where
  there : ∀ names f, Candidate t s place names f →
    ∃ f', Candidate t' s place' names f' ∧ ReadsLike f f'
  back : ∀ names f', Candidate t' s place' names f' →
    ∃ f, Candidate t s place names f ∧ ReadsLike f f'

lemma Alike.outcomes_eq {t' : FileTree} {place' : List String} (h : Alike s t place t' place')
    (hsound : t.Sound) (hsound' : t'.Sound) (target : Path) :
    outcomes t' s target place' = outcomes t s target place := by
  refine (pairwise_outcomes hsound' s target place').eq_of_mem_iff
    (pairwise_outcomes hsound s target place) ?_
  rintro ⟨names, r⟩
  rw [mem_outcomes_iff, mem_outcomes_iff]
  constructor
  · rintro ⟨f', hf', rfl⟩
    obtain ⟨f, hf, hlike⟩ := h.back names f' hf'
    exact ⟨f, hf, (hlike.readFile_eq _ _).symm⟩
  · rintro ⟨f, hf, rfl⟩
    obtain ⟨f', hf', hlike⟩ := h.there names f hf
    exact ⟨f', hf', hlike.readFile_eq _ _⟩

/-- **The sources are exactly the selected files.** Candidates come in the order of their paths,
and each becomes a source with its lines or a warning that it is skipped; nothing else is given.
Nothing in a tree has a part in this but its candidates, and of these a byte order mark in front has
none. -/
theorem load_exact (hsound : t.Sound) (hfolder : t.HasFolder target place) (s : Selection) :
    (∃ candidates results,
      (∀ names f, (names, f) ∈ candidates ↔ Candidate t s place names f) ∧
      candidates.Pairwise PathBefore ∧
      List.Forall₂ (fun c r => Becomes target c.1 c.2 r) candidates results ∧
      load t s target = (results.filterMap Except.toOption, results.filterMap warning?)) ∧
    (load t s target).1.Pairwise (fun x y => x.path < y.path) ∧
    (∀ w ∈ (load t s target).2, ∃ names f, Candidate t s place names f ∧
      w.Skips (target.below names)) ∧
    (∀ names (f f' : StoredFile) text, Text.decode? f.bytes = some text → f'.problem? = none →
      f'.bytes = Text.byteOrderMark ++ f.bytes →
        Becomes target names f' (.ok ⟨Path.joined names, Text.lines text⟩)) ∧
    ∀ t' place', t'.Sound → t'.HasFolder target place' → Alike s t place t' place' →
      load t' s target = load t s target := by
  refine ⟨⟨ordered t s place, (outcomes t s target place).map Prod.snd, fun names f => ?_, ?_, ?_,
    load_eq hfolder s⟩, pairwise_sources hsound hfolder s, fun w hw => ?_,
    fun names f f' text htext hreadable hbytes => ?_,
    fun t' place' hsound' hfolder' halike => ?_⟩
  · exact mem_ordered_iff
  · exact pairwise_ordered hsound s place
  · rw [outcomes, List.map_map, List.forall₂_map_right_iff, List.forall₂_same]
    exact fun c _ => becomes_iff.mpr rfl
  · exact skips_of_mem_warnings hfolder hw
  · exact becomes_iff.mpr (readFile_marked _ _ hreadable htext hbytes)
  · rw [load_eq hfolder', load_eq hfolder, halike.outcomes_eq hsound hsound' target]

/-- A file that is not a text. -/
def brokenFile : StoredFile := ⟨["p", "a.SOL"], ⟨#[0xff]⟩, none⟩

/-- A file that is named like an excluded folder. -/
def libraryFile : StoredFile := ⟨["p", "b", "lib.sol"], "x\ny".toUTF8, none⟩

/-- The same file behind a byte order mark. -/
def markedFile : StoredFile :=
  { libraryFile with bytes := Text.byteOrderMark ++ libraryFile.bytes }

/-- Two files, and one in an excluded folder. -/
def withDependency : FileTree :=
  (((FileTree.emptyAt []).addFile ⟨["p", "lib", "D.sol"], "d".toUTF8, none⟩).addFile
    libraryFile).addFile brokenFile

/-- The two files alone, one of them behind a byte order mark. -/
def withMark : FileTree := ((FileTree.emptyAt []).addFile brokenFile).addFile markedFile

lemma selected_withDependency : selected withDependency .solidity ["p"] =
    [(["b", "lib.sol"], libraryFile), (["a.SOL"], brokenFile)] := rfl

lemma selected_withMark : selected withMark .solidity ["p"] =
    [(["a.SOL"], brokenFile), (["b", "lib.sol"], markedFile)] := rfl

lemma alike_withMark : Alike .solidity withDependency ["p"] withMark ["p"] := by
  have hbroken : ReadsLike brokenFile brokenFile := .same rfl rfl
  have hmarked : ReadsLike libraryFile markedFile :=
    .marked rfl (Text.decode?_eq_some_iff.mpr (rfl : _ = "x\ny".toUTF8)) (by decide) rfl
  simp only [alike_iff, ← mem_selected_iff, selected_withDependency, selected_withMark]
  constructor
  · intro names f hf
    rcases List.mem_pair.mp hf with ⟨rfl, rfl⟩ | ⟨rfl, rfl⟩
    · exact ⟨markedFile, by simp, hmarked⟩
    · exact ⟨brokenFile, by simp, hbroken⟩
  · intro names f' hf'
    rcases List.mem_pair.mp hf' with ⟨rfl, rfl⟩ | ⟨rfl, rfl⟩
    · exact ⟨brokenFile, by simp, hbroken⟩
    · exact ⟨libraryFile, by simp, hmarked⟩

lemma sound_withDependency : withDependency.Sound := by
  refine (((FileTree.sound_emptyAt []).addFile ?_).addFile ?_).addFile ?_ <;> decide +kernel

lemma sound_withMark : withMark.Sound := by
  refine ((FileTree.sound_emptyAt []).addFile ?_).addFile ?_ <;> decide +kernel

lemma ordered_withDependency : ordered withDependency .solidity ["p"] =
    [(["a.SOL"], brokenFile), (["b", "lib.sol"], libraryFile)] := by
  have hbefore : Path.joined ["a.SOL"] < Path.joined ["b", "lib.sol"] := by decide +kernel
  refine (pairwise_ordered sound_withDependency _ _).eq_of_mem_iff
    (List.pairwise_pair.mpr hbefore) fun c => ?_
  rw [ordered, List.mem_mergeSort, selected_withDependency]
  simp [or_comm]

theorem load_exact_withDependency :
    let target : Path := ⟨"", ["p"]⟩
    withDependency.Sound ∧ withDependency.HasFolder target ["p"] ∧ withMark.Sound ∧
      withMark.HasFolder target ["p"] ∧ Alike .solidity withDependency ["p"] withMark ["p"] ∧
      (load withMark .solidity target).1 = [⟨"b/lib.sol", ["x", "y"]⟩] ∧
      (load withMark .solidity target).2.map Warning.text =
        ["skipping p/a.SOL: not valid UTF-8"] := by
  intro target
  have hfolder : withDependency.HasFolder target ["p"] := ⟨by decide +kernel, rfl⟩
  have hfolder' : withMark.HasFolder target ["p"] := ⟨by decide +kernel, rfl⟩
  refine ⟨sound_withDependency, hfolder, sound_withMark, hfolder', alike_withMark, ?_⟩
  obtain ⟨-, -, -, -, hsame⟩ := load_exact sound_withDependency hfolder .solidity
  rw [hsame withMark ["p"] sound_withMark hfolder' alike_withMark, load_eq hfolder, outcomes,
    ordered_withDependency]
  exact ⟨by decide +kernel, by decide +kernel⟩

end Corpus

end LineAudit
