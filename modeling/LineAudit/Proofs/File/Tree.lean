import LineAudit.File.Tree
import Mathlib.Data.List.Nodup
import Mathlib.Tactic.Common

/-!
Trees as a file system has them, and the files below a place.
-/

namespace LineAudit

/-- Names that hold no separator can be read off again once they are joined. -/
lemma Path.joined_inj {names names' : List String} (h : ∀ name ∈ names, '/' ∉ name.toList)
    (h' : ∀ name ∈ names', '/' ∉ name.toList) (hne : names ≠ []) (hne' : names' ≠ [])
    (heq : joined names = joined names') : names = names' := by
  have hsplit {parts : List String} (hparts : ∀ name ∈ parts, '/' ∉ name.toList)
      (hsome : parts ≠ []) : (joined parts).toList.splitOn '/' = parts.map String.toList := by
    rw [joined, String.toList_intercalate]
    exact List.splitOn_intercalate '/' (by simpa using hparts) (by simpa using hsome)
  have hlists : names.map String.toList = names'.map String.toList := by
    rw [← hsplit h hne, ← hsplit h' hne', heq]
  exact List.map_injective_iff.mpr (fun _ _ => String.toList_inj.mp) hlists

namespace FileTree

/-- No two files are at one place, and no name holds a separator. -/
structure Sound (t : FileTree) : Prop where
  nodup : (t.files.map StoredFile.path).Nodup
  names : ∀ f ∈ t.files, ∀ name ∈ f.path, '/' ∉ name.toList

lemma sound_emptyAt (here : List String) : (emptyAt here).Sound := ⟨.nil, by simp [emptyAt]⟩

/-- A tree stays as it is in a file system when a file is added. -/
lemma Sound.addFile {t : FileTree} (h : t.Sound) {f : StoredFile}
    (hnames : ∀ name ∈ f.path, '/' ∉ name.toList) : (t.addFile f).Sound := by
  constructor
  · have hsub : ((t.files.filter (·.path ≠ f.path)).map StoredFile.path).Nodup :=
      h.nodup.sublist (List.filter_sublist.map _)
    rw [FileTree.addFile, List.map_append, List.nodup_append]
    refine ⟨hsub, List.nodup_singleton _, ?_⟩
    intro p hp q hq
    obtain ⟨g, hg, rfl⟩ := List.mem_map.mp hp
    obtain rfl := List.mem_singleton.mp hq
    simpa using (List.mem_filter.mp hg).2
  · intro g hg
    rcases List.mem_append.mp hg with hg | hg
    · exact h.names g (List.mem_of_mem_filter hg)
    · obtain rfl := List.mem_singleton.mp hg
      exact hnames

variable {t : FileTree} {place names : List String} {f : StoredFile}

lemma mem_below_iff :
    (names, f) ∈ t.below place ↔ f ∈ t.files ∧ f.path = place ++ names ∧ names ≠ [] := by
  unfold below
  rw [List.mem_filterMap]
  constructor
  · rintro ⟨g, hg, hsome⟩
    split at hsome
    next hbelow =>
      obtain ⟨rfl, rfl⟩ := Prod.mk.inj (Option.some.inj hsome)
      rw [Bool.and_eq_true, List.isPrefixOf_iff_prefix, bne_iff_ne] at hbelow
      obtain ⟨⟨rest, hrest⟩, hne⟩ := hbelow
      rw [← hrest] at hne ⊢
      refine ⟨hg, by simp, ?_⟩
      simpa using hne
    next => simp at hsome
  · rintro ⟨hf, hpath, hne⟩
    refine ⟨f, hf, ?_⟩
    simp [hpath, hne]

/-- No file is listed twice below a place. -/
lemma Sound.nodup_below (h : t.Sound) (place : List String) : (t.below place).Nodup := by
  have hfiles : t.files.Nodup := h.nodup.of_map _
  refine hfiles.filterMap fun f g x hf hg => ?_
  split at hf
  next =>
    split at hg
    next => exact (Prod.mk.inj ((Option.some.inj hf).trans (Option.some.inj hg).symm)).2
    next => simp at hg
  next => simp at hf

/-- The names from a place belong to one file. -/
lemma Sound.eq_of_path (h : t.Sound) {g : StoredFile} (hf : f ∈ t.files) (hg : g ∈ t.files)
    (hpath : f.path = g.path) : f = g :=
  List.inj_on_of_nodup_map h.nodup hf hg hpath

/-- A path leads to a folder. -/
structure HasFolder (t : FileTree) (target : Path) (place : List String) : Prop where
  resolves : t.resolve? target = some place
  noFile : t.fileAt? place = none

end FileTree

end LineAudit
