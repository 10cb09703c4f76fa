import LineAudit.File.Source
import LineAudit.Proofs.Lists
import LineAudit.Scan.Finding
import Mathlib.Data.Prod.Lex
import Mathlib.Data.String.Basic

/-!
The sites of a scan, and the order of what is found at them.

A site is a file, a line and a rule by their numbers. What is found file by file is sorted by path,
line and rule; the sort keeps the order of the files where these agree.
-/

namespace LineAudit

variable {α : Type}

namespace Placed

/-- What the order of findings and errors goes by. Texts are compared by code point. -/
def key (x : Placed α) : String ×ₗ ℕ ×ₗ ℕ := toLex (x.file, toLex (x.line, x.position))

lemma le_eq_decide (x y : Placed α) : x.le y = decide (x.key ≤ y.key) := by
  rw [Bool.eq_iff_iff, decide_eq_true_iff]
  simp [le, key, Prod.Lex.toLex_le_toLex]

lemma trans (x y z : Placed α) (h : x.le y) (h' : y.le z) : x.le z := by
  simp only [le_eq_decide, decide_eq_true_eq] at *
  exact le_trans h h'

lemma total (x y : Placed α) : x.le y || y.le x := by
  simp only [le_eq_decide, Bool.or_eq_true, decide_eq_true_eq]
  exact le_total x.key y.key

end Placed

/-- A file, a line and a rule by their numbers. Lines are counted from one. -/
@[ext]
structure Site where
  file : ℕ
  line : ℕ
  rule : ℕ
  deriving DecidableEq

namespace Site

/-- What the order of findings and errors goes by. -/
def key (files : List SourceFile) (s : Site) : String ×ₗ ℕ ×ₗ ℕ :=
  toLex ((files[s.file]?.map SourceFile.path).getD "", toLex (s.line, s.rule))

/-- The order in which sites are visited. -/
def Before (s t : Site) : Prop :=
  s.file < t.file ∨ s.file = t.file ∧ (s.line < t.line ∨ s.line = t.line ∧ s.rule < t.rule)

lemma Before.ne {s t : Site} (h : s.Before t) : s ≠ t := by
  rintro rfl
  unfold Before at h
  omega

end Site

/-- Items are given by the sites that have one: each site once, and nothing besides. -/
structure Enumerates (At : Site → α → Prop) (sites : List Site) (items : List α) : Prop where
  nodup : sites.Nodup
  complete : ∀ s, s ∈ sites ↔ ∃ x, At s x
  items : List.Forall₂ At sites items

/-- Sites are ordered by path, line and rule, strictly when no two files have one path. Sites that
agree in these are in the order of their files. -/
structure Ordered (files : List SourceFile) (sites : List Site) : Prop where
  sorted : sites.Pairwise fun s t => s.key files ≤ t.key files
  strict : (files.map SourceFile.path).Nodup →
    sites.Pairwise fun s t => s.key files < t.key files
  stable : sites.Pairwise fun s t => s.key files = t.key files → s.file < t.file

/-- What is found in each of several files lies in the right file, and was found line by line and
rule by rule. -/
structure Gathered (files : List SourceFile) (found : List (List (Placed α))) : Prop where
  file : ∀ (i : ℕ) (xs : List (Placed α)), found[i]? = some xs →
    ∀ x ∈ xs, files[i]?.map SourceFile.path = some x.file
  order : ∀ xs ∈ found, xs.Pairwise fun x y =>
    x.line < y.line ∨ x.line = y.line ∧ x.position < y.position

/-- Something is found at a site. -/
def FoundAt (found : List (List (Placed α))) (s : Site) (item : α) : Prop :=
  ∃ xs, found[s.file]? = some xs ∧ ∃ x ∈ xs, x.line = s.line ∧ x.position = s.rule ∧ x.item = item

/-- All that is found, with the sites at which it is found. -/
def located (found : List (List (Placed α))) : List (Site × Placed α) :=
  found.zipIdx.flatMap fun (xs, i) => xs.map fun x => (⟨i, x.line, x.position⟩, x)

lemma mem_located {found : List (List (Placed α))} {e : Site × Placed α} :
    e ∈ located found ↔ ∃ xs, found[e.1.file]? = some xs ∧ e.2 ∈ xs ∧
      e.2.line = e.1.line ∧ e.2.position = e.1.rule := by
  obtain ⟨⟨i, n, p⟩, x⟩ := e
  simp only [located, List.mem_flatMap, Prod.exists, List.mem_zipIdx_iff_getElem?, List.mem_map,
    Prod.mk.injEq, Site.mk.injEq]
  constructor
  · rintro ⟨xs, j, hxs, y, hy, ⟨rfl, rfl, rfl⟩, rfl⟩
    exact ⟨xs, hxs, hy, rfl, rfl⟩
  · rintro ⟨xs, hxs, hx, hn, hp⟩
    exact ⟨xs, i, hxs, x, hx, ⟨rfl, hn, hp⟩, rfl⟩

lemma located_items (found : List (List (Placed α))) :
    (located found).map Prod.snd = found.flatten := by
  have h : ∀ (n : ℕ), ((found.zipIdx n).flatMap fun (xs, i) =>
      xs.map fun x => ((⟨i, x.line, x.position⟩ : Site), x)).map Prod.snd = found.flatten := by
    induction found with
    | nil => simp
    | cons xs rest ih =>
      intro n
      rw [List.zipIdx_cons, List.flatMap_cons, List.map_append, ih, List.flatten_cons,
        List.map_map]
      congr 1
      exact List.map_id xs
  exact h 0

variable {files : List SourceFile} {found : List (List (Placed α))}

lemma Gathered.located_pairwise (h : Gathered files found) :
    (located found).Pairwise fun a b => a.1.Before b.1 := by
  refine List.pairwise_flatMap.mpr ⟨?_, (zipIdx_pairwise found 0).imp ?_⟩
  · rintro ⟨xs, i⟩ hxs
    refine List.pairwise_map.mpr ((h.order xs (List.fst_mem_of_mem_zipIdx hxs)).imp ?_)
    exact fun hlt => Or.inr ⟨rfl, hlt⟩
  · rintro ⟨xs, i⟩ ⟨ys, j⟩ hlt a ha b hb
    obtain ⟨x, -, rfl⟩ := List.mem_map.mp ha
    obtain ⟨y, -, rfl⟩ := List.mem_map.mp hb
    exact Or.inl hlt

lemma Gathered.path_of_mem (h : Gathered files found) {e : Site × Placed α}
    (he : e ∈ located found) : files[e.1.file]?.map SourceFile.path = some e.2.file := by
  obtain ⟨xs, hxs, hx, -⟩ := mem_located.mp he
  exact h.file _ xs hxs _ hx

lemma Gathered.key_eq (h : Gathered files found) {e : Site × Placed α} (he : e ∈ located found) :
    e.1.key files = e.2.key := by
  obtain ⟨-, -, -, hn, hp⟩ := mem_located.mp he
  rw [Site.key, Placed.key, h.path_of_mem he, hn, hp]
  rfl

lemma foundAt_iff {s : Site} {item : α} :
    FoundAt found s item ↔ ∃ x, (s, x) ∈ located found ∧ x.item = item := by
  constructor
  · rintro ⟨xs, hxs, x, hx, hn, hp, hi⟩
    exact ⟨x, mem_located.mpr ⟨xs, hxs, hx, hn, hp⟩, hi⟩
  · rintro ⟨x, hx, hi⟩
    obtain ⟨xs, hxs, hx, hn, hp⟩ := mem_located.mp hx
    exact ⟨xs, hxs, x, hx, hn, hp, hi⟩

/-! ### Sorting -/

/-- All that is found with its sites, sorted. -/
def sortedLocated (found : List (List (Placed α))) : List (Site × Placed α) :=
  (located found).mergeSort fun a b => a.2.le b.2

lemma mem_sortedLocated {e : Site × Placed α} : e ∈ sortedLocated found ↔ e ∈ located found :=
  List.mem_mergeSort

/-- The sites of what is found, sorted. -/
def sortedSites (found : List (List (Placed α))) : List Site := (sortedLocated found).map Prod.fst

lemma sorted_flatten (found : List (List (Placed α))) :
    Placed.sorted found.flatten = (sortedLocated found).map fun e => e.2.item := by
  have h := List.map_mergeSort (r := fun a b : Site × Placed α => a.2.le b.2) (s := Placed.le)
    (f := Prod.snd) (l := located found) (fun _ _ _ _ => rfl)
  rw [Placed.sorted, ← located_items, ← h, List.map_map]
  rfl

lemma mem_sorted_flatten_iff {item : α} :
    item ∈ Placed.sorted found.flatten ↔ ∃ s, FoundAt found s item := by
  simp only [sorted_flatten, List.mem_map, mem_sortedLocated, foundAt_iff, Prod.exists]

lemma Gathered.sites_nodup (h : Gathered files found) : (sortedSites found).Nodup := by
  have hnd : ((located found).map Prod.fst).Nodup :=
    List.pairwise_map.mpr (h.located_pairwise.imp fun hlt => hlt.ne)
  exact ((List.mergeSort_perm (located found) _).map Prod.fst).nodup_iff.mpr hnd

/-- **What is found in all files is listed once for each site.** -/
theorem Gathered.enumerates (h : Gathered files found) :
    Enumerates (FoundAt found) (sortedSites found) (Placed.sorted found.flatten) where
  nodup := h.sites_nodup
  complete := by
    intro s
    simp only [sortedSites, List.mem_map, Prod.exists, exists_and_right, exists_eq_right,
      mem_sortedLocated, foundAt_iff]
    constructor
    · rintro ⟨x, hx⟩
      exact ⟨x.item, x, hx, rfl⟩
    · rintro ⟨-, x, hx, -⟩
      exact ⟨x, hx⟩
  items := by
    rw [sorted_flatten, sortedSites, List.forall₂_map_left_iff, List.forall₂_map_right_iff,
      List.forall₂_same]
    intro e he
    exact foundAt_iff.mpr ⟨e.2, mem_sortedLocated.mp he, rfl⟩

lemma Gathered.sites_sorted (h : Gathered files found) :
    (sortedSites found).Pairwise fun s t => s.key files ≤ t.key files := by
  have hsort : (sortedLocated found).Pairwise fun a b => a.2.le b.2 :=
    @List.pairwise_mergeSort _ (fun a b => a.2.le b.2) (fun a b c => Placed.trans a.2 b.2 c.2)
      (fun a b => Placed.total a.2 b.2) (located found)
  refine List.pairwise_map.mpr (hsort.imp_of_mem fun {a b} ha hb hab => ?_)
  rw [h.key_eq (mem_sortedLocated.mp ha), h.key_eq (mem_sortedLocated.mp hb)]
  rw [Placed.le_eq_decide] at hab
  exact of_decide_eq_true hab

/-- Sites that agree in path, line and rule are visited in the order of their files, and a stable
sort does not change that. -/
lemma Gathered.sites_stable (h : Gathered files found) :
    (sortedSites found).Pairwise fun s t => s.key files = t.key files → s.file < t.file := by
  refine List.pairwise_map.mpr (List.pairwise_iff_forall_sublist.mpr fun {a b} hab heq => ?_)
  have ha : a ∈ located found := mem_sortedLocated.mp (hab.subset (by simp))
  have hb : b ∈ located found := mem_sortedLocated.mp (hab.subset (by simp))
  have hkey : a.2.key = b.2.key := by rw [← h.key_eq ha, ← h.key_eq hb, heq]
  -- `a` and `b` are among the elements with the key of `a`, which the sort leaves alone
  have hfilter : (sortedLocated found).filter (fun e => decide (e.2.key = a.2.key)) =
      (located found).filter fun e => decide (e.2.key = a.2.key) := by
    refine @filter_mergeSort _ (fun a b => a.2.le b.2) (fun a b c => Placed.trans a.2 b.2 c.2)
      (fun a b => Placed.total a.2 b.2) _ (fun x y hx hy => ?_) (located found)
    rw [decide_eq_true_eq] at hx hy
    rw [Placed.le_eq_decide, hx, hy]
    simp
  have hsub : [a, b].Sublist (located found) := by
    have := hab.filter fun e => decide (e.2.key = a.2.key)
    rw [hfilter] at this
    simp only [List.filter_cons, hkey, decide_true, if_true, List.filter_nil] at this
    exact this.trans List.filter_sublist
  have hbefore := List.pairwise_iff_forall_sublist.mp h.located_pairwise hsub
  have hrest : a.1.line = b.1.line ∧ a.1.rule = b.1.rule := by
    have := congrArg (fun k => ofLex (ofLex k).2) heq
    exact Prod.mk.inj this
  unfold Site.Before at hbefore
  omega

/-- **What is found in all files is listed by path, line and rule.** -/
theorem Gathered.ordered (h : Gathered files found) : Ordered files (sortedSites found) where
  sorted := h.sites_sorted
  strict := by
    intro hnd
    refine (h.sites_sorted.and h.sites_stable).imp_of_mem fun {s t} hs ht hst => ?_
    refine lt_of_le_of_ne hst.1 fun heq => ?_
    obtain ⟨a, ha, rfl⟩ := List.mem_map.mp hs
    obtain ⟨b, hb, rfl⟩ := List.mem_map.mp ht
    rw [mem_sortedLocated] at ha hb
    have hkey : a.2.key = b.2.key := by rw [← h.key_eq ha, ← h.key_eq hb, heq]
    have hfile : a.2.file = b.2.file := congrArg (fun k => (ofLex k).1) hkey
    have hpath : ∀ e ∈ located found, (files.map SourceFile.path)[e.1.file]? = some e.2.file := by
      intro e he
      rw [List.getElem?_map, h.path_of_mem he]
    have hget := (hpath a ha).trans (hfile ▸ (hpath b hb).symm)
    have hbound := (List.getElem?_eq_some_iff.mp (hpath a ha)).1
    have hsame := (List.getElem?_inj hbound hnd).mp hget
    have hlt := hst.2 heq
    omega
  stable := h.sites_stable

end LineAudit
