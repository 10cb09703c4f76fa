import LineAudit.Proofs.Scan.Exact

/-!
The order of what a scan reports, and what it does not depend on.

Findings and errors are ordered by path, line and rule. When no two files have one path, no two of
them agree in these, so the sort forgets in which order the files were given or scanned.
-/

namespace LineAudit

open FileScan

variable {σ α : Type} {pick : String → Visit σ → Option (Placed α)} {rules : List (Rule σ)}

lemma visit_eq {f : SourceFile} {v w : Visit σ} (hv : v ∈ visits rules f) (hw : w ∈ visits rules f)
    (hn : v.number = w.number) (hp : v.position = w.position) : v = w := by
  obtain ⟨n, line, p, r⟩ := v
  obtain ⟨n', line', p', r'⟩ := w
  obtain ⟨k, hk, hl, hr, -⟩ := mem_visits.mp hv
  obtain ⟨k', hk', hl', hr', -⟩ := mem_visits.mp hw
  simp only at *
  obtain rfl : k = k' := by omega
  subst hp hn
  rw [hl] at hl'
  rw [hr] at hr'
  rw [Option.some.inj hl', Option.some.inj hr']

lemma mem_picked_flatten {files : List SourceFile} {x : Placed α} :
    x ∈ (picked pick rules files).flatten ↔
      ∃ f ∈ files, ∃ v ∈ visits rules f, pick f.path v = some x := by
  simp [picked, List.mem_flatten, List.mem_map, List.mem_filterMap]

/-- In files with different paths, what is found is told apart by path, line and rule. -/
lemma eq_of_key_eq (hpick : KeepsPlace pick) {files : List SourceFile}
    (hnd : (files.map SourceFile.path).Nodup) {x y : Placed α}
    (hx : x ∈ (picked pick rules files).flatten) (hy : y ∈ (picked pick rules files).flatten)
    (hk : x.key = y.key) : x = y := by
  obtain ⟨f, hf, v, hv, hvx⟩ := mem_picked_flatten.mp hx
  obtain ⟨g, hg, w, hw, hwy⟩ := mem_picked_flatten.mp hy
  obtain ⟨hxf, hxl, hxp⟩ := hpick _ _ _ hvx
  obtain ⟨hyf, hyl, hyp⟩ := hpick _ _ _ hwy
  obtain ⟨hfile, hrest⟩ : x.file = y.file ∧
      toLex (x.line, x.position) = toLex (y.line, y.position) := Prod.mk.inj hk
  obtain ⟨hline, hposition⟩ : x.line = y.line ∧ x.position = y.position := Prod.mk.inj hrest
  obtain rfl : f = g :=
    List.inj_on_of_nodup_map hnd hf hg (by rw [← hxf, ← hyf, hfile])
  obtain rfl : v = w := visit_eq hv hw (by omega) (by omega)
  exact Option.some.inj (hvx.symm.trans hwy)

/-- Files with different paths may be given in any order. -/
lemma sorted_picked_perm (hpick : KeepsPlace pick) {files files' : List SourceFile}
    (hnd : (files.map SourceFile.path).Nodup) (hperm : files'.Perm files) :
    Placed.sorted (picked pick rules files').flatten =
      Placed.sorted (picked pick rules files).flatten := by
  have hflat : (picked pick rules files').flatten.Perm (picked pick rules files).flatten :=
    (hperm.map _).flatten
  have hsort (l : List (Placed α)) : (l.mergeSort Placed.le).Pairwise fun x y => x.le y :=
    List.pairwise_mergeSort Placed.trans Placed.total l
  unfold Placed.sorted
  congr 1
  refine List.Perm.eq_of_pairwise (fun x y hx hy hxy hyx => ?_) (hsort _) (hsort _)
    ((List.mergeSort_perm _ _).trans (hflat.trans (List.mergeSort_perm _ _).symm))
  rw [List.mem_mergeSort] at hx hy
  rw [Placed.le_eq_decide, decide_eq_true_eq] at hxy hyx
  exact eq_of_key_eq hpick hnd (hflat.mem_iff.mp hx) hy (le_antisymm hxy hyx)

namespace Engine

lemma found_perm {files files' : List SourceFile} (hnd : (files.map SourceFile.path).Nodup)
    (hperm : files'.Perm files) : found rules files' = found rules files := by
  have hfindings : (found rules files').findings = (found rules files).findings := by
    rw [findings_found, findings_found, sorted_picked_perm keepsPlace_hit hnd hperm]
  have herrors : (found rules files').errors = (found rules files).errors := by
    rw [errors_found, errors_found, sorted_picked_perm keepsPlace_error hnd hperm]
  cases h : found rules files
  cases h' : found rules files'
  simp_all

lemma totalLines_perm {files files' : List SourceFile} (hperm : files'.Perm files) :
    SourceFile.totalLines files' = SourceFile.totalLines files := by
  induction hperm with
  | nil => rfl
  | cons f _ ih => rw [SourceFile.totalLines, SourceFile.totalLines, ih]
  | swap f g rest => simp only [SourceFile.totalLines]; omega
  | trans _ _ ih ih' => rw [ih, ih']

/-- An engine with the same limits and another number of workers. -/
def withWorkers (e : Engine) (workers : Int) (h : 1 ≤ workers) : Engine :=
  { e with workers, one_le_workers := h }

lemma admits_perm (e : Engine) {workers workers' : Int} (h : 1 ≤ workers) (h' : 1 ≤ workers')
    {files files' : List SourceFile} (hperm : files'.Perm files) :
    (e.withWorkers workers h).Admits files' ↔ (e.withWorkers workers' h').Admits files := by
  constructor
  · rintro ⟨hcap, hclock, htime⟩
    refine ⟨fun cap hc => totalLines_perm hperm ▸ hcap cap hc, hclock,
      htime.imp id fun hall f hf => ?_⟩
    exact hall f (hperm.mem_iff.mpr hf)
  · rintro ⟨hcap, hclock, htime⟩
    refine ⟨fun cap hc => totalLines_perm hperm ▸ hcap cap hc, hclock,
      htime.imp id fun hall f hf => ?_⟩
    exact hall f (hperm.mem_iff.mp hf)

/-- **A scan does not depend on any order but that of its rules.** What is reported is ordered by
path, line and rule, and what agrees in these is in the order of the files. When no two files have
one path, the result is that of scanning the files one after the other as given, for any order of
the files, any number of workers and any order in which the scans of files complete. -/
theorem scanIn_orderFree (e : Engine) (rules : List (Rule σ)) (files : List SourceFile) :
    (∀ order result, order.Perm (List.range files.length) →
      e.scanIn order rules files = .ok result →
      (∃ sites, Enumerates (Reported rules files) sites result.findings ∧ Ordered files sites) ∧
      (∃ sites, Enumerates (Failed rules files) sites result.errors ∧ Ordered files sites)) ∧
    ((files.map SourceFile.path).Nodup → ∀ workers (h : 1 ≤ workers) files' order,
      files'.Perm files → order.Perm (List.range files'.length) → ∀ result,
      (e.withWorkers workers h).scanIn order rules files' = .ok result ↔
        (e.withWorkers 1 (Int.le_refl 1)).scan rules files = .ok result) := by
  refine ⟨fun order result horder h => ?_, fun hnd workers h files' order hperm horder result => ?_⟩
  · obtain ⟨-, rfl⟩ := (scanIn_eq_ok_iff e rules horder result).mp h
    exact ⟨findings_sites rules files, errors_sites rules files⟩
  · rw [scan, scanIn_eq_ok_iff _ rules horder, scanIn_eq_ok_iff _ rules (List.Perm.refl _),
      found_perm hnd hperm, admits_perm e h le_rfl hperm]

/-- Two files of different paths, given in descending order. -/
def pair : List SourceFile := [⟨"b", ["x"]⟩, ⟨"a", ["/x", "!x"]⟩]

theorem scanIn_orderFree_pair :
    let result : ScanResult Severity :=
      ⟨[⟨"A", .high, "a", 2, "!x"⟩, ⟨"A", .high, "b", 1, "x"⟩],
        [⟨"B", "a", 1, .literalNotText "int"⟩, ⟨"B", "b", 1, .literalNotText "int"⟩]⟩
    (pair.map SourceFile.path).Nodup ∧
      (unlimited.withWorkers 1 (Int.le_refl 1)).scan soundAndBroken pair = .ok result ∧
      (unlimited.withWorkers 3 (by decide)).scanIn [1, 0] soundAndBroken pair.reverse =
        .ok result ∧
      ∃ sites, Enumerates (Reported soundAndBroken pair) sites result.findings ∧
        Ordered pair sites := by
  intro result
  have hall := scanIn_orderFree unlimited soundAndBroken pair
  have hnd : (pair.map SourceFile.path).Nodup := by decide
  have hserial : (unlimited.withWorkers 1 (Int.le_refl 1)).scan soundAndBroken pair =
    .ok result := by cbv
  have hpooled := hall.2 hnd 3 (by decide) pair.reverse [1, 0] (List.reverse_perm _) (by decide)
  exact ⟨hnd, hserial, (hpooled result).mpr hserial,
    (hall.1 [0, 1] result (List.Perm.refl _) hserial).1⟩

end Engine

end LineAudit
