import LineAudit.Proofs.Outcome
import LineAudit.Scan.Engine

/-!
When a scan of several files succeeds, and with which result.

The result is the same whether files are scanned one after the other or side by side, in whatever
order their scans complete.
-/

namespace LineAudit

namespace Pool

variable {α : Type}

lemma length_foldl_complete (results : List α) (order : List ℕ) (slots : List (Option α)) :
    (order.foldl (complete results) slots).length = slots.length := by
  induction order generalizing slots with
  | nil => rfl
  | cons task rest ih => rw [List.foldl_cons, ih, complete, List.length_set]

/-- After some tasks have completed, their slots hold their results and the others are as before. -/
lemma getElem?_foldl_complete (results : List α) (order : List ℕ) (slots : List (Option α))
    {i : ℕ} (hi : i < slots.length) :
    (order.foldl (complete results) slots)[i]? =
      if i ∈ order then some results[i]? else slots[i]? := by
  induction order generalizing slots with
  | nil => simp
  | cons task rest ih =>
    rw [List.foldl_cons, ih _ (by rwa [complete, List.length_set])]
    by_cases hrest : i ∈ rest
    · simp [hrest]
    · by_cases htask : task = i
      · subst htask
        simp [hrest, complete, hi]
      · simp [hrest, complete, htask, Ne.symm htask]

/-- **Whoever waits for all tasks gets their results in the order of the tasks.** -/
theorem collect_eq (results : List α) (order : List ℕ) (h : ∀ i < results.length, i ∈ order) :
    collect results order = results := by
  have hslots : order.foldl (complete results) (results.map fun _ => none) =
      results.map some := by
    refine List.ext_getElem? fun i => ?_
    by_cases hi : i < results.length
    · rw [getElem?_foldl_complete results order _ (by rwa [List.length_map]), if_pos (h i hi)]
      simp [hi]
    · have hlen := length_foldl_complete results order (results.map fun _ => none)
      rw [List.length_map] at hlen
      rw [List.getElem?_eq_none (by omega), List.getElem?_eq_none (by simpa using hi)]
  rw [collect, hslots]
  simp

end Pool

namespace Engine

variable {σ : Type}

/-- Files are within the limits of an engine: they do not have too many lines, and the deadline is a
time and has not passed before a line is reached. -/
structure Admits (e : Engine) (files : List SourceFile) : Prop where
  cap : ∀ cap, e.maxLines? = some cap → (SourceFile.totalLines files : Int) ≤ cap
  clock : e.hasLargeDeadline = false
  time : e.passed? = none ∨ ∀ f ∈ files, f.lines = []

/-- The result of a scan of files within the limits. -/
def found (rules : List (Rule σ)) (files : List SourceFile) : ScanResult σ :=
  merge (files.map (FileScan.run rules))

lemma overCap?_eq_none_iff (e : Engine) (files : List SourceFile) :
    e.overCap? files = none ↔
      ∀ cap, e.maxLines? = some cap → (SourceFile.totalLines files : Int) ≤ cap := by
  unfold overCap?
  cases e.maxLines? with
  | none => simp
  | some cap => simp

lemma scanFile_eq_ok_iff (e : Engine) (rules : List (Rule σ)) (f : SourceFile)
    (s : FileScan σ) :
    e.scanFile rules f = .ok s ↔ (e.passed? = none ∨ f.lines = []) ∧ .run rules f = s := by
  unfold scanFile
  rcases hp : e.passed? with _ | deadline <;> rcases hl : f.lines with _ | ⟨line, rest⟩ <;> simp

lemma gather_eq_ok_iff (outcomes : List (Except ScanAbort (FileScan σ))) (result : ScanResult σ) :
    gather outcomes = .ok result ↔ ∃ scans, outcomes = scans.map .ok ∧ merge scans = result := by
  have hall : ∀ scans, outcomes.mapM id = .ok scans ↔ outcomes = scans.map .ok := by
    intro scans
    rw [mapM_eq_ok_iff, ← List.forall₂_eq_eq_eq, List.forall₂_map_right_iff]
    rfl
  unfold gather
  cases h : outcomes.mapM id with
  | ok scans =>
    have hscans := (hall scans).mp h
    constructor
    · intro hm
      exact ⟨scans, hscans, by simpa using hm⟩
    · rintro ⟨scans', hscans', rfl⟩
      rw [(hall scans').mpr hscans'] at h
      rw [Except.ok.inj h]
  | error abort =>
    refine ⟨fun hm => by simp at hm, ?_⟩
    rintro ⟨scans, hscans, -⟩
    rw [(hall scans).mpr hscans] at h
    simp at h

/-- Scans one after the other succeed exactly when no line is reached after the deadline. -/
lemma gather_scanFile_iff (e : Engine) (rules : List (Rule σ)) (files : List SourceFile)
    (result : ScanResult σ) :
    gather (files.map (e.scanFile rules)) = .ok result ↔
      (e.passed? = none ∨ ∀ f ∈ files, f.lines = []) ∧ found rules files = result := by
  have hall : ∀ scans, files.map (e.scanFile rules) = scans.map .ok ↔
      (∀ f ∈ files, e.passed? = none ∨ f.lines = []) ∧
        files.map (FileScan.run rules) = scans := by
    intro scans
    rw [← List.forall₂_eq_eq_eq, List.forall₂_map_left_iff, List.forall₂_map_right_iff]
    simp only [scanFile_eq_ok_iff]
    rw [List.forall₂_and_left]
    refine and_congr Iff.rfl ((List.forall₂_map_left_iff (R := Eq)).symm.trans ?_)
    rw [List.forall₂_eq_eq_eq]
  have htime : (∀ f ∈ files, e.passed? = none ∨ f.lines = []) ↔
      (e.passed? = none ∨ ∀ f ∈ files, f.lines = []) := by
    by_cases h : e.passed? = none <;> simp [h]
  rw [gather_eq_ok_iff, ← htime]
  constructor
  · rintro ⟨scans, hscans, hmerge⟩
    obtain ⟨ht, rfl⟩ := (hall scans).mp hscans
    exact ⟨ht, hmerge⟩
  · rintro ⟨ht, hmerge⟩
    exact ⟨_, (hall _).mpr ⟨ht, rfl⟩, hmerge⟩

/-- Files are scanned side by side as they are one after the other. -/
lemma scanPooled_eq (e : Engine) {order : List ℕ} (rules : List (Rule σ))
    {files : List SourceFile} (horder : order.Perm (List.range files.length)) :
    e.scanPooled order rules files = e.scanSerially rules files := by
  rw [scanPooled, Pool.collect_eq _ _ fun i hi => ?_, scanSerially]
  rw [List.length_map] at hi
  exact horder.mem_iff.mpr (List.mem_range.mpr hi)

lemma scanIn_eq (e : Engine) {order : List ℕ} (rules : List (Rule σ))
    {files : List SourceFile} (horder : order.Perm (List.range files.length)) :
    e.scanIn order rules files =
      match e.overCap? files with
      | some abort => .error abort
      | none =>
        if e.hasLargeDeadline then .error .largeDeadline else e.scanSerially rules files := by
  unfold scanIn
  cases e.overCap? files with
  | some abort => rfl
  | none => simp only [scanPooled_eq e rules horder, ite_self]

/-- **A scan succeeds exactly within the limits, and its result does not depend on the number of
workers nor on the order in which the scans of files complete.** -/
theorem scanIn_eq_ok_iff (e : Engine) {order : List ℕ} (rules : List (Rule σ))
    {files : List SourceFile} (horder : order.Perm (List.range files.length))
    (result : ScanResult σ) :
    e.scanIn order rules files = .ok result ↔ e.Admits files ∧ found rules files = result := by
  rw [scanIn_eq e rules horder, scanSerially]
  cases hcap : e.overCap? files with
  | some abort =>
    have hno : ¬ e.Admits files := fun h => by
      rw [(overCap?_eq_none_iff e files).mpr h.cap] at hcap
      simp at hcap
    simp [hno]
  | none =>
    dsimp only
    cases hclock : e.hasLargeDeadline with
    | true =>
      have hno : ¬ e.Admits files := fun h => by simp [h.clock] at hclock
      simp [hno]
    | false =>
      have hyes := (overCap?_eq_none_iff e files).mp hcap
      have hadmits : e.Admits files ↔ (e.passed? = none ∨ ∀ f ∈ files, f.lines = []) :=
        ⟨fun h => h.time, fun h => ⟨hyes, hclock, h⟩⟩
      rw [hadmits]
      exact gather_scanFile_iff e rules files result

end Engine

end LineAudit
