import LineAudit.Proofs.Scan.Independence
import LineAudit.Proofs.Scan.OrderFree

/-!
What a scan reports on a line, and what this does not depend on.

A rule is broken within one file, and from the failing line on. So what is reported on a file is
found in this file, and what is reported on a line is found on the lines up to it; the sort keeps
both apart from the rest. Main result: other files and later lines play no part.
-/

namespace LineAudit

variable {σ α : Type}

/-- A file cut to its first `n` lines. -/
def SourceFile.cut (n : ℕ) (f : SourceFile) : SourceFile := { f with lines := f.lines.take n }

namespace ScanResult

/-- The part of a result that is about the files with a path. -/
def inFile (r : ScanResult σ) (path : String) : ScanResult σ :=
  ⟨r.findings.filter fun x => x.file = path, r.errors.filter fun x => x.file = path⟩

/-- The part of a result that is about lines up to number `n`. -/
def upTo (r : ScanResult σ) (n : ℕ) : ScanResult σ :=
  ⟨r.findings.filter fun x => x.line ≤ n, r.errors.filter fun x => x.line ≤ n⟩

end ScanResult

namespace FileScan

/-- The visits to the first lines are those made before any later line is seen. -/
lemma visitsFrom_take (rules : List (Rule σ)) (before rest : List String) (n : ℕ) :
    visitsFrom rules before (rest.take n) =
      (visitsFrom rules before rest).filter fun v => v.number ≤ before.length + n := by
  induction rest generalizing before n with
  | nil => rw [List.take_nil, visitsFrom, List.filter_nil]
  | cons line rest ih =>
    cases n with
    | zero =>
      rw [List.take_zero, visitsFrom, eq_comm, List.filter_eq_nil_iff]
      intro v hv
      obtain ⟨k, hk, -⟩ := mem_visitsFrom.mp hv
      simp only [decide_eq_true_eq]
      omega
    | succ n =>
      have hlater := ih (before ++ [line]) n
      rw [List.length_append, List.length_singleton, Nat.add_assoc, Nat.add_comm 1 n] at hlater
      rw [List.take_succ_cons, visitsFrom, visitsFrom, List.filter_append, hlater]
      congr 1
      refine (List.filter_eq_self.mpr fun v hv => ?_).symm
      have hv := (mem_visitsOf.mp hv).1
      simp only [decide_eq_true_eq]
      omega

lemma visits_cut (rules : List (Rule σ)) (f : SourceFile) (n : ℕ) :
    visits rules (f.cut n) = (visits rules f).filter fun v => v.number ≤ n := by
  have h := visitsFrom_take rules [] f.lines n
  rw [List.length_nil, Nat.zero_add] at h
  exact h

end FileScan

open FileScan

/-- What comes of a visit tells the path of the file and the number of the line. -/
structure TellsPlace (pick : String → Visit σ → Option (Placed α)) (fileOf : α → String)
    (lineOf : α → ℕ) : Prop where
  file : ∀ path v x, pick path v = some x → fileOf x.item = path
  line : ∀ path v x, pick path v = some x → lineOf x.item = v.number

lemma tellsPlace_hit : TellsPlace (Visit.hit? (σ := σ)) Finding.file Finding.line := by
  constructor
  all_goals
    intro path v x hx
    obtain ⟨-, rfl⟩ := Visit.hit?_eq_some_iff.mp hx
    rfl

lemma tellsPlace_error :
    TellsPlace (Visit.error? (σ := σ)) EvaluationError.file EvaluationError.line := by
  constructor
  all_goals
    intro path v x hx
    obtain ⟨c, -, rfl⟩ := Visit.error?_eq_some_iff.mp hx
    rfl

section Place

variable {pick : String → Visit σ → Option (Placed α)} {fileOf : α → String} {lineOf : α → ℕ}
  (hpick : TellsPlace pick fileOf lineOf) (rules : List (Rule σ))

include hpick

/-- What is found in files with other paths does not have the path of a file. -/
lemma picked_filter_other {path : String} {files : List SourceFile}
    (h : ∀ g ∈ files, g.path ≠ path) :
    (picked pick rules files).flatten.filter (fun x => fileOf x.item = path) = [] := by
  rw [List.filter_eq_nil_iff]
  intro x hx
  obtain ⟨g, hg, v, -, hv⟩ := mem_picked_flatten.mp hx
  simpa [hpick.file _ _ _ hv] using h g hg

lemma picked_filter_file {f : SourceFile} {before after : List SourceFile}
    (h : ∀ g ∈ before ++ after, g.path ≠ f.path) :
    (picked pick rules (before ++ f :: after)).flatten.filter (fun x => fileOf x.item = f.path) =
      (picked pick rules [f]).flatten := by
  have hself : (picked pick rules [f]).flatten.filter (fun x => fileOf x.item = f.path) =
      (picked pick rules [f]).flatten := by
    refine List.filter_eq_self.mpr fun x hx => ?_
    obtain ⟨g, hg, v, -, hv⟩ := mem_picked_flatten.mp hx
    rw [List.mem_singleton.mp hg] at hv
    simpa using hpick.file _ _ _ hv
  have hsplit : (picked pick rules (before ++ f :: after)).flatten =
      (picked pick rules before).flatten ++
        ((picked pick rules [f]).flatten ++ (picked pick rules after).flatten) := by
    simp [picked]
  rw [List.forall_mem_append] at h
  rw [hsplit, List.filter_append, List.filter_append, hself, picked_filter_other hpick rules h.1,
    picked_filter_other hpick rules h.2, List.nil_append, List.append_nil]

/-- **What a scan of several files finds in one of them is what a scan of this file finds.** -/
lemma sorted_picked_file {f : SourceFile} {before after : List SourceFile}
    (h : ∀ g ∈ before ++ after, g.path ≠ f.path) :
    (Placed.sorted (picked pick rules (before ++ f :: after)).flatten).filter
        (fun x => fileOf x = f.path) =
      Placed.sorted (picked pick rules [f]).flatten := by
  rw [← Placed.sorted_filter, picked_filter_file hpick rules h]

lemma picked_cut (f : SourceFile) (n : ℕ) :
    (picked pick rules [f.cut n]).flatten =
      (picked pick rules [f]).flatten.filter fun x => lineOf x.item ≤ n := by
  have hvisit : ∀ v ∈ visits rules f, (pick f.path v).filter (fun x => lineOf x.item ≤ n) =
      if v.number ≤ n then pick f.path v else none := by
    intro v _
    cases hv : pick f.path v with
    | none => simp
    | some x => simp [Option.filter_some, hpick.line _ _ _ hv]
  calc (picked pick rules [f.cut n]).flatten
      = ((visits rules f).filter fun v => v.number ≤ n).filterMap (pick f.path) := by
        rw [picked, List.map_singleton, List.flatten_singleton, visits_cut]
        rfl
    _ = ((visits rules f).filterMap (pick f.path)).filter fun x => lineOf x.item ≤ n := by
        rw [List.filterMap_filter, List.filter_filterMap]
        refine List.filterMap_congr fun v hv => ?_
        rw [hvisit v hv]
        simp
    _ = (picked pick rules [f]).flatten.filter fun x => lineOf x.item ≤ n := by
        rw [picked, List.map_singleton, List.flatten_singleton]

/-- **What a scan finds on the first lines of a file is what it finds in these lines alone.** -/
lemma sorted_picked_cut (f : SourceFile) (n : ℕ) :
    Placed.sorted (picked pick rules [f.cut n]).flatten =
      (Placed.sorted (picked pick rules [f]).flatten).filter fun x => lineOf x ≤ n := by
  rw [← Placed.sorted_filter, picked_cut hpick rules]

end Place

namespace Engine

variable (rules : List (Rule σ)) {f : SourceFile} {before after : List SourceFile}

lemma found_inFile (h : ∀ g ∈ before ++ after, g.path ≠ f.path) :
    (found rules (before ++ f :: after)).inFile f.path = found rules [f] := by
  have hfindings := sorted_picked_file tellsPlace_hit rules h
  have herrors := sorted_picked_file tellsPlace_error rules h
  rw [← findings_found, ← findings_found] at hfindings
  rw [← errors_found, ← errors_found] at herrors
  rw [ScanResult.inFile, hfindings, herrors]

lemma found_cut (f : SourceFile) (n : ℕ) :
    found rules [f.cut n] = (found rules [f]).upTo n := by
  have hfindings := sorted_picked_cut tellsPlace_hit rules f n
  have herrors := sorted_picked_cut tellsPlace_error rules f n
  rw [← findings_found, ← findings_found] at hfindings
  rw [← errors_found, ← errors_found] at herrors
  rw [ScanResult.upTo, ← hfindings, ← herrors]

lemma totalLines_eq_zero_iff (files : List SourceFile) :
    SourceFile.totalLines files = 0 ↔ ∀ g ∈ files, g.lines = [] := by
  induction files with
  | nil => simp [SourceFile.totalLines]
  | cons g rest ih =>
    rw [SourceFile.totalLines, Nat.add_eq_zero_iff, ih, List.length_eq_zero_iff,
      List.forall_mem_cons]

/-- Files with no more lines than others are within limits that the others are within. -/
lemma Admits.mono {e : Engine} {files files' : List SourceFile} (h : e.Admits files)
    (hle : SourceFile.totalLines files' ≤ SourceFile.totalLines files) : e.Admits files' where
  cap := by
    intro cap hcap
    have := h.cap cap hcap
    omega
  clock := h.clock
  time := by
    refine h.time.imp id fun hempty => ?_
    rw [← totalLines_eq_zero_iff] at hempty ⊢
    omega

lemma totalLines_around (before after : List SourceFile) (f : SourceFile) :
    SourceFile.totalLines (before ++ f :: after) = SourceFile.totalLines before +
      (f.lines.length + SourceFile.totalLines after) := by
  induction before with
  | nil => rw [List.nil_append, SourceFile.totalLines, SourceFile.totalLines, Nat.zero_add]
  | cons g rest ih =>
    rw [List.cons_append, SourceFile.totalLines, SourceFile.totalLines, ih, Nat.add_assoc]

/-- **What is reported is local.** Of a file whose path no other one has, a scan reports what a scan
of this file alone reports, whatever the others hold. When the file is cut to its first `n` lines,
what is reported of it is what was reported on these lines. So any two scans with the same rules
report the same on the first lines of a file, as long as these lines are the same: lines after them
and other files may differ, and so may limits and workers. -/
theorem scanIn_local (e : Engine) {order : List ℕ} {result : ScanResult σ}
    (hpath : ∀ g ∈ before ++ after, g.path ≠ f.path)
    (horder : order.Perm (List.range (before ++ f :: after).length))
    (h : e.scanIn order rules (before ++ f :: after) = .ok result) :
    e.scan rules [f] = .ok (result.inFile f.path) ∧
    (∀ n order', order'.Perm (List.range (before ++ f.cut n :: after).length) →
      ∃ shorter, e.scanIn order' rules (before ++ f.cut n :: after) = .ok shorter ∧
        shorter.inFile f.path = (result.inFile f.path).upTo n) ∧
    ∀ (e' : Engine) (before' after' : List SourceFile) (f' : SourceFile) (order' : List ℕ)
      (result' : ScanResult σ), f'.path = f.path → (∀ g ∈ before' ++ after', g.path ≠ f.path) →
        order'.Perm (List.range (before' ++ f' :: after').length) →
          e'.scanIn order' rules (before' ++ f' :: after') = .ok result' →
            ∀ n, f'.lines.take n = f.lines.take n →
              (result'.inFile f.path).upTo n = (result.inFile f.path).upTo n := by
  obtain ⟨hadmits, rfl⟩ := (scanIn_eq_ok_iff e rules horder result).mp h
  have halone := found_inFile rules hpath
  refine ⟨?_, fun n order' horder' => ?_, ?_⟩
  · rw [halone, scan, scanIn_eq_ok_iff e rules (List.Perm.refl _)]
    refine ⟨hadmits.mono ?_, rfl⟩
    rw [totalLines_around, SourceFile.totalLines, SourceFile.totalLines]
    omega
  · refine ⟨_, (scanIn_eq_ok_iff e rules horder' _).mpr ⟨hadmits.mono ?_, rfl⟩, ?_⟩
    · rw [totalLines_around, totalLines_around, SourceFile.cut, List.length_take]
      omega
    · have hcut : (found rules (before ++ f.cut n :: after)).inFile f.path =
          found rules [f.cut n] := found_inFile rules (f := f.cut n) hpath
      rw [hcut, halone, found_cut]
  · intro e' before' after' f' order' result' hsame hpath' horder' h' n hlines
    obtain ⟨-, rfl⟩ := (scanIn_eq_ok_iff e' rules horder' result').mp h'
    have hcut : f'.cut n = f.cut n := by rw [SourceFile.cut, SourceFile.cut, hsame, hlines]
    rw [← hsame] at hpath'
    have halone' := found_inFile rules hpath'
    rw [hsame] at halone'
    rw [halone, halone', ← found_cut, ← found_cut, hcut]

/-- A file in which the second rule fails on the second line, for files in which it fails or not. -/
def between : SourceFile := ⟨"a", ["!x", "x", "!"]⟩

theorem scanIn_local_between :
    let before : List SourceFile := [⟨"b", ["x"]⟩]
    let after : List SourceFile := [⟨"b", ["!"]⟩]
    let first : List (Finding Severity) := [⟨"A", .high, "a", 1, "!x"⟩, ⟨"B", .low, "a", 1, "!x"⟩]
    let second : Finding Severity := ⟨"A", .high, "a", 2, "x"⟩
    let failure : EvaluationError := ⟨"B", "a", 2, .literalNotText "int"⟩
    (∀ g ∈ before ++ after, g.path ≠ between.path) ∧
      unlimited.scanIn [2, 0, 1] soundAndBroken (before ++ between :: after) =
        .ok ⟨first ++ [second, ⟨"A", .high, "b", 1, "x"⟩, ⟨"B", .low, "b", 1, "!"⟩],
          [failure, ⟨"B", "b", 1, .literalNotText "int"⟩]⟩ ∧
      unlimited.scan soundAndBroken [between] = .ok ⟨first ++ [second], [failure]⟩ ∧
      ∃ shorter, unlimited.scanIn [0, 1, 2] soundAndBroken (before ++ between.cut 1 :: after) =
          .ok shorter ∧ shorter.inFile "a" = ⟨first, []⟩ := by
  intro before after first second failure
  have hpath : ∀ g ∈ before ++ after, g.path ≠ between.path := by decide
  have hscan : unlimited.scanIn [2, 0, 1] soundAndBroken (before ++ between :: after) =
      .ok ⟨first ++ [second, ⟨"A", .high, "b", 1, "x"⟩, ⟨"B", .low, "b", 1, "!"⟩],
        [failure, ⟨"B", "b", 1, .literalNotText "int"⟩]⟩ := by cbv
  obtain ⟨halone, hcut, -⟩ :=
    scanIn_local soundAndBroken unlimited hpath (by decide) hscan
  exact ⟨hpath, hscan, halone, hcut 1 [0, 1, 2] (by decide)⟩

end Engine

end LineAudit
