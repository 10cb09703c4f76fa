import LineAudit.Proofs.Scan.Engine
import Mathlib.Algebra.GroupWithZero.Nat

/-!
When a scan is given up, and why.

The line cap comes first and is a matter of line counts alone. The deadline then stops the scan at
the first line of the first file that has one. Nothing that a rule does can stop a scan. Limits out
of range end a scan in ways of their own, without words.
-/

namespace LineAudit

variable {σ τ : Type}

lemma SourceFile.totalLines_eq_sum (files : List SourceFile) :
    totalLines files = (files.map fun f => f.lines.length).sum := by
  induction files with
  | nil => rfl
  | cons f rest ih => rw [totalLines, ih, List.map_cons, List.sum_cons]

namespace Engine

/-- Why an engine gives up a scan. -/
inductive Aborts (e : Engine) (files : List SourceFile) : ScanAbort → Prop
  /-- The files have more lines than the cap. -/
  | tooLong {cap : Int} (hcap : e.maxLines? = some cap)
      (hlong : cap < (SourceFile.totalLines files : Int))
      (htold : Number.isShort cap = true) :
      Aborts e files (.tooLong (SourceFile.totalLines files) cap)
  | longCap {cap : Int} (hcap : e.maxLines? = some cap)
      (hlong : cap < (SourceFile.totalLines files : Int))
      (htold : Number.isShort cap = false) : Aborts e files .longCap
  | largeDeadline
      (hcap : ∀ cap, e.maxLines? = some cap → (SourceFile.totalLines files : Int) ≤ cap)
      (hclock : e.hasLargeDeadline = true) : Aborts e files .largeDeadline
  /-- The files are within the cap, and the deadline has passed before the first line of the first
  file that has a line. -/
  | late {deadline : Number} {f : SourceFile} (before after : List SourceFile)
      (hcap : ∀ cap, e.maxLines? = some cap → (SourceFile.totalLines files : Int) ≤ cap)
      (hclock : e.hasLargeDeadline = false)
      (hpassed : e.passed? = some deadline) (hfiles : files = before ++ f :: after)
      (hbefore : ∀ g ∈ before, g.lines = []) (hf : f.lines ≠ []) :
      Aborts e files (.late deadline f.path 1)

/-- Limits that can be told and that time can be measured by: a cap of no more digits than can be
written, and a deadline that is no whole number beyond all numbers with a point. -/
structure InRange (e : Engine) : Prop where
  cap : ∀ cap, e.maxLines? = some cap → Number.isShort cap = true
  deadline : ∀ deadline, e.deadline? = some deadline → deadline.isTooLarge = false

/-- What is said when an engine gives up a scan. -/
inductive GivesUp (e : Engine) (files : List SourceFile) : String → Prop
  /-- The files have more lines than the cap. -/
  | tooLong {cap : Int} (hcap : e.maxLines? = some cap)
      (hlong : cap < (SourceFile.totalLines files : Int)) :
      GivesUp e files
        s!"corpus has {SourceFile.totalLines files} lines, exceeding the cap of {cap}"
  /-- The files are within the cap, and the deadline has passed before the first line of the first
  file that has a line. -/
  | late {deadline : Number} {f : SourceFile} (before after : List SourceFile)
      (hcap : ∀ cap, e.maxLines? = some cap → (SourceFile.totalLines files : Int) ≤ cap)
      (hpassed : e.passed? = some deadline) (hfiles : files = before ++ f :: after)
      (hbefore : ∀ g ∈ before, g.lines = []) (hf : f.lines ≠ []) :
      GivesUp e files s!"scan exceeded its {deadline.text}s deadline at {f.path}:1"

variable {e : Engine}

lemma InRange.hasLargeDeadline_eq (h : e.InRange) : e.hasLargeDeadline = false := by
  simpa [hasLargeDeadline, Option.any_eq_false] using h.deadline

variable (e) in
lemma overCap?_eq_some_iff {files : List SourceFile} {abort : ScanAbort} :
    e.overCap? files = some abort ↔ ∃ cap, e.maxLines? = some cap ∧
      cap < (SourceFile.totalLines files : Int) ∧
        abort = if Number.isShort cap then .tooLong (SourceFile.totalLines files) cap
          else .longCap := by
  unfold overCap?
  cases e.maxLines? with
  | none => simp
  | some cap =>
    by_cases hlong : cap < (SourceFile.totalLines files : Int)
    · simp only [hlong, if_true, Option.some.injEq, exists_eq_left', true_and]
      exact eq_comm
    · simp [hlong]

variable (e)

lemma scanFile_eq_error_iff (rules : List (Rule σ)) {f : SourceFile} {abort : ScanAbort} :
    e.scanFile rules f = .error abort ↔ ∃ deadline, e.passed? = some deadline ∧ f.lines ≠ [] ∧
      abort = .late deadline f.path 1 := by
  unfold scanFile
  rcases hp : e.passed? with _ | deadline <;> rcases hl : f.lines with _ | ⟨line, rest⟩ <;>
    simp [eq_comm]

lemma gather_eq_error_iff {outcomes : List (Except ScanAbort (FileScan σ))} {abort : ScanAbort} :
    gather outcomes = .error abort ↔ outcomes.mapM id = .error abort := by
  unfold gather
  cases outcomes.mapM id <;> simp

/-- Scans one after the other fail at the first file that has a line. -/
lemma scanSerially_eq_error_iff (rules : List (Rule σ)) {files : List SourceFile}
    {abort : ScanAbort} :
    e.scanSerially rules files = .error abort ↔ ∃ deadline before f after,
      e.passed? = some deadline ∧ files = before ++ f :: after ∧ (∀ g ∈ before, g.lines = []) ∧
        f.lines ≠ [] ∧ abort = .late deadline f.path 1 := by
  have hscanned (g : SourceFile) : (∃ s, e.scanFile rules g = .ok s) ↔
      e.passed? = none ∨ g.lines = [] := by simp [scanFile_eq_ok_iff]
  rw [scanSerially, gather_eq_error_iff, List.mapM_map, mapM_eq_error_iff]
  simp only [Function.comp_def, id_eq, hscanned, scanFile_eq_error_iff]
  constructor
  · rintro ⟨before, f, after, hfiles, hbefore, deadline, hp, hf, rfl⟩
    refine ⟨deadline, before, f, after, hp, hfiles, fun g hg => ?_, hf, rfl⟩
    simpa [hp] using hbefore g hg
  · rintro ⟨deadline, before, f, after, hp, hfiles, hbefore, hf, rfl⟩
    exact ⟨before, f, after, hfiles, fun g hg => .inr (hbefore g hg), deadline, hp, hf, rfl⟩

lemma scanIn_eq_error_iff {order : List ℕ} (rules : List (Rule σ)) {files : List SourceFile}
    (horder : order.Perm (List.range files.length)) {abort : ScanAbort} :
    e.scanIn order rules files = .error abort ↔ e.Aborts files abort := by
  rw [scanIn_eq e rules horder]
  constructor
  · intro h
    split at h
    next abort' hover =>
      obtain rfl := Except.error.inj h
      obtain ⟨cap, hcap, hlong, rfl⟩ := (overCap?_eq_some_iff e).mp hover
      split
      next htold => exact .tooLong hcap hlong htold
      next htold => exact .longCap hcap hlong (Bool.eq_false_iff.mpr htold)
    next hover =>
      have hcap := (overCap?_eq_none_iff e files).mp hover
      split at h
      next hclock =>
        obtain rfl := Except.error.inj h
        exact .largeDeadline hcap hclock
      next hclock =>
        obtain ⟨deadline, before, f, after, hp, hfiles, hbefore, hf, rfl⟩ :=
          (scanSerially_eq_error_iff e rules).mp h
        exact .late before after hcap (Bool.eq_false_iff.mpr hclock) hp hfiles hbefore hf
  · rintro (⟨hcap, hlong, htold⟩ | ⟨hcap, hlong, htold⟩ | ⟨hcap, hclock⟩ |
      ⟨before, after, hcap, hclock, hp, hfiles, hbefore, hf⟩)
    · rw [(overCap?_eq_some_iff e).mpr ⟨_, hcap, hlong, (if_pos htold).symm⟩]
    · rw [(overCap?_eq_some_iff e).mpr ⟨_, hcap, hlong, (if_neg (by simp [htold])).symm⟩]
    · rw [(overCap?_eq_none_iff e files).mpr hcap]
      simp only [hclock, if_true]
    · rw [(overCap?_eq_none_iff e files).mpr hcap]
      simp only [hclock, Bool.false_eq_true, if_false]
      exact (scanSerially_eq_error_iff e rules).mpr
        ⟨_, before, _, after, hp, hfiles, hbefore, hf, rfl⟩

lemma aborts_tooLong_iff {files : List SourceFile} {lines : ℕ} {cap : Int} :
    e.Aborts files (.tooLong lines cap) ↔ e.maxLines? = some cap ∧
      cap < (SourceFile.totalLines files : Int) ∧ Number.isShort cap = true ∧
        lines = SourceFile.totalLines files := by
  constructor
  · rintro ⟨hcap, hlong, htold⟩
    exact ⟨hcap, hlong, htold, rfl⟩
  · rintro ⟨hcap, hlong, htold, rfl⟩
    exact .tooLong hcap hlong htold

lemma message?_late (deadline : Number) (path : String) :
    (ScanAbort.late deadline path 1).message? =
      some s!"scan exceeded its {deadline.text}s deadline at {path}:1" := by
  have hone : toString ":" ++ toString 1 = ":1" := rfl
  rw [ScanAbort.message?, String.append_assoc, hone]
  rfl

variable {e} in
/-- With limits in range, whatever ends a scan has words, and they say why. -/
lemma InRange.exists_aborts_iff (h : e.InRange) {files : List SourceFile} {text : String} :
    (∃ abort, e.Aborts files abort ∧ abort.message? = some text) ↔ e.GivesUp files text := by
  constructor
  · rintro ⟨-, ⟨hcap, hlong, -⟩ | - | - | ⟨before, after, hcap, -, hp, hfiles, hbefore, hf⟩, htext⟩
    · obtain rfl := Option.some.inj htext
      exact .tooLong hcap hlong
    · cases htext
    · cases htext
    · rw [message?_late, Option.some.injEq] at htext
      exact htext ▸ .late before after hcap hp hfiles hbefore hf
  · rintro (⟨hcap, hlong⟩ | ⟨before, after, hcap, hp, hfiles, hbefore, hf⟩)
    · exact ⟨_, .tooLong hcap hlong (h.cap _ hcap), rfl⟩
    · exact ⟨_, .late before after hcap h.hasLargeDeadline_eq hp hfiles hbefore hf,
        message?_late _ _⟩

variable {e} in
lemma InRange.exists_message (h : e.InRange) {files : List SourceFile} {abort : ScanAbort}
    (haborts : e.Aborts files abort) : ∃ text, abort.message? = some text := by
  cases haborts with
  | tooLong => exact ⟨_, rfl⟩
  | late => exact ⟨_, rfl⟩
  | longCap hcap _ htold => cases (h.cap _ hcap).symm.trans htold
  | largeDeadline _ hclock => cases h.hasLargeDeadline_eq.symm.trans hclock

/-- A file with a line comes after files without one. -/
lemma exists_first_line {files : List SourceFile} (h : ∃ f ∈ files, f.lines ≠ []) :
    ∃ before f after, files = before ++ f :: after ∧ (∀ g ∈ before, g.lines = []) ∧
      f.lines ≠ [] := by
  induction files with
  | nil => simp at h
  | cons g rest ih =>
    by_cases hg : g.lines = []
    · obtain ⟨before, f, after, rfl, hbefore, hf⟩ := ih (by simpa [hg] using h)
      exact ⟨g :: before, f, after, rfl, List.forall_mem_cons.mpr ⟨hg, hbefore⟩, hf⟩
    · exact ⟨[], g, rest, rfl, by simp, hg⟩

/-- A scan is given up when the cap is exceeded, and when the deadline has passed and there is a
line. -/
lemma exists_givesUp_iff (files : List SourceFile) :
    (∃ text, e.GivesUp files text) ↔
      (∃ cap, e.maxLines? = some cap ∧ cap < (SourceFile.totalLines files : Int)) ∨
        (∃ deadline, e.passed? = some deadline) ∧ ∃ f ∈ files, f.lines ≠ [] := by
  constructor
  · rintro ⟨-, ⟨hcap, hlong⟩ | ⟨before, after, -, hp, rfl, -, hf⟩⟩
    · exact .inl ⟨_, hcap, hlong⟩
    · exact .inr ⟨⟨_, hp⟩, _, by simp, hf⟩
  · intro h
    by_cases hlong : ∃ cap, e.maxLines? = some cap ∧ cap < (SourceFile.totalLines files : Int)
    · obtain ⟨cap, hcap, hlt⟩ := hlong
      exact ⟨_, .tooLong hcap hlt⟩
    · obtain ⟨⟨deadline, hp⟩, hline⟩ := h.resolve_left hlong
      obtain ⟨before, f, after, hfiles, hbefore, hf⟩ := exists_first_line hline
      refine ⟨_, .late before after (fun cap hcap => ?_) hp hfiles hbefore hf⟩
      by_contra hlt
      exact hlong ⟨cap, hcap, by omega⟩

/-- **A scan is given up when there are more lines than the cap, and else when a line is reached
after the deadline, and for no other reason**, as long as the limits are in range. Then it is said
how many lines there are, or which line is the first one in the order of the files. Rules have no
part in this, whatever stands in the place of their matchers, nor has the number of workers, and the
cap goes by line counts alone. -/
theorem scanIn_givesUp {order : List ℕ} (rules : List (Rule σ)) {files : List SourceFile}
    (horder : order.Perm (List.range files.length)) (hrange : e.InRange) :
    (∀ abort, e.scanIn order rules files = .error abort → ∃ text, abort.message? = some text) ∧
    (∀ text, (∃ abort, e.scanIn order rules files = .error abort ∧ abort.message? = some text) ↔
      e.GivesUp files text) ∧
    ((∃ abort, e.scanIn order rules files = .error abort) ↔
      (∃ cap, e.maxLines? = some cap ∧
        cap < (((files.map fun f => f.lines.length).sum : ℕ) : Int)) ∨
      (∃ deadline, e.passed? = some deadline) ∧ ∃ f ∈ files, f.lines ≠ []) ∧
    ((¬ ∃ abort, e.scanIn order rules files = .error abort) →
      e.scanIn order rules files = .ok (found rules files)) ∧
    ∀ (rules' : List (Rule τ)) (files' : List SourceFile),
      (files'.map fun f => f.lines.length) = (files.map fun f => f.lines.length) →
        ∀ lines cap, e.scanIn order rules' files' = .error (.tooLong lines cap) ↔
          e.scanIn order rules files = .error (.tooLong lines cap) := by
  have herror (abort : ScanAbort) : e.scanIn order rules files = .error abort ↔
      e.Aborts files abort := scanIn_eq_error_iff e rules horder
  have htext (text : String) : (∃ abort, e.scanIn order rules files = .error abort ∧
      abort.message? = some text) ↔ e.GivesUp files text := by
    simp only [herror, hrange.exists_aborts_iff]
  have hwords (abort : ScanAbort) (h : e.scanIn order rules files = .error abort) :
      ∃ text, abort.message? = some text := hrange.exists_message ((herror abort).mp h)
  refine ⟨hwords, htext, ?_, fun hno => ?_, fun rules' files' hcounts lines cap => ?_⟩
  · rw [← SourceFile.totalLines_eq_sum, ← exists_givesUp_iff]
    simp only [← htext]
    constructor
    · rintro ⟨abort, h⟩
      obtain ⟨text, htold⟩ := hwords abort h
      exact ⟨text, abort, h, htold⟩
    · rintro ⟨-, abort, h, -⟩
      exact ⟨abort, h⟩
  · cases h : e.scanIn order rules files with
    | error abort => exact absurd ⟨abort, h⟩ hno
    | ok result => rw [((scanIn_eq_ok_iff e rules horder result).mp h).2]
  · have hlength : files'.length = files.length := by simpa using congrArg List.length hcounts
    have htotal : SourceFile.totalLines files' = SourceFile.totalLines files := by
      rw [SourceFile.totalLines_eq_sum, SourceFile.totalLines_eq_sum, hcounts]
    rw [herror, scanIn_eq_error_iff e rules' (hlength ▸ horder), aborts_tooLong_iff,
      aborts_tooLong_iff, htotal]

/-- Rules that hold values that are no matchers, and one that fails on every line. -/
def unchecked : List (Rule Severity) :=
  [⟨"A", .null, .high, .foreign (.int 5), [], .null⟩,
    ⟨"B", .null, .low, .literal 0 (.str ""), [.foreign .null], .null⟩]

/-- Files of which the first has no line. -/
def afterEmpty : List SourceFile := [⟨"c", []⟩, ⟨"b", ["x"]⟩, ⟨"a", ["y", "z"]⟩]

/-- A cap on lines, and a deadline that has passed. -/
def cappedLate (cap : Int) : Engine := ⟨some cap, some (.int (-1)), 2, by decide⟩

theorem scanIn_givesUp_afterEmpty :
    [2, 0, 1].Perm (List.range afterEmpty.length) ∧
      ((cappedLate 3).InRange ∧ ∃ abort,
        (cappedLate 3).scanIn [2, 0, 1] unchecked afterEmpty = .error abort ∧
          abort.message? = some "scan exceeded its -1s deadline at b:1") ∧
      ((cappedLate 2).InRange ∧ ∃ abort,
        (cappedLate 2).scanIn [2, 0, 1] unchecked afterEmpty = .error abort ∧
          abort.message? = some "corpus has 3 lines, exceeding the cap of 2") ∧
      unlimited.scanIn [2, 0, 1] unchecked afterEmpty = .ok (found unchecked afterEmpty) := by
  have horder : [2, 0, 1].Perm (List.range afterEmpty.length) := by decide
  have hrange {cap : Int} (hcap : Number.isShort cap = true) : (cappedLate cap).InRange := by
    refine ⟨?_, ?_⟩
    · rintro _ ⟨rfl⟩
      exact hcap
    · rintro _ ⟨rfl⟩
      decide +kernel
  have hthree : (cappedLate 3).InRange := hrange (by decide +kernel)
  have htwo : (cappedLate 2).InRange := hrange (by decide +kernel)
  have hlate := scanIn_givesUp (τ := Severity) _ unchecked horder hthree
  have hlong := scanIn_givesUp (τ := Severity) _ unchecked horder htwo
  have hok := scanIn_givesUp (τ := Severity) unlimited unchecked horder ⟨by simp [unlimited],
    by simp [unlimited]⟩
  refine ⟨horder, ⟨hthree, (hlate.2.1 _).mpr ?_⟩, ⟨htwo, (hlong.2.1 _).mpr ?_⟩, hok.2.2.2.1 ?_⟩
  · exact @GivesUp.late (cappedLate 3) _ (.int (-1)) ⟨"b", ["x"]⟩ [⟨"c", []⟩] [⟨"a", ["y", "z"]⟩]
      (by decide) rfl rfl (by decide) (by decide)
  · exact @GivesUp.tooLong (cappedLate 2) _ 2 rfl (by decide)
  · rw [hok.2.2.1]
    simp [unlimited, passed?]

/-- An engine without a cap, whose deadline is a whole number of 401 digits. -/
def farDeadline : Engine := { unlimited with deadline? := some (.int (tenTo 400)) }

/-- An engine whose cap lies below zero and has 4301 digits. -/
def deepCap : Engine := { unlimited with maxLines? := some (-tenTo Number.digitLimit) }

/-- A deadline in so far a future never passes, and where there is no line none is reached after it.
Yet a scan without files ends in an error that has no words. So does a scan with more lines than so
low a cap. -/
theorem not_givesUp_farDeadline :
    (farDeadline.passed? = none ∧ (∀ text, ¬ farDeadline.GivesUp [] text) ∧ ∃ abort,
      farDeadline.scan ([] : List (Rule Severity)) [] = .error abort ∧ abort.message? = none) ∧
    (∃ text, deepCap.GivesUp [] text) ∧ ∃ abort,
      deepCap.scan ([] : List (Rule Severity)) [] = .error abort ∧ abort.message? = none := by
  have hclock : farDeadline.hasLargeDeadline = true := by decide +kernel
  have hfar : farDeadline.Aborts [] .largeDeadline :=
    .largeDeadline (fun _ h => by cases h) hclock
  have hlong : -(tenTo Number.digitLimit : Int) < (SourceFile.totalLines [] : Int) := by
    decide +kernel
  have hshort : Number.isShort (-tenTo Number.digitLimit) = false := by
    refine Number.isShort_eq_false_iff.mpr (Nat.le_of_eq ?_)
    rw [Int.natAbs_neg, Int.natAbs_natCast]
  have hdeep : deepCap.Aborts [] .longCap := .longCap rfl hlong hshort
  refine ⟨⟨by decide +kernel, fun text h => ?_, .largeDeadline, ?_, rfl⟩, ⟨_, .tooLong rfl hlong⟩,
    .longCap, ?_, rfl⟩
  · have hcause := (exists_givesUp_iff farDeadline []).mp ⟨text, h⟩
    simp [farDeadline, unlimited] at hcause
  · exact (scanIn_eq_error_iff farDeadline [] (List.Perm.refl _)).mpr hfar
  · exact (scanIn_eq_error_iff deepCap [] (List.Perm.refl _)).mpr hdeep

end Engine

end LineAudit
