import LineAudit.Analyzer.Run
import LineAudit.Proofs.Analyzer.Payload
import LineAudit.Proofs.Text.Blank

/-!
What comes out of a run of the analyzer.

A run that cannot be used gives one warning and no findings. Main result: which runs do so, and
which runs break the scan off, because the reason of a failure has no words, the data has another
shape than expected, or a number in it is too long.
-/

namespace LineAudit

namespace AnalyzerRun

/-- The analyzer was not run, or not to its end. -/
def CouldNotRun : AnalyzerRun → Prop
  | .notInstalled | .timedOut | .systemError _ => True
  | .raised _ _ | .finished _ _ _ => False

/-- The run printed a JSON object. -/
def Prints (entries : List (Value × Value)) : AnalyzerRun → Prop
  | .finished output _ _ => Json.read output = .ok (.dict entries)
  | _ => False

/-- The run printed no JSON, or a JSON value that is no object. -/
def PrintsNoObject : AnalyzerRun → Prop
  | .finished output _ _ => Json.read output = .error .malformed ∨
      ∃ v, Json.read output = .ok v ∧ ∀ entries, v ≠ .dict entries
  | _ => False

lemma prints_unique {run : AnalyzerRun} {entries others : List (Value × Value)}
    (h : run.Prints entries) (h' : run.Prints others) : others = entries := by
  cases run with
  | finished output errors code => exact Value.dict.inj (Except.ok.inj (h'.symm.trans h))
  | _ => exact h.elim

end AnalyzerRun

namespace Analyzer

variable {entries : List (Value × Value)}

/-- The data says that the analysis failed. -/
def SaysFailed (entries : List (Value × Value)) : Prop :=
  Value.field? "success" entries = some (.bool false)

/-- The data gives a reason with words, or none at all. -/
def HasReason (entries : List (Value × Value)) : Prop :=
  let given := Value.fieldD "error" entries
  given.isTrue = false ∨ Text.isAllBlank given.text = false

lemma saysFailed_iff : saysFailed entries = true ↔ SaysFailed entries := by
  unfold saysFailed SaysFailed
  split
  next h => simp [h]
  next h => simpa using h

lemma exists_failureReason_iff :
    (∃ reason, failureReason entries = .ok reason) ↔ HasReason entries := by
  unfold failureReason HasReason
  simp only [Text.strip_isEmpty]
  by_cases hgiven : (Value.fieldD "error" entries).isTrue = true
  · cases hblank : Text.isAllBlank (Value.fieldD "error" entries).text <;> simp [hgiven, hblank]
  · have hwords : Text.isAllBlank "analysis failed" = false := by decide
    simp [hgiven, hwords]

/-! ### Runs of each kind -/

section Kinds

variable (a : Analyzer) {run : AnalyzerRun}

lemma payload_of_prints (h : run.Prints entries) : a.payload run = .ok (.ok entries) := by
  cases run with
  | finished output errors code =>
    have hread : Json.read output = .ok (.dict entries) := h
    rw [payload, hread]
  | _ => exact h.elim

/-- What a run gives whose data says that the analysis failed. -/
lemma outcome_of_saysFailed (h : run.Prints entries) (hfailed : SaysFailed entries) :
    a.outcome run = (failureReason entries).map fun reason => ⟨[], ["Slither: " ++ reason]⟩ := by
  unfold outcome
  simp only [payload_of_prints a h, saysFailed_iff.mpr hfailed, bind, Except.bind]
  cases failureReason entries <;> rfl

/-- What a run gives whose data does not say that the analysis failed. -/
lemma outcome_of_results (h : run.Prints entries) (hno : ¬ SaysFailed entries) :
    a.outcome run = match AnalyzerPayload.parse entries with
      | .ok findings => .ok ⟨findings, []⟩
      | .error failure => .error (.payload failure) := by
  have hfailed : saysFailed entries = false := by simpa [← saysFailed_iff] using hno
  unfold outcome
  simp only [payload_of_prints a h, hfailed, bind, Except.bind]
  cases AnalyzerPayload.parse entries <;> rfl

/-- A run that gives nothing to read gives one warning. -/
lemma outcome_of_nothing (h : run.CouldNotRun ∨ run.PrintsNoObject) :
    ∃ warning, a.outcome run = .ok ⟨[], [warning]⟩ := by
  have hreason : ∃ reason, a.payload run = .ok (.error reason) := by
    cases run with
    | finished output errors code =>
      rcases h with h | h | ⟨v, hread, hno⟩
      · exact h.elim
      · exact ⟨_, by rw [payload, h]⟩
      · refine ⟨"slither produced unexpected JSON", ?_⟩
        rw [payload, hread]
        cases v with
        | dict entries => exact absurd rfl (hno entries)
        | _ => rfl
    | raised kind text => exact (h.elim id id).elim
    | _ => exact ⟨_, rfl⟩
  obtain ⟨reason, hreason⟩ := hreason
  exact ⟨_, by rw [outcome, hreason]; rfl⟩

lemma not_prints_of_nothing (h : run.CouldNotRun ∨ run.PrintsNoObject) : ¬ run.Prints entries := by
  cases run with
  | finished output errors code =>
    intro (hread : Json.read output = .ok (.dict entries))
    rcases h with h | h | ⟨v, hv, hno⟩
    · exact h
    · rw [h] at hread
      cases hread
    · rw [hv] at hread
      exact hno entries (Except.ok.inj hread)
  | _ => exact id

/-- A run gives nothing to read, prints an object, or breaks the scan off. -/
lemma kinds (run : AnalyzerRun) : (run.CouldNotRun ∨ run.PrintsNoObject) ∨
    (∃ entries, run.Prints entries) ∨
    (∀ entries, ¬ run.Prints entries) ∧ ∃ failure, a.outcome run = .error failure := by
  cases run with
  | finished output errors code =>
    cases hread : Json.read output with
    | ok v =>
      by_cases hdict : ∃ entries, v = .dict entries
      · obtain ⟨entries, rfl⟩ := hdict
        exact .inr (.inl ⟨entries, hread⟩)
      · exact .inl (.inr (.inr ⟨v, hread, fun entries h => hdict ⟨entries, h⟩⟩))
    | error e =>
      cases e with
      | malformed => exact .inl (.inr (.inl hread))
      | tooLong digits =>
        refine .inr (.inr ⟨fun entries h => ?_, .longNumber digits, ?_⟩)
        · cases hread.symm.trans h
        · rw [outcome, payload, hread]
          rfl
  | raised kind text => exact .inr (.inr ⟨fun _ => id, .raised kind text, rfl⟩)
  | _ => exact .inl (.inl trivial)

/-- When a run printed an object, what is said of a run of any kind is said of the object. -/
lemma nothing_or_prints_iff (h : run.Prints entries) (P : List (Value × Value) → Prop) :
    (run.CouldNotRun ∨ run.PrintsNoObject ∨ ∃ others, run.Prints others ∧ P others) ↔
      P entries := by
  have hsomething : ¬ (run.CouldNotRun ∨ run.PrintsNoObject) := fun h' => not_prints_of_nothing h' h
  rw [← or_assoc, or_iff_right hsomething]
  constructor
  · rintro ⟨others, hothers, hP⟩
    rwa [AnalyzerRun.prints_unique h hothers] at hP
  · intro hP
    exact ⟨entries, h, hP⟩

/-- There is an outcome for a printed object that gives a reason of failure or has its shape. -/
lemma exists_outcome_iff (h : run.Prints entries) :
    (∃ o, a.outcome run = .ok o) ↔ SaysFailed entries ∧ HasReason entries ∨
      ¬ SaysFailed entries ∧ AnalyzerPayload.PayloadLike entries := by
  rw [← exists_failureReason_iff, ← AnalyzerPayload.exists_parse_iff]
  by_cases hfailed : SaysFailed entries
  · rw [outcome_of_saysFailed a h hfailed]
    cases failureReason entries <;> simp [hfailed, Except.map]
  · rw [outcome_of_results a h hfailed]
    cases AnalyzerPayload.parse entries <;> simp [hfailed]

/-- The outcome for a printed object has one warning when the object says that the analysis failed,
and none otherwise. -/
lemma warnings_of_prints (h : run.Prints entries) {o : AnalyzerOutcome}
    (ho : a.outcome run = .ok o) :
    SaysFailed entries ∧ o.findings = [] ∧ (∃ warning, o.warnings = [warning]) ∨
      ¬ SaysFailed entries ∧ o.warnings = [] := by
  by_cases hfailed : SaysFailed entries
  · rw [outcome_of_saysFailed a h hfailed] at ho
    cases hreason : failureReason entries with
    | error failure =>
      rw [hreason] at ho
      cases ho
    | ok reason =>
      rw [hreason] at ho
      obtain rfl := Except.ok.inj ho
      exact .inl ⟨hfailed, rfl, _, rfl⟩
  · rw [outcome_of_results a h hfailed] at ho
    cases hparse : AnalyzerPayload.parse entries with
    | error failure =>
      rw [hparse] at ho
      cases ho
    | ok findings =>
      rw [hparse] at ho
      obtain rfl := Except.ok.inj ho
      exact .inr ⟨hfailed, rfl⟩

end Kinds

/-- A failed analysis whose reason has no words. -/
def blankReason : AnalyzerRun :=
  .finished "\x7b\"success\": false, \"error\": \" \"\x7d" "" 0

end Analyzer

end LineAudit
