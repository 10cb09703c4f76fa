import LineAudit.Config
import LineAudit.Proofs.Outcome

/-!
When settings can be resolved, and to which values; what a setting takes from the environment.
-/

namespace LineAudit.Config

/-- The numbers among the settings are in range. -/
structure InRange (c : Config) : Prop where
  maxLines : ∀ n, c.maxLines? = some n → 0 ≤ n
  timeout : ∀ x, c.timeout? = some x → x.isAtMostZero = false
  workers : 1 ≤ c.workers

lemma checkRange_eq_ok_iff {c c' : Config} : checkRange c = .ok c' ↔ c.InRange ∧ c = c' := by
  unfold checkRange
  constructor
  · intro h
    split at h
    next => simp at h
    next => simp at h
    next hlines htime =>
      split at h
      next => simp at h
      next hworkers =>
        refine ⟨⟨fun n hn => ?_, fun x hx => ?_, by omega⟩, Except.ok.inj h⟩
        · simpa [hn] using hlines
        · simpa [hx] using htime
  · rintro ⟨hrange, rfl⟩
    have hlines : c.maxLines?.filter (· < 0) = none := by
      simpa [Option.filter_eq_none_iff] using hrange.maxLines
    have htime : c.timeout?.filter Number.isAtMostZero = none := by
      simpa [Option.filter_eq_none_iff] using hrange.timeout
    have hworkers : ¬ c.workers < 1 := Int.not_lt.mpr hrange.workers
    rw [hlines, htime]
    simp [hworkers]

/-- Settings are resolved when each of them is and all are in range. -/
lemma resolve_eq_ok_iff {given : Explicit} {env : Environment} {c : Config} :
    resolve given env = .ok c ↔
      c.rulesPath? = resolveRules given.rulesPath? env ∧
      resolveFailOn given.failOn? env = .ok c.failOn ∧
      resolveNumber wholeNumber? given.maxLines? maxLinesVariable env = .ok c.maxLines? ∧
      resolveNumber pointNumber? given.timeout? timeoutVariable env = .ok c.timeout? ∧
      (∃ workers?, resolveNumber wholeNumber? given.workers? workersVariable env = .ok workers? ∧
        c.workers = workers?.getD 1) ∧ c.InRange := by
  simp only [resolve, bind_eq_ok_iff, checkRange_eq_ok_iff]
  constructor
  · rintro ⟨failOn, hfail, maxLines?, hlines, timeout?, htime, workers?, hworkers, hrange, rfl⟩
    exact ⟨rfl, hfail, hlines, htime, ⟨workers?, hworkers, rfl⟩, hrange⟩
  · rintro ⟨hrules, hfail, hlines, htime, ⟨workers?, hworkers, hcount⟩, hrange⟩
    refine ⟨c.failOn, hfail, c.maxLines?, hlines, c.timeout?, htime, workers?, hworkers, ?_⟩
    rw [← hrules, ← hcount]
    exact ⟨hrange, rfl⟩

/-! ### What can be wrong -/

section Problems

variable {env : Environment} {p : ConfigProblem}

lemma checkRange_eq_error {c : Config} (h : checkRange c = .error p) :
    (∃ n, p = .maxLines n) ∨ (∃ x, p = .timeout x) ∨ ∃ n, p = .workers n := by
  unfold checkRange at h
  split at h
  next => exact .inl ⟨_, (Except.error.inj h).symm⟩
  next => exact .inr (.inl ⟨_, (Except.error.inj h).symm⟩)
  next =>
    split at h
    next => exact .inr (.inr ⟨c.workers, (Except.error.inj h).symm⟩)
    next => cases h

lemma resolveFailOn_eq_error {given? : Option GivenValue}
    (h : resolveFailOn given? env = .error p) :
    ∃ e, p = .failOn e := by
  unfold resolveFailOn at h
  split at h
  next => cases h
  next =>
    split at h
    next => cases h
    next =>
      split at h
      next => cases h
      next e _ => exact ⟨e, (Except.error.inj h).symm⟩

/-- A number is wrong only when it is read from its variable, and then this is what is told. -/
lemma resolveNumber_eq_error {α : Type} {read? : String → Option α} {given? : Option α}
    {name : String} (h : resolveNumber read? given? name env = .error p) :
    given? = none ∧ ∃ raw, env name = some raw ∧ p = .notNumber name raw := by
  cases given? with
  | some n => cases h
  | none =>
    unfold resolveNumber variableNumber at h
    dsimp only at h
    split at h
    next => cases h
    next raw hraw =>
      split at h
      next => cases h
      next =>
        split at h
        next => cases h
        next => exact ⟨rfl, raw, hraw, (Except.error.inj h).symm⟩

end Problems

/-! ### Settings that are given, and variables -/

section Variables

variable {env env' : Environment} {name : String}

lemma resolveRules_congr {given? : Option Path}
    (h : given?.isSome ∨ env rulesVariable = env' rulesVariable) :
    resolveRules given? env = resolveRules given? env' := by
  cases given? with
  | some path => rfl
  | none => rw [resolveRules, resolveRules, h.resolve_left (by simp)]

lemma resolveFailOn_congr {given? : Option GivenValue}
    (h : given?.isSome ∨ env failOnVariable = env' failOnVariable) :
    resolveFailOn given? env = resolveFailOn given? env' := by
  cases given? with
  | some v => rfl
  | none => rw [resolveFailOn, resolveFailOn, h.resolve_left (by simp)]

lemma resolveNumber_congr {α : Type} {read? : String → Option α} {given? : Option α}
    (h : given?.isSome ∨ env name = env' name) :
    resolveNumber read? given? name env = resolveNumber read? given? name env' := by
  cases given? with
  | some n => rfl
  | none => simp only [resolveNumber, variableNumber, h.resolve_left (by simp)]

end Variables

end LineAudit.Config
