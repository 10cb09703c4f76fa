import LineAudit.Proofs.Config

/-!
The settings one by one.

A setting has three sources: what is given explicitly, a variable of the environment, and a default.
Main result: a setting that is given hides its variable altogether, and no setting depends on the
sources of another one.
-/

namespace LineAudit

/-- The settings of a run. -/
inductive Setting
  | rules
  | failOn
  | maxLines
  | timeout
  | workers
  deriving DecidableEq, Repr

namespace Setting

/-- The variable of a setting. -/
def variableName : Setting → String
  | rules => Config.rulesVariable
  | failOn => Config.failOnVariable
  | maxLines => Config.maxLinesVariable
  | timeout => Config.timeoutVariable
  | workers => Config.workersVariable

/-- What may be given explicitly for a setting. -/
def Given : Setting → Type
  | rules => Path
  | failOn => GivenValue
  | maxLines | workers => Int
  | timeout => Number

/-- What a setting is resolved to. -/
def Resolved : Setting → Type
  | rules => Option Path
  | failOn => Severity
  | maxLines => Option Int
  | timeout => Option Number
  | workers => Int

/-- What a setting is resolved to by its own sources. -/
def resolve : (s : Setting) → Option s.Given → Environment → Except ConfigProblem s.Resolved
  | rules, given?, env => .ok (Config.resolveRules given? env)
  | failOn, given?, env => Config.resolveFailOn given? env
  | maxLines, given?, env =>
    Config.resolveNumber Config.wholeNumber? given? Config.maxLinesVariable env
  | timeout, given?, env =>
    Config.resolveNumber Config.pointNumber? given? Config.timeoutVariable env
  | workers, given?, env =>
    (Config.resolveNumber Config.wholeNumber? given? Config.workersVariable env).map
      fun (workers? : Option Int) => workers?.getD 1

lemma variableName_injective : Function.Injective variableName := by
  intro s t h
  cases s <;> cases t <;> simp_all [variableName, Config.rulesVariable, Config.failOnVariable,
    Config.maxLinesVariable, Config.timeoutVariable, Config.workersVariable]

end Setting

/-- What is given explicitly for a setting. -/
def Explicit.for? (given : Explicit) : (s : Setting) → Option s.Given
  | .rules => given.rulesPath?
  | .failOn => given.failOn?
  | .maxLines => given.maxLines?
  | .timeout => given.timeout?
  | .workers => given.workers?

/-- One of the resolved settings. -/
def Config.field (c : Config) : (s : Setting) → s.Resolved
  | .rules => c.rulesPath?
  | .failOn => c.failOn
  | .maxLines => c.maxLines?
  | .timeout => c.timeout?
  | .workers => c.workers

/-! ### One setting -/

/-- A setting looks at its variable only, and only when nothing is given for it. -/
lemma Setting.resolve_congr {env env' : Environment} (s : Setting) {given? : Option s.Given}
    (h : given?.isSome ∨ env s.variableName = env' s.variableName) :
    s.resolve given? env = s.resolve given? env' := by
  cases s with
  | rules => exact congrArg Except.ok (Config.resolveRules_congr h)
  | failOn => exact Config.resolveFailOn_congr h
  | maxLines => exact Config.resolveNumber_congr h
  | timeout => exact Config.resolveNumber_congr h
  | workers => exact congrArg (Except.map _) (Config.resolveNumber_congr h)

/-! ### All settings -/

namespace Config

variable {given : Explicit} {env env' : Environment}

/-- Settings are what their own sources make of them, unless one of them is out of range. -/
lemma resolve_eq (given : Explicit) (env : Environment) :
    resolve given env = (do
      let rulesPath? ← Setting.rules.resolve (given.for? .rules) env
      let failOn ← Setting.failOn.resolve (given.for? .failOn) env
      let maxLines? ← Setting.maxLines.resolve (given.for? .maxLines) env
      let timeout? ← Setting.timeout.resolve (given.for? .timeout) env
      let workers ← Setting.workers.resolve (given.for? .workers) env
      checkRange ⟨rulesPath?, failOn, maxLines?, timeout?, workers⟩) := by
  have hworkers (x : Except ConfigProblem (Option Int)) (f : Int → Except ConfigProblem Config) :
      (x >>= fun workers? => f (workers?.getD 1)) =
        x.map (fun (workers? : Option Int) => workers?.getD 1) >>= f := by
    cases x <;> rfl
  exact bind_congr fun failOn => bind_congr fun maxLines? => bind_congr fun timeout? =>
    hworkers _ fun workers => checkRange ⟨_, failOn, maxLines?, timeout?, workers⟩

/-- Each of the resolved settings is what its own sources make of it. -/
lemma field_of_resolve {c : Config} (h : resolve given env = .ok c) (s : Setting) :
    s.resolve (given.for? s) env = .ok (c.field s) := by
  obtain ⟨hrules, hfail, hlines, htime, ⟨workers?, hworkers, hcount⟩, -⟩ := resolve_eq_ok_iff.mp h
  cases s with
  | rules => exact congrArg Except.ok hrules.symm
  | failOn => exact hfail
  | maxLines => exact hlines
  | timeout => exact htime
  | workers =>
    refine (congrArg (Except.map _) hworkers).trans ?_
    exact congrArg Except.ok hcount.symm

lemma resolve_congr (h : ∀ s : Setting,
    (given.for? s).isSome ∨ env s.variableName = env' s.variableName) :
    resolve given env = resolve given env' := by
  have hsame (s : Setting) := s.resolve_congr (h s)
  simp only [resolve_eq, hsame]

/-- Settings are refused for one of them or for being out of range. -/
lemma exists_of_resolve_error {p : ConfigProblem} (h : resolve given env = .error p) :
    (∃ s : Setting, s.resolve (given.for? s) env = .error p) ∨ ∃ c, checkRange c = .error p := by
  rw [resolve_eq, bind_eq_error_iff] at h
  rcases h with h | ⟨rulesPath?, -, h⟩
  · exact .inl ⟨.rules, h⟩
  rcases bind_eq_error_iff.mp h with h | ⟨failOn, -, h⟩
  · exact .inl ⟨.failOn, h⟩
  rcases bind_eq_error_iff.mp h with h | ⟨maxLines?, -, h⟩
  · exact .inl ⟨.maxLines, h⟩
  rcases bind_eq_error_iff.mp h with h | ⟨timeout?, -, h⟩
  · exact .inl ⟨.timeout, h⟩
  rcases bind_eq_error_iff.mp h with h | ⟨workers, -, h⟩
  · exact .inl ⟨.workers, h⟩
  · exact .inr ⟨_, h⟩

lemma resolveNumber_eq_notNumber {α : Type} {read? : String → Option α} {given? : Option α}
    {own name raw : String}
    (h : resolveNumber read? given? own env = .error (.notNumber name raw)) :
    own = name ∧ given? = none ∧ env name = some raw := by
  obtain ⟨hgiven, raw', hraw, hp⟩ := resolveNumber_eq_error h
  obtain ⟨rfl, rfl⟩ := ConfigProblem.notNumber.inj hp
  exact ⟨rfl, hgiven, hraw⟩

/-- Whoever is told of a variable that holds no number has given nothing for its setting. -/
lemma for?_of_notNumber {name raw : String} (h : resolve given env = .error (.notNumber name raw)) :
    ∃ s : Setting, s.variableName = name ∧ given.for? s = none ∧ env name = some raw := by
  rcases exists_of_resolve_error h with ⟨s, hs⟩ | ⟨c, hc⟩
  · cases s with
    | rules => cases hs
    | failOn =>
      obtain ⟨e, he⟩ := resolveFailOn_eq_error hs
      cases he
    | maxLines => exact ⟨.maxLines, resolveNumber_eq_notNumber hs⟩
    | timeout => exact ⟨.timeout, resolveNumber_eq_notNumber hs⟩
    | workers => exact ⟨.workers, resolveNumber_eq_notNumber (error_of_map_eq_error hs)⟩
  · rcases checkRange_eq_error hc with ⟨n, hn⟩ | ⟨x, hx⟩ | ⟨n, hn⟩
    · cases hn
    · cases hx
    · cases hn

/-- Environments that differ at most in variables whose settings are given. -/
def SameBesides (given : Explicit) (env env' : Environment) : Prop :=
  ∀ name, env name ≠ env' name → ∃ s : Setting, s.variableName = name ∧ (given.for? s).isSome

/-- The environment that holds some variables. -/
def environmentOf (held : List (String × String)) : Environment := fun name => held.lookup name

/-- An environment in which the workers are no number. -/
def manyWorkers : Environment :=
  environmentOf [(workersVariable, "many"), (maxLinesVariable, " 5_000")]

/-- The same environment without workers. -/
def anyWorkers : Environment := environmentOf [(maxLinesVariable, " 5_000")]

/-- Two workers, and nothing else given. -/
def twoWorkers : Explicit := ⟨none, none, none, none, some 2⟩

/-- A threshold, and nothing else given. -/
def lowThreshold : Explicit := ⟨none, some ⟨.str "Low ", nofun⟩, none, none, none⟩

end Config

end LineAudit
