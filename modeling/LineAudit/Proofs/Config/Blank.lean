import LineAudit.Proofs.Config.Range
import LineAudit.Proofs.Text.Blank

/-!
Blank variables.

A variable that is empty or holds white space alone counts as missing for the settings that are
numbers. The other two look for emptiness only. Main result: the settings stay the same without
their blank variables, unless the threshold is read from white space, which is refused, or the path
of the rules is.
-/

namespace LineAudit

def Setting.all : List Setting := [rules, failOn, maxLines, timeout, workers]

lemma Setting.mem_all (s : Setting) : s ∈ all := by
  cases s <;> decide

/-- The environment without the variables of settings that are blank. -/
def Environment.withoutBlanks (env : Environment) : Environment := fun name =>
  if name ∈ Setting.all.map Setting.variableName then
    (env name).filter fun raw => !Text.isAllBlank raw
  else env name

namespace Config

/-- White space, and some of it, stands in the variable of a setting for which nothing is given. -/
structure TakesBlank (given : Explicit) (env : Environment) (s : Setting) (raw : String) :
    Prop where
  notGiven : given.for? s = none
  held : env s.variableName = some raw
  nonempty : raw ≠ ""
  blank : Text.isAllBlank raw = true

variable {given : Explicit} {env env' : Environment} {raw : String} {s : Setting}

/-! ### One setting -/

lemma withoutBlanks_variable (env : Environment) (s : Setting) :
    env.withoutBlanks s.variableName =
      (env s.variableName).filter fun raw => !Text.isAllBlank raw :=
  if_pos (List.mem_map_of_mem s.mem_all)

lemma TakesBlank.withoutBlanks_eq_none (h : TakesBlank given env s raw) :
    env.withoutBlanks s.variableName = none := by
  simp [withoutBlanks_variable, h.held, Option.filter, h.blank]

lemma resolveNumber_withoutBlanks {α : Type} (read? : String → Option α) (given? : Option α)
    (env : Environment) (s : Setting) :
    resolveNumber read? given? s.variableName env.withoutBlanks =
      resolveNumber read? given? s.variableName env := by
  cases given? with
  | some n => rfl
  | none =>
    unfold resolveNumber variableNumber
    rw [withoutBlanks_variable env s]
    cases env s.variableName with
    | none => rfl
    | some raw => cases hblank : Text.isAllBlank raw <;> simp [Option.filter, hblank]

/-- Without white space in its variable, a setting is given, or keeps its variable, or loses an
empty one. -/
lemma withoutBlanks_cases (h : ∀ raw, ¬ TakesBlank given env s raw) :
    ((given.for? s).isSome ∨ env.withoutBlanks s.variableName = env s.variableName) ∨
      env.withoutBlanks s.variableName = none ∧ env s.variableName = some "" := by
  rw [withoutBlanks_variable env s]
  cases hgiven : given.for? s with
  | some g => exact .inl (.inl rfl)
  | none =>
    cases hheld : env s.variableName with
    | none => exact .inl (.inr rfl)
    | some raw =>
      cases hblank : Text.isAllBlank raw with
      | false => exact .inl (.inr (by simp [Option.filter, hblank]))
      | true =>
        have hempty : raw = "" := by
          by_contra hne
          exact h raw ⟨hgiven, hheld, hne, hblank⟩
        exact .inr ⟨by simp [Option.filter, hblank], by rw [hempty]⟩

/-- An empty variable names no rules and no threshold. -/
lemma resolve_of_empty (hs : s = .rules ∨ s = .failOn) (hnone : env' s.variableName = none)
    (hempty : env s.variableName = some "") (given? : Option s.Given) :
    s.resolve given? env' = s.resolve given? env := by
  cases given? with
  | some g => exact s.resolve_congr (.inl rfl)
  | none =>
    rcases hs with rfl | rfl
    · change env' rulesVariable = none at hnone
      change env rulesVariable = some "" at hempty
      simp only [Setting.resolve, resolveRules, hnone, hempty]
      rfl
    · change env' failOnVariable = none at hnone
      change env failOnVariable = some "" at hempty
      simp only [Setting.resolve, resolveFailOn, hnone, hempty]
      rfl

/-- Only the path of the rules and the threshold are read from white space. -/
lemma resolve_setting_withoutBlanks (h : s = .rules ∨ s = .failOn → ∀ raw,
    ¬ TakesBlank given env s raw) :
    s.resolve (given.for? s) env.withoutBlanks = s.resolve (given.for? s) env := by
  have htext (hs : s = .rules ∨ s = .failOn) :
      s.resolve (given.for? s) env.withoutBlanks = s.resolve (given.for? s) env := by
    rcases withoutBlanks_cases (h hs) with hsame | ⟨hnone, hempty⟩
    · exact s.resolve_congr hsame
    · exact resolve_of_empty hs hnone hempty _
  cases s with
  | rules => exact htext (.inl rfl)
  | failOn => exact htext (.inr rfl)
  | maxLines => exact resolveNumber_withoutBlanks _ _ env .maxLines
  | timeout => exact resolveNumber_withoutBlanks _ _ env .timeout
  | workers => exact congrArg (Except.map _) (resolveNumber_withoutBlanks _ _ env .workers)

/-- A path of white space is a path. -/
lemma TakesBlank.resolveRules_eq (h : TakesBlank given env .rules raw) :
    resolveRules given.rulesPath? env.withoutBlanks = none ∧
      resolveRules given.rulesPath? env = some (Path.ofText raw) := by
  have hgiven : given.rulesPath? = none := h.notGiven
  have hheld : env rulesVariable = some raw := h.held
  have hnone : env.withoutBlanks rulesVariable = none := h.withoutBlanks_eq_none
  rw [hgiven, resolveRules, resolveRules, hnone, hheld]
  exact ⟨rfl, by simp [Option.filter, h.nonempty]⟩

/-- A threshold of white space is no severity. -/
lemma TakesBlank.resolveFailOn_eq (h : TakesBlank given env .failOn raw) :
    resolveFailOn given.failOn? env.withoutBlanks = .ok .high ∧
      resolveFailOn given.failOn? env = .error (.failOn (.unknown raw)) := by
  have hgiven : given.failOn? = none := h.notGiven
  have hheld : env failOnVariable = some raw := h.held
  have hnone : env.withoutBlanks failOnVariable = none := h.withoutBlanks_eq_none
  have hempty : Text.strip raw = "" := by rw [← String.isEmpty_iff, Text.strip_isEmpty, h.blank]
  have hparse : Severity.parse raw = .error (.unknown raw) := by
    rw [Severity.parse, hempty]
    rfl
  rw [hgiven, resolveFailOn, resolveFailOn, hnone, hheld]
  exact ⟨rfl, by simp [Value.isTrue, h.nonempty, Severity.ofValue, hparse]⟩

/-! ### All settings -/

lemma checkRange_rules (c : Config) (path? : Option Path) :
    checkRange { c with rulesPath? := path? } =
      (checkRange c).map fun c => { c with rulesPath? := path? } := by
  unfold checkRange
  dsimp only
  split
  · rfl
  · rfl
  · split <;> rfl

/-- The path of the rules has no part in what is made of the other settings. -/
lemma resolve_eq_map (h : ∀ s ≠ Setting.rules,
    s.resolve (given.for? s) env' = s.resolve (given.for? s) env) :
    resolve given env' = (resolve given env).map fun c =>
      { c with rulesPath? := resolveRules given.rulesPath? env' } := by
  rw [resolve_eq given env', resolve_eq given env, h .failOn (by decide), h .maxLines (by decide),
    h .timeout (by decide), h .workers (by decide)]
  cases Setting.failOn.resolve (given.for? .failOn) env with
  | error p => rfl
  | ok failOn =>
    cases Setting.maxLines.resolve (given.for? .maxLines) env with
    | error p => rfl
    | ok maxLines? =>
      cases Setting.timeout.resolve (given.for? .timeout) env with
      | error p => rfl
      | ok timeout? =>
        cases Setting.workers.resolve (given.for? .workers) env with
        | error p => rfl
        | ok workers => exact checkRange_rules ⟨_, failOn, maxLines?, timeout?, workers⟩ _

/-- A threshold of white space is refused before anything else is. -/
lemma TakesBlank.resolve_eq (h : TakesBlank given env .failOn raw) :
    resolve given env = .error (.failOn (.unknown raw)) := by
  rw [resolve, h.resolveFailOn_eq.2]
  rfl

lemma resolve_withoutBlanks_eq (h : ∀ raw, ¬ TakesBlank given env .failOn raw) :
    resolve given env.withoutBlanks = (resolve given env).map fun c =>
      { c with rulesPath? := resolveRules given.rulesPath? env.withoutBlanks } := by
  refine resolve_eq_map fun s hs => resolve_setting_withoutBlanks ?_
  rintro (rfl | rfl)
  · exact absurd rfl hs
  · exact h

lemma resolveNumber_ne_failOn {α : Type} (read? : String → Option α) (given? : Option α)
    (name : String) (env : Environment) (e : SeverityError) :
    resolveNumber read? given? name env ≠ .error (.failOn e) := by
  intro h
  obtain ⟨-, raw, -, hp⟩ := resolveNumber_eq_error h
  cases hp

/-- A threshold is refused for what is read as the threshold. -/
lemma resolve_ne_failOn {severity : Severity}
    (h : resolveFailOn given.failOn? env = .ok severity) (e : SeverityError) :
    resolve given env ≠ .error (.failOn e) := by
  intro herror
  rcases exists_of_resolve_error herror with ⟨s, hs⟩ | ⟨c, hc⟩
  · cases s with
    | rules => cases hs
    | failOn => cases h.symm.trans hs
    | maxLines => exact resolveNumber_ne_failOn _ _ _ _ e hs
    | timeout => exact resolveNumber_ne_failOn _ _ _ _ e hs
    | workers => exact resolveNumber_ne_failOn _ _ _ _ e (error_of_map_eq_error hs)
  · rcases checkRange_eq_error hc with ⟨n, hn⟩ | ⟨x, hx⟩ | ⟨n, hn⟩
    · cases hn
    · cases hx
    · cases hn

lemma not_takesBlank_failOn {c : Config} (h : resolve given env = .ok c) (raw : String) :
    ¬ TakesBlank given env .failOn raw :=
  fun hblank => by cases h.symm.trans hblank.resolve_eq

/-- A path of white space is the one thing in a configuration that its variable accounts for. -/
lemma TakesBlank.rulesPath_eq {c : Config} (hblank : TakesBlank given env .rules raw)
    (h : resolve given env = .ok c) : c.rulesPath? = some (Path.ofText raw) ∧
      resolve given env.withoutBlanks = .ok { c with rulesPath? := none } := by
  obtain ⟨hnone, hsome⟩ := hblank.resolveRules_eq
  refine ⟨(resolve_eq_ok_iff.mp h).1.trans hsome, ?_⟩
  rw [resolve_withoutBlanks_eq (not_takesBlank_failOn h), h, hnone]
  rfl

/-- **Settings stay the same without their blank variables, unless white space is read as a
threshold or as the path of the rules.** As a threshold it is refused. As a path it is taken, which
shows if nothing else is wrong. -/
theorem resolve_withoutBlanks (given : Explicit) (env : Environment) :
    (resolve given env.withoutBlanks = resolve given env ↔
      (∀ raw, ¬ TakesBlank given env .failOn raw) ∧
      ((∃ raw, TakesBlank given env .rules raw) → ∃ p, resolve given env = .error p)) ∧
    (∀ raw, TakesBlank given env .failOn raw →
      resolve given env = .error (.failOn (.unknown raw))) ∧
    ∀ raw c, TakesBlank given env .rules raw → resolve given env = .ok c →
      c.rulesPath? = some (Path.ofText raw) ∧
      resolve given env.withoutBlanks = .ok { c with rulesPath? := none } := by
  refine ⟨⟨fun hsame => ⟨fun raw hblank => ?_, ?_⟩, ?_⟩,
    fun raw hblank => hblank.resolve_eq, fun raw c hblank h => hblank.rulesPath_eq h⟩
  · exact resolve_ne_failOn hblank.resolveFailOn_eq.1 _ (hsame.trans hblank.resolve_eq)
  · rintro ⟨raw, hblank⟩
    cases h : resolve given env with
    | error p => exact ⟨p, rfl⟩
    | ok c =>
      -- the path is there with the variable and gone without it
      obtain ⟨hsome, hwithout⟩ := hblank.rulesPath_eq h
      have hc := congrArg Config.rulesPath? (Except.ok.inj (hwithout.symm.trans (hsame.trans h)))
      cases hc.trans hsome
  · rintro ⟨hfail, hrules⟩
    rw [resolve_withoutBlanks_eq hfail]
    cases h : resolve given env with
    | error p => rfl
    | ok c =>
      have hkept : ∀ raw, ¬ TakesBlank given env .rules raw := fun raw hblank => by
        obtain ⟨p, hp⟩ := hrules ⟨raw, hblank⟩
        cases h.symm.trans hp
      have hpath : resolveRules given.rulesPath? env.withoutBlanks = c.rulesPath? := by
        rw [(resolve_eq_ok_iff.mp h).1]
        exact Except.ok.inj (resolve_setting_withoutBlanks (s := .rules) fun _ => hkept)
      rw [hpath]
      rfl

/-- An environment whose variables are all blank, those that hold a text by being empty. -/
def blankVariables : Environment :=
  environmentOf [(rulesVariable, ""), (failOnVariable, ""), (maxLinesVariable, "  "),
    (timeoutVariable, "\t"), (workersVariable, "\u3000\n")]

/-- An environment with a path of white space. -/
def blankPath : Environment := environmentOf [(rulesVariable, " "), (workersVariable, "2")]

/-- An environment with a threshold of white space. -/
def blankThreshold : Environment := environmentOf [(failOnVariable, " ")]

theorem resolve_withoutBlanks_blankVariables :
    resolve nothingGiven blankVariables.withoutBlanks = resolve nothingGiven blankVariables ∧
    (TakesBlank nothingGiven blankThreshold .failOn " " ∧
      resolve nothingGiven blankThreshold = .error (.failOn (.unknown " "))) ∧
    ∃ c, TakesBlank nothingGiven blankPath .rules " " ∧ resolve nothingGiven blankPath = .ok c ∧
      c.rulesPath? = some (Path.ofText " ") ∧
      resolve nothingGiven blankPath.withoutBlanks = .ok { c with rulesPath? := none } := by
  have hempty (s : Setting) (hs : blankVariables s.variableName = some "") (raw : String) :
      ¬ TakesBlank nothingGiven blankVariables s raw := fun h =>
    h.nonempty (Option.some.inj (h.held.symm.trans hs))
  have hthreshold : TakesBlank nothingGiven blankThreshold .failOn " " :=
    ⟨rfl, rfl, by decide, by decide⟩
  have hpath : TakesBlank nothingGiven blankPath .rules " " := ⟨rfl, rfl, by decide, by decide⟩
  have hok : resolve nothingGiven blankPath =
      .ok ⟨some (Path.ofText " "), .high, none, none, 2⟩ := rfl
  refine ⟨(resolve_withoutBlanks _ _).1.mpr ⟨hempty .failOn rfl, ?_⟩,
    ⟨hthreshold, (resolve_withoutBlanks _ _).2.1 _ hthreshold⟩, _, hpath, hok,
    (resolve_withoutBlanks _ _).2.2 _ _ hpath hok⟩
  rintro ⟨raw, hraw⟩
  exact absurd hraw (hempty .rules rfl raw)

/-- A threshold of white space is refused, while without it the settings are resolved. -/
theorem not_withoutBlanks_blankThreshold :
    resolve nothingGiven blankThreshold.withoutBlanks ≠ resolve nothingGiven blankThreshold := by
  have hwithout : resolve nothingGiven blankThreshold.withoutBlanks =
      .ok ⟨none, .high, none, none, 1⟩ := rfl
  have herror : resolve nothingGiven blankThreshold = .error (.failOn (.unknown " ")) := rfl
  rw [hwithout, herror]
  exact nofun

end Config

end LineAudit
