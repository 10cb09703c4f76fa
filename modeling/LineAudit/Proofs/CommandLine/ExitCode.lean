import LineAudit.CommandLine.Run
import LineAudit.Proofs.Config
import LineAudit.Proofs.Scan.Abort
import LineAudit.Proofs.Severity

/-!
The exit code of a run.

Each stage either ends a run with one or hands it on, and only the last stage asks for severities.
Main result: a run that ends with a code ends with zero exactly when every stage before the last one
succeeds and no finding of a rule is as grave as the threshold. What shows the results, the analyzer
and the number of workers have no part in this.
-/

namespace LineAudit.CommandLine

namespace Transcript

@[simp] lemma ending_logging (records : List Log.Record) (t : Transcript) :
    (t.logging records).ending = t.ending := rfl

@[simp] lemma ending_running (commands : List (List String)) (t : Transcript) :
    (t.running commands).ending = t.ending := rfl

@[simp] lemma ending_showing (output errors : List String) (t : Transcript) :
    (t.showing output errors).ending = t.ending := rfl

@[simp] lemma ending_idle (tree : FileTree) (code : ℕ) : (idle tree code).ending = .ok code := rfl

@[simp] lemma ending_refused (tree : FileTree) (message : String) :
    (refused tree message).ending = .ok 1 := rfl

@[simp] lemma ending_broken (tree : FileTree) (f : RunFailure) :
    (broken tree f).ending = .error f := rfl

/-- A run that ends with a code ends with zero when something holds, and else with one. -/
def Tells (t : Transcript) (p : Prop) : Prop :=
  ∀ code, t.ending = .ok code → (code = 0 ↔ p) ∧ (code = 0 ∨ code = 1)

lemma Tells.congr {t : Transcript} {p q : Prop} (h : t.Tells p) (hpq : p ↔ q) : t.Tells q :=
  fun code hcode => ⟨(h code hcode).1.trans hpq, (h code hcode).2⟩

lemma tells_of_ending_eq {t t' : Transcript} {p : Prop} (h : t'.ending = t.ending)
    (ht : t.Tells p) :
    t'.Tells p :=
  fun code hcode => ht code (h.symm.trans hcode)

lemma tells_broken {tree : FileTree} {f : RunFailure} {p : Prop} : (broken tree f).Tells p := by
  intro code hcode
  simp at hcode

/-- A run that ends with one tells of something that does not hold. -/
lemma tells_of_ending_one {t : Transcript} {p : Prop} (h : t.ending = .ok 1) (hp : ¬ p) :
    t.Tells p := by
  intro code hcode
  obtain rfl := Except.ok.inj (h.symm.trans hcode)
  simp [hp]

end Transcript

open Transcript

/-! ### The last stages -/

/-- No finding is as grave as a threshold. -/
def AllBelow (threshold : Severity) (result : ScanResult Severity) : Prop :=
  ∀ x ∈ result.findings, x.severity.rank < threshold.rank

lemma exitCode_eq_zero_iff (config : Config) (result : ScanResult Severity) :
    exitCode config result = 0 ↔ AllBelow config.failOn result := by
  rw [exitCode, ScanResult.worst?]
  cases h : Severity.meets (Severity.worst? result.severities) config.failOn with
  | true =>
    obtain ⟨s, hs, hrank⟩ := Severity.meets_worst?_iff.mp h
    obtain ⟨x, hx, rfl⟩ := List.mem_map.mp hs
    refine iff_of_false (by simp) fun hall => ?_
    exact absurd (hall x hx) (Nat.not_lt.mpr hrank)
  | false =>
    refine iff_of_true rfl fun x hx => Nat.lt_of_not_le fun hrank => ?_
    have hmem : x.severity ∈ result.severities := List.mem_map_of_mem hx
    have hmeets := Severity.meets_worst?_iff.mpr ⟨x.severity, hmem, hrank⟩
    exact Bool.false_ne_true (h.symm.trans hmeets)

variable (a : Arguments) (s : Surroundings) (config : Config) (registry : Registry Severity)

lemma tells_exitCode (tree : FileTree) (result : ScanResult Severity) :
    (idle tree (exitCode config result)).Tells (AllBelow config.failOn result) := by
  intro code hcode
  obtain rfl := Except.ok.inj hcode
  refine ⟨exitCode_eq_zero_iff config result, ?_⟩
  unfold exitCode
  split
  · exact .inr rfl
  · exact .inl rfl

lemma tells_writeReport (r : Report) (folder : Path) :
    (writeReport s config r folder).Tells (AllBelow config.failOn r.result) := by
  unfold writeReport
  split
  next => exact tells_broken
  next =>
    dsimp only
    split
    next => exact tells_broken
    next tree _ => exact tells_of_ending_eq rfl (tells_exitCode config tree r.result)

lemma tells_finish (r : Report) :
    (finish a s config r).Tells (AllBelow config.failOn r.result) := by
  unfold finish
  split
  next folder _ => exact tells_writeReport s config r folder
  next => exact tells_exitCode config s.tree r.result

/-- Files do not have more lines than the settings allow. -/
def WithinCap (config : Config) (files : List SourceFile) : Prop :=
  ∀ cap, config.maxLines? = some cap →
    (((files.map fun f => f.lines.length).sum : ℕ) : Int) ≤ cap

/-- An engine made by settings in range has their cap, and a deadline that has not passed. -/
lemma limits_of_make {config : Config} {engine : Engine} (hrange : config.InRange)
    (hengine : Engine.make? config.maxLines? config.timeout? config.workers = some engine) :
    engine.maxLines? = config.maxLines? ∧ engine.passed? = none := by
  unfold Engine.make? at hengine
  rw [dif_pos hrange.workers] at hengine
  obtain rfl := Option.some.inj hengine
  refine ⟨rfl, ?_⟩
  simpa [Engine.passed?, Option.filter_eq_none_iff] using hrange.timeout

/-- A scan is given up in words for the cap alone. -/
lemma not_withinCap_of_aborts {config : Config} {engine : Engine} {files : List SourceFile}
    {abort : ScanAbort} {message : String} (hcap : engine.maxLines? = config.maxLines?)
    (htime : engine.passed? = none) (h : engine.Aborts files abort)
    (htold : abort.message? = some message) : ¬ WithinCap config files := by
  rw [WithinCap, ← SourceFile.totalLines_eq_sum, ← hcap]
  intro hwithin
  cases h with
  | tooLong hc hlong => exact absurd (hwithin _ hc) (Int.not_le.mpr hlong)
  | late before after _ _ hp => cases hp.symm.trans htime
  | longCap => cases htold
  | largeDeadline => cases htold

lemma tells_scanFiles (hrange : config.InRange) (files : List SourceFile) (facts : List Fact)
    (outcome : AnalyzerOutcome) (warnings : List String) :
    (scanFiles a s config registry files facts outcome warnings).Tells
      (WithinCap config files ∧ AllBelow config.failOn (Engine.found registry.rules files)) := by
  unfold scanFiles
  split
  next => exact tells_broken
  next engine hengine =>
    obtain ⟨hcap, htime⟩ := limits_of_make hrange hengine
    have horder : (List.range files.length).Perm (List.range files.length) := .refl _
    split
    next abort hno =>
      have haborts := (Engine.scanIn_eq_error_iff engine registry.rules horder).mp hno
      refine tells_of_ending_eq (ending_logging _ _) ?_
      split
      next message htold =>
        refine tells_of_ending_one rfl fun hclean => ?_
        exact not_withinCap_of_aborts hcap htime haborts htold hclean.1
      next => exact tells_broken
    next result hok =>
      obtain ⟨hlimits, rfl⟩ := (engine.scanIn_eq_ok_iff registry.rules horder result).mp hok
      have hwithin : WithinCap config files := by
        rw [WithinCap, ← SourceFile.totalLines_eq_sum, ← hcap]
        exact hlimits.cap
      refine (tells_of_ending_eq rfl (tells_finish a s config _)).congr ?_
      simp [hwithin]

lemma tells_audit (hrange : config.InRange) (files : List SourceFile) (warnings : List String) :
    (audit a s config registry files warnings).Tells
      (WithinCap config files ∧ AllBelow config.failOn (Engine.found registry.rules files)) := by
  unfold audit
  split
  next => exact tells_broken
  next =>
    refine tells_of_ending_eq (ending_running _ _) ?_
    split
    next => exact tells_broken
    next => exact tells_of_ending_eq rfl (tells_scanFiles a s config registry hrange _ _ _ _)

/-! ### Runs -/

/-- The sources of a run. -/
def sources (a : Arguments) (s : Surroundings) : List SourceFile :=
  (Corpus.load s.tree .solidity (Path.ofText a.target)).1

/-- Everything that a run needs to end with zero. -/
structure Clean (a : Arguments) (s : Surroundings) (config : Config)
    (registry : Registry Severity) : Prop where
  resolves : Config.resolve a.explicit s.environment = .ok config
  loads : loadRules s.tree config.rulesPath? = .ok registry
  nonempty : sources a s ≠ []
  cap : WithinCap config (sources a s)
  below : AllBelow config.failOn (Engine.found registry.rules (sources a s))

lemma tells_auditTarget (hrange : config.InRange) :
    (auditTarget a s config registry).Tells (sources a s ≠ [] ∧ WithinCap config (sources a s) ∧
      AllBelow config.failOn (Engine.found registry.rules (sources a s))) := by
  unfold auditTarget sources
  dsimp only
  split
  next hempty =>
    exact tells_of_ending_one rfl fun hclean => hclean.1 (List.isEmpty_iff.mp hempty)
  next hsome =>
    refine (tells_audit a s config registry hrange _ _).congr ?_
    rw [List.isEmpty_iff] at hsome
    simp [hsome]

/-- Arguments and surroundings fix the settings and the rules of a clean run. -/
lemma Clean.unique {config config' : Config} {registry registry' : Registry Severity}
    (hresolves : Config.resolve a.explicit s.environment = .ok config)
    (hloads : loadRules s.tree config.rulesPath? = .ok registry)
    (hclean : Clean a s config' registry') : config' = config ∧ registry' = registry := by
  obtain rfl := Except.ok.inj (hclean.resolves.symm.trans hresolves)
  exact ⟨rfl, Except.ok.inj (hclean.loads.symm.trans hloads)⟩

lemma tells_perform : (perform a s).Tells (∃ config registry, Clean a s config registry) := by
  unfold perform
  split
  next problem hconfig =>
    refine tells_of_ending_one rfl ?_
    rintro ⟨config, registry, hclean⟩
    exact nomatch hconfig.symm.trans hclean.resolves
  next config hconfig =>
    have hrange := (Config.resolve_eq_ok_iff.mp hconfig).2.2.2.2.2
    split
    next registry hrules =>
      refine (tells_auditTarget a s config registry hrange).congr ⟨?_, ?_⟩
      · rintro ⟨hsources, hcap, hfindings⟩
        exact ⟨config, registry, hconfig, hrules, hsources, hcap, hfindings⟩
      · rintro ⟨config', registry', hclean⟩
        obtain ⟨rfl, rfl⟩ := Clean.unique a s hconfig hrules hclean
        exact ⟨hclean.nonempty, hclean.cap, hclean.below⟩
    next f hrules =>
      split
      next =>
        refine tells_of_ending_one rfl ?_
        rintro ⟨config', registry', hclean⟩
        obtain rfl := Except.ok.inj (hconfig.symm.trans hclean.resolves)
        exact nomatch hrules.symm.trans hclean.loads
      next => exact tells_broken

/-! ### Two runs -/

/-- The number of workers can be resolved, and is one that there can be. -/
def WorkersValid (a : Arguments) (s : Surroundings) : Prop :=
  ∃ workers?, Config.resolveNumber Config.wholeNumber? a.workers? Config.workersVariable
    s.environment = .ok workers? ∧ 1 ≤ workers?.getD 1

/-- The threshold of a run, as it is asked for. -/
def thresholdOf (a : Arguments) (s : Surroundings) : Except ConfigProblem Severity :=
  Config.resolveFailOn a.explicit.failOn? s.environment

/-- Two runs look at the same sources with the same rules and limits. They may differ in what shows
the results, in the analyzer, in the threshold, and in the number of workers as long as it is
valid. -/
structure SameTask (a : Arguments) (s : Surroundings) (a' : Arguments) (s' : Surroundings) :
    Prop where
  tree : s'.tree = s.tree
  target : a'.target = a.target
  rules : a'.rules? = a.rules?
  maxLines : a'.maxLines? = a.maxLines?
  timeout : a'.timeout? = a.timeout?
  environment : ∀ name ∈ [Config.rulesVariable, Config.maxLinesVariable, Config.timeoutVariable],
    s'.environment name = s.environment name
  workers : WorkersValid a' s' ↔ WorkersValid a s

namespace SameTask

variable {a a' : Arguments} {s s' : Surroundings}

lemma symm (h : SameTask a s a' s') : SameTask a' s' a s :=
  ⟨h.tree.symm, h.target.symm, h.rules.symm, h.maxLines.symm, h.timeout.symm,
    fun name hname => (h.environment name hname).symm, h.workers.symm⟩

lemma sources_eq (h : SameTask a s a' s') : sources a' s' = sources a s := by
  rw [sources, sources, h.tree, h.target]

lemma resolveRules_eq (h : SameTask a s a' s') :
    Config.resolveRules a'.rules? s'.environment = Config.resolveRules a.rules? s.environment := by
  rw [h.rules]
  exact Config.resolveRules_congr (.inr (h.environment _ (by simp)))

lemma resolveNumber_eq (h : SameTask a s a' s') {α : Type} (read? : String → Option α)
    (given? : Option α) {name : String}
    (hname : name ∈ [Config.rulesVariable, Config.maxLinesVariable, Config.timeoutVariable]) :
    Config.resolveNumber read? given? name s'.environment =
      Config.resolveNumber read? given? name s.environment :=
  Config.resolveNumber_congr (.inr (h.environment name hname))

/-- A clean run stays clean when the threshold rises. -/
lemma clean (h : SameTask a s a' s') {config' : Config} {registry : Registry Severity}
    (hclean : Clean a' s' config' registry) {threshold : Severity}
    (hthreshold : thresholdOf a s = .ok threshold)
    (hrank : config'.failOn.rank ≤ threshold.rank) :
    ∃ config, Clean a s config registry := by
  obtain ⟨hrules, -, hlines, htime, ⟨count?, hcount, heq⟩, hrange⟩ :=
    Config.resolve_eq_ok_iff.mp hclean.resolves
  obtain ⟨workers?, hworkers, hvalid⟩ := h.workers.mp ⟨count?, hcount, heq ▸ hrange.workers⟩
  have hsources := h.sources_eq
  refine ⟨{ config' with failOn := threshold, workers := workers?.getD 1 }, ?_, ?_, ?_, ?_, ?_⟩
  · refine Config.resolve_eq_ok_iff.mpr ⟨?_, hthreshold, ?_, ?_, ⟨workers?, hworkers, rfl⟩, ?_⟩
    · exact hrules.trans h.resolveRules_eq
    · rw [← hlines, ← h.resolveNumber_eq _ _ (by simp)]
      exact congrArg (fun n => Config.resolveNumber _ n _ _) h.maxLines.symm
    · rw [← htime, ← h.resolveNumber_eq _ _ (by simp)]
      exact congrArg (fun n => Config.resolveNumber _ n _ _) h.timeout.symm
    · exact ⟨hrange.maxLines, hrange.timeout, hvalid⟩
  · exact h.tree ▸ hclean.loads
  · exact hsources ▸ hclean.nonempty
  · exact hsources ▸ hclean.cap
  · intro x hx
    exact Nat.lt_of_lt_of_le (hclean.below x (hsources ▸ hx)) hrank

end SameTask

lemma Clean.thresholdOf_eq {a : Arguments} {s : Surroundings} {config : Config}
    {registry : Registry Severity} (h : Clean a s config registry) :
    thresholdOf a s = .ok config.failOn :=
  (Config.resolve_eq_ok_iff.mp h.resolves).2.1

lemma SameTask.exists_clean {a a' : Arguments} {s s' : Surroundings} (h : SameTask a s a' s')
    (hsame : thresholdOf a' s' = thresholdOf a s)
    (hclean : ∃ config registry, Clean a' s' config registry) :
    ∃ config registry, Clean a s config registry := by
  obtain ⟨config', registry, hclean⟩ := hclean
  have hthreshold := hsame.symm.trans hclean.thresholdOf_eq
  obtain ⟨config, hclean⟩ := h.clean hclean hthreshold (Nat.le_refl _)
  exact ⟨config, registry, hclean⟩

lemma tells_run {texts : List String} {a : Arguments} (h : Arguments.ofTexts texts = .ok a)
    (s : Surroundings) : (run texts s).Tells (∃ config registry, Clean a s config registry) := by
  refine tells_of_ending_eq ?_ (tells_perform a s)
  rw [run, h]
  rfl

/-- **The exit code means what the threshold says.** A run that ends with a code ends with zero when
the settings are resolved, the rules are loaded, there are sources, they keep within the cap, and no
finding of a rule is as grave as the threshold, and with one otherwise. Runs on one task with one
threshold end with one code, and a lower threshold never turns a code of one into zero. -/
theorem exitCode_eq_zero_iff_clean {texts : List String} {a : Arguments} {s : Surroundings}
    {code : ℕ} (hargs : Arguments.ofTexts texts = .ok a) (hend : (run texts s).ending = .ok code) :
    (code = 0 ↔ ∃ config registry, Clean a s config registry) ∧ (code = 0 ∨ code = 1) ∧
      ∀ (texts' : List String) (a' : Arguments) (s' : Surroundings) (code' : ℕ),
        Arguments.ofTexts texts' = .ok a' → (run texts' s').ending = .ok code' →
          SameTask a s a' s' →
            (thresholdOf a' s' = thresholdOf a s → code' = code) ∧
            ∀ threshold threshold', thresholdOf a s = .ok threshold →
              thresholdOf a' s' = .ok threshold' → threshold'.rank ≤ threshold.rank →
                code = 1 → code' = 1 := by
  obtain ⟨hzero, hone⟩ := tells_run hargs s code hend
  refine ⟨hzero, hone, fun texts' a' s' code' hargs' hend' htask => ?_⟩
  obtain ⟨hzero', hone'⟩ := tells_run hargs' s' code' hend'
  constructor
  · intro hsame
    have hiff : code' = 0 ↔ code = 0 := by
      rw [hzero, hzero']
      exact ⟨htask.exists_clean hsame, htask.symm.exists_clean hsame.symm⟩
    omega
  · intro threshold threshold' hthreshold hthreshold' hrank hcode
    refine hone'.resolve_left fun hcode' => ?_
    obtain ⟨config, registry, hclean⟩ := hzero'.mp hcode'
    obtain rfl := Except.ok.inj (hclean.thresholdOf_eq.symm.trans hthreshold')
    obtain ⟨config', hclean'⟩ := htask.clean hclean hthreshold hrank
    have hcode := hzero.mpr ⟨config', registry, hclean'⟩
    omega

lemma ending_of_toOption {t : Transcript} {code : ℕ} (h : t.ending.toOption = some code) :
    t.ending = .ok code := by
  obtain ⟨code', hcode, rfl⟩ := exists_ok_of_toOption (h := (congrArg (Option.map id) h))
  exact hcode

/-- A pack with one rule of low severity. -/
def lowPack : String :=
  "\x7b\"rules\":[\x7b\"id\":\"A\",\"description\":\"\",\"severity\":\"low\"," ++
    "\"pattern\":\"x\"\x7d]\x7d"

/-- A file with one line, in which the rule of the pack beside it finds something. -/
def oneFile : Surroundings where
  environment := fun _ => none
  tree := ⟨[], [⟨["p"], lowPack.toUTF8, none⟩, ⟨["a.sol"], "x".toUTF8, none⟩], []⟩
  analyzerRun := .notInstalled
  date := ""

/-- What is asked for about that file, with a threshold. -/
def asking (threshold : Severity) : Arguments :=
  { Arguments.default with
    target := "a.sol", rules? := some ⟨"", ["p"]⟩, failOn? := some threshold }

/-- The same is asked for with two settings that have no part in the exit code. -/
def askingLoudly (threshold : Severity) : Arguments :=
  { asking threshold with json := true, workers? := some 3 }

theorem exitCode_eq_zero_iff_clean_oneFile :
    let words (name : String) := ["--rules", "p", "--fail-on", name, "a.sol"]
    let loudWords := ["--json", "--workers=3", "--rules=p", "a.sol", "--fail=low"]
    let later := { oneFile with analyzerRun := .timedOut }
    (run (words "medium") oneFile).ending = .ok 0 ∧
      (∃ config registry, Clean (asking .medium) oneFile config registry) ∧
      (run (words "low") oneFile).ending = .ok 1 ∧
      (¬ ∃ config registry, Clean (asking .low) oneFile config registry) ∧
      (run loudWords later).ending = .ok 1 ∧
      ∀ code, (run loudWords later).ending = .ok code → code = 1 := by
  intro words loudWords later
  have hargs : ∀ t ∈ Severity.all, Arguments.ofTexts (words t.name) = .ok (asking t) := by
    decide +kernel
  have hloud : Arguments.ofTexts loudWords = .ok (askingLoudly .low) := by decide +kernel
  have hends : (run (words "medium") oneFile).ending.toOption = some 0 ∧
      (run (words "low") oneFile).ending.toOption = some 1 ∧
        (run loudWords later).ending.toOption = some 1 := by decide +kernel
  have hzero := ending_of_toOption hends.1
  have hone := ending_of_toOption hends.2.1
  have htask : SameTask (asking .low) oneFile (askingLoudly .low) later :=
    ⟨rfl, rfl, rfl, rfl, rfl, fun _ _ => rfl,
      iff_of_true ⟨some 3, rfl, by decide⟩ ⟨none, rfl, by decide⟩⟩
  obtain ⟨hclean, -, -⟩ := exitCode_eq_zero_iff_clean (hargs .medium (by decide)) hzero
  obtain ⟨hunclean, -, hall⟩ := exitCode_eq_zero_iff_clean (hargs .low (by decide)) hone
  refine ⟨hzero, hclean.mp rfl, hone, fun h => absurd (hunclean.mpr h) (by decide),
    ending_of_toOption hends.2.2, fun code hcode => ?_⟩
  have hpair := hall _ _ later code hloud hcode htask
  exact hpair.1 rfl

end LineAudit.CommandLine
