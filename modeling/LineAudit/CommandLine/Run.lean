import LineAudit.Analyzer.Run
import LineAudit.BundledPack
import LineAudit.CommandLine.Help
import LineAudit.File.Corpus
import LineAudit.File.Write
import LineAudit.Log
import LineAudit.Report.Files

/-!
A run of the program.

Settings are resolved first, then rules are loaded, then sources, then the sources are looked at by
the analyzer and by the rules, and last everything found is shown and written. A run that ends
early keeps what it has done up to there. The exit code says whether a finding of a rule is grave
enough.
-/

namespace LineAudit.CommandLine

/-- What a run depends on besides the command line. -/
structure Surroundings where
  environment : Environment
  tree : FileTree
  /-- How a run of the analyzer would end. -/
  analyzerRun : AnalyzerRun
  /-- The date of a report, in words. -/
  date : String

inductive RunFailure
  | pack (f : PackFailure)
  /-- A version in a source file has too many digits. -/
  | longVersion (digits : Nat)
  | analyzer (f : AnalyzerFailure)
  | fewWorkers (workers : Int)
  | limits (abort : ScanAbort)
  | report (f : RenderFailure)
  | write (f : WriteFailure)

structure Transcript where
  /-- The lines of the output. -/
  output : List String
  /-- The lines meant for the eyes of the user only. -/
  errors : List String
  log : List Log.Record
  /-- The commands that run the analyzer. -/
  commands : List (List String)
  /-- The files afterwards. -/
  tree : FileTree
  /-- The exit code. -/
  ending : Except RunFailure Nat

namespace Transcript

def idle (tree : FileTree) (code : Nat) : Transcript := ⟨[], [], [], [], tree, .ok code⟩

def broken (tree : FileTree) (f : RunFailure) : Transcript := ⟨[], [], [], [], tree, .error f⟩

/-- A run that is given up for a reason that the user is told. -/
def refused (tree : FileTree) (message : String) : Transcript :=
  { idle tree 1 with errors := ["error: " ++ message] }

def logging (records : List Log.Record) (t : Transcript) : Transcript :=
  { t with log := records ++ t.log }

def running (commands : List (List String)) (t : Transcript) : Transcript :=
  { t with commands := commands ++ t.commands }

def showing (output errors : List String) (t : Transcript) : Transcript :=
  { t with output := output ++ t.output, errors := errors ++ t.errors }

end Transcript

/-! ### Log -/

def engineLogger : Log.Name := ⟨"engine", by decide⟩

def analyzerLogger : Log.Name := ⟨"analyzer", by decide⟩

def programLogger : Log.Name := ⟨"program", by decide⟩

def loggers (verbose : Bool) : Log.Loggers :=
  let l := Log.Loggers.begin.after
    [.obtain engineLogger, .obtain analyzerLogger, .obtain programLogger, .configure]
  if verbose then l.setDetailed true else l

def scanRecord (registry : Registry Severity) (files : List SourceFile) : Log.Record :=
  let lines := SourceFile.totalLines files
  ⟨.debug, engineLogger,
    s!"scanning {files.length} files ({lines} lines) with {registry.size} rules"⟩

def failureRecord (e : EvaluationError) : Log.Record := ⟨.debug, engineLogger, e.message⟩

def resultRecord (result : ScanResult Severity) : Log.Record :=
  let found := result.findings.length
  let failed := result.errors.length
  ⟨.debug, engineLogger, s!"scan finished: {found} findings, {failed} rule errors"⟩

/-- What is logged of a scan that is given up: nothing when the files are not even opened. -/
def abortRecords (registry : Registry Severity) (files : List SourceFile) :
    ScanAbort → List Log.Record
  | .tooLong _ _ => []
  | .late _ _ _ => [scanRecord registry files]
  | .longCap | .largeDeadline => []

def analyzerRecords (outcome : AnalyzerOutcome) : List Log.Record :=
  if outcome.warnings.isEmpty then
    [⟨.debug, analyzerLogger, s!"slither reported {outcome.findings.length} results"⟩]
  else []

/-! ### Output -/

def warningLine (warning : String) : String := "warning: " ++ warning

def countsLine (result : ScanResult Severity) : String :=
  "  " ++ "  ".intercalate (Severity.all.map fun s => s!"{s.name}: {result.count s}")

def findingLines (f : Finding Severity) : List String :=
  [s!"[{f.severity.capitals}] {f.ruleId}: {f.file}:{f.line}", "  " ++ f.snippet]

def analyzerLine (f : AnalyzerFinding) : String :=
  s!"[{f.severity.capitals}] slither:{f.check}" ++ (f.location?.map (" " ++ ·)).getD ""

def factLine (f : Fact) : String := "  " ++ f.key ++ " = " ++ f.value.text

def summary (r : Report) (files : Nat) : List String :=
  [s!"Scanned {files} file(s) with {r.registry.size} rule(s).", countsLine r.result, ""] ++
    (if r.result.findings.isEmpty then
      ["Audit complete. No pattern rules matched for the checks performed."] else []) ++
    r.result.findings.flatMap findingLines ++ r.analyzed.map analyzerLine ++
    (if r.facts.isEmpty then [] else "" :: r.facts.map factLine)

def output (a : Arguments) (r : Report) (files : Nat) : List String :=
  if a.json then [Payload.render r] else summary r files

/-! ### Stages -/

def loadRules (tree : FileTree) : Option Path → Except PackFailure (Registry Severity)
  | none => Pack.bundled
  | some path => Pack.ofPath tree path

def rulesName (config : Config) : String := (config.rulesPath?.map Path.text).getD Pack.bundledPath

def exitCode (config : Config) (result : ScanResult Severity) : Nat :=
  if Severity.meets result.worst? config.failOn then 1 else 0

def writeReport (s : Surroundings) (config : Config) (r : Report) (folder : Path) : Transcript :=
  match ReportFiles.make folder r s.date with
  | .error failure => .broken s.tree (.report failure)
  | .ok files =>
    let texts := files.contents.map fun (path, text) => (path.name, text)
    match s.tree.writeInto folder texts with
    | (tree, some failure) => .broken tree (.write failure)
    | (tree, none) =>
      (Transcript.idle tree (exitCode config r.result)).logging
        [⟨.info, programLogger, "report written to " ++ files.markdownPath.text⟩]

def finish (a : Arguments) (s : Surroundings) (config : Config) (r : Report) : Transcript :=
  match a.outputDir? with
  | some folder => writeReport s config r folder
  | none => .idle s.tree (exitCode config r.result)

def scanFiles (a : Arguments) (s : Surroundings) (config : Config) (registry : Registry Severity)
    (files : List SourceFile) (facts : List Fact) (outcome : AnalyzerOutcome)
    (warnings : List String) : Transcript :=
  match Engine.make? config.maxLines? config.timeout? config.workers with
  | none => .broken s.tree (.fewWorkers config.workers)
  | some engine =>
    match engine.scan registry.rules files with
    | .error abort =>
      (match abort.message? with
      | some message => Transcript.refused s.tree message
      | none => .broken s.tree (.limits abort)).logging (abortRecords registry files abort)
    | .ok result =>
      let report : Report := {
        target := (Path.ofText a.target).text
        rulesPath := rulesName config
        registry, result, facts
        analyzed := outcome.findings
        warnings := warnings ++ outcome.warnings ++ result.warnings }
      ((finish a s config report).showing (output a report files.length)
        (report.warnings.map warningLine)).logging
        (scanRecord registry files :: result.errors.map failureRecord ++ [resultRecord result])

def analyzerCommands (a : Arguments) : List (List String) :=
  if a.noSlither then [] else [Analyzer.slither.command (Path.ofText a.target)]

def analyze (a : Arguments) (s : Surroundings) : Except AnalyzerFailure AnalyzerOutcome :=
  if a.noSlither then .ok ⟨[], []⟩ else Analyzer.slither.outcome s.analyzerRun

def audit (a : Arguments) (s : Surroundings) (config : Config) (registry : Registry Severity)
    (files : List SourceFile) (warnings : List String) : Transcript :=
  match Quality.facts files with
  | .error digits => .broken s.tree (.longVersion digits)
  | .ok facts =>
    let transcript := match analyze a s with
      | .error f => Transcript.broken s.tree (.analyzer f)
      | .ok outcome =>
        (scanFiles a s config registry files facts outcome warnings).logging
          (if a.noSlither then [] else analyzerRecords outcome)
    transcript.running (analyzerCommands a)

def auditTarget (a : Arguments) (s : Surroundings) (config : Config)
    (registry : Registry Severity) : Transcript :=
  let target := Path.ofText a.target
  let (files, warnings) := Corpus.load s.tree .solidity target
  let warnings := warnings.map Corpus.Warning.text
  if files.isEmpty then
    (Transcript.idle s.tree 1).showing []
      (["No Solidity files found.", "  searched: " ++ target.text] ++ warnings.map warningLine)
  else audit a s config registry files warnings

/-- Everything that a run does, whether it is logged in detail or not. -/
def perform (a : Arguments) (s : Surroundings) : Transcript :=
  match Config.resolve a.explicit s.environment with
  | .error problem => .refused s.tree problem.message
  | .ok config =>
    match loadRules s.tree config.rulesPath? with
    | .ok registry => auditTarget a s config registry
    | .error f =>
      match f.message? (rulesName config) with
      | some message => .refused s.tree message
      | none => .broken s.tree (.pack f)

def runWith (a : Arguments) (s : Surroundings) : Transcript :=
  let t := perform a s
  { t with log := t.log.filter (loggers a.verbose).passes }

def run (texts : List String) (s : Surroundings) : Transcript :=
  match Arguments.ofTexts texts with
  | .ok a => runWith a s
  | .error .help => (Transcript.idle s.tree 0).showing help []
  | .error .version => (Transcript.idle s.tree 0).showing [versionText] []
  | .error (.problem e) => (Transcript.idle s.tree 2).showing [] (complaint e)

end LineAudit.CommandLine
