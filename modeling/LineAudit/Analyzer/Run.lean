import LineAudit.Analyzer.Payload
import LineAudit.File.Tree
import LineAudit.Json.Reader
import LineAudit.Text.Lines

/-!
What comes out of running the outside analyzer.

The analyzer prints its results as a JSON object; its exit code alone says nothing. A run without
results that can be used gives no findings and a warning instead.
-/

namespace LineAudit

inductive AnalyzerRun
  | notInstalled
  | timedOut
  | systemError (e : SystemError)
  /-- Starting the run fails in a way that nobody expects. -/
  | raised (kind text : String)
  | finished (output errors : String) (code : Int)

inductive AnalyzerFailure
  | raised (kind text : String)
  | payload (failure : PayloadFailure)
  | longNumber (digits : Nat)
  /-- The reason of a failed analysis has no words. -/
  | noReason
  deriving DecidableEq, Repr

/-- How the analyzer is run: its name, and after how many seconds it is stopped. -/
structure Analyzer where
  binary : String
  timeout : Value

structure AnalyzerOutcome where
  findings : List AnalyzerFinding
  warnings : List String

namespace Analyzer

def slither : Analyzer := ⟨"slither", .int 600⟩

def command (a : Analyzer) (target : Path) : List String := [a.binary, target.text, "--json", "-"]

def reasonLimit : Nat := 200

def silentReason (errors : String) (code : Int) : String :=
  let words := AnalyzerPayload.firstChars reasonLimit (Text.strip errors)
  if words.isEmpty then s!"exit code {code}" else words

/-- The data that a run printed, or why there is none. -/
def payload (a : Analyzer) :
    AnalyzerRun → Except AnalyzerFailure (Except String (List (Value × Value)))
  | .notInstalled =>
    .ok (.error "slither binary not found (install: pip install slither-analyzer)")
  | .timedOut => .ok (.error s!"slither timed out after {a.timeout.text}s")
  | .systemError e => .ok (.error ("OS error: " ++ e.text))
  | .raised kind text => .error (.raised kind text)
  | .finished output errors code =>
    match Json.read output with
    | .ok (.dict entries) => .ok (.ok entries)
    | .ok _ => .ok (.error "slither produced unexpected JSON")
    | .error .malformed => .ok (.error s!"slither produced no JSON ({silentReason errors code})")
    | .error (.tooLong digits) => .error (.longNumber digits)

/-- The reason of a failed analysis: the first line of what the data says. -/
def failureReason (entries : List (Value × Value)) : Except AnalyzerFailure String :=
  let given := Value.fieldD "error" entries
  let words := Text.strip (if given.isTrue then given.text else "analysis failed")
  if words.isEmpty then .error .noReason
  else .ok (AnalyzerPayload.firstChars reasonLimit (Text.firstStretch words))

def saysFailed (entries : List (Value × Value)) : Bool :=
  match Value.field? "success" entries with
  | some (.bool false) => true
  | _ => false

def outcome (a : Analyzer) (run : AnalyzerRun) : Except AnalyzerFailure AnalyzerOutcome := do
  match ← a.payload run with
  | .error reason => return ⟨[], ["Slither: " ++ reason ++ "; skipping external analysis"]⟩
  | .ok entries =>
    if saysFailed entries then return ⟨[], ["Slither: " ++ (← failureReason entries)]⟩
    else match AnalyzerPayload.parse entries with
      | .ok findings => return ⟨findings, []⟩
      | .error failure => throw (.payload failure)

end Analyzer

end LineAudit
