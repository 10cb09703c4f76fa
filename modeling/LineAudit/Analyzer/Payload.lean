import LineAudit.Analyzer.Finding
import LineAudit.Number.Radix
import LineAudit.Value.Display

/-!
Reading the data that the outside analyzer prints.

The data has been read from JSON, which refuses a whole number of more digits than can be written,
so that every value in it has a text. Each result whose impact is known becomes one finding;
everything else in the list of results is passed over. The place of a finding is the first of its
elements that names a file. Data of another shape than expected is refused.
-/

namespace LineAudit

/-- Why the data of the analyzer is refused. -/
inductive PayloadFailure
  /-- A mapping is expected, and there is something else. -/
  | notMapping
  /-- A value is not of a kind that can be used in its place. -/
  | wrongKind
  /-- A mapping stands where a list is expected. -/
  | noItem
  | infiniteLine
  | badLine (message : String)
  deriving DecidableEq, Repr

namespace AnalyzerPayload

def impacts : List (String × Severity) := [
  ("high", .high), ("medium", .medium), ("low", .low), ("informational", .informational),
  ("optimization", .informational)]

def impactSeverity? (v : Value) : Option Severity :=
  impacts.lookup (Text.lowercase (Text.strip v.text))

def descriptionLimit : Nat := 500

def firstChars (n : Nat) (s : String) : String := String.ofList (s.toList.take n)

/-- The entries of a mapping, where what counts as false is an empty one. -/
def mappingOf (v : Value) : Except PayloadFailure (List (Value × Value)) :=
  if !v.isTrue then .ok []
  else match v with
    | .dict entries => .ok entries
    | _ => .error .notMapping

/-- The items to look through, where what counts as false has none. The parts of a text and the keys
of a mapping are never of use. -/
def itemsOf (v : Value) : Except PayloadFailure (List Value) :=
  if !v.isTrue then .ok []
  else match v with
    | .list items => .ok items
    | .str _ | .dict _ => .ok []
    | _ => .error .wrongKind

/-- The value of a key, or a text when it is missing. -/
def fieldOr (key default : String) (entries : List (Value × Value)) : Value :=
  (Value.field? key entries).getD (.str default)

def wholeNumber : Value → Except PayloadFailure Int
  | .int n => .ok n
  | .bool b => .ok (if b then 1 else 0)
  | .float x =>
    (match x.truncate? with
    | some n => .ok n
    | none => if x.isNan then .error (.badLine "cannot convert float NaN to integer")
      else .error .infiniteLine)
  | .str s =>
    (match Number.readInteger s with
    | .ok n => .ok n
    | .error e => .error (.badLine (Number.integerErrorText s e)))
  | _ => .error .wrongKind

/-- The first of the lines of an element, if there are any. -/
def firstLine (v : Value) : Except PayloadFailure (Option Int) :=
  if !v.isTrue then .ok none
  else match v with
    | .list (first :: _) => (wholeNumber first).map some
    | .str s => (wholeNumber (.str (firstChars 1 s))).map some
    | .dict _ => .error .noItem
    | _ => .error .wrongKind

/-- The name of the file in the source mapping of an element, if it has one. -/
def fileName? (mapping : List (Value × Value)) : Option String :=
  let relative := Value.fieldD "filename_relative" mapping
  let name := if relative.isTrue then relative else Value.fieldD "filename_short" mapping
  if name.isTrue then some name.text else none

/-- File and line of an element, if it names a file. -/
def elementPlace? : Value → Except PayloadFailure (Option (String × Option Int))
  | .dict entries => do
    let mapping ← mappingOf (Value.fieldD "source_mapping" entries)
    match fileName? mapping with
    | some file => return some (file, ← firstLine (Value.fieldD "lines" mapping))
    | none => return none
  | _ => .ok none

def firstPlace? : List Value → Except PayloadFailure (Option (String × Option Int))
  | [] => .ok none
  | element :: rest => do
    match ← elementPlace? element with
    | some place => return some place
    | none => firstPlace? rest

def finding (severity : Severity) (entries : List (Value × Value)) :
    Except PayloadFailure AnalyzerFinding := do
  let place? ← firstPlace? (← itemsOf (Value.fieldD "elements" entries))
  return {
    check := (fieldOr "check" "unknown" entries).text
    severity
    confidence := Text.lowercase (fieldOr "confidence" "" entries).text
    description :=
      firstChars descriptionLimit (Text.collapseBlanks (fieldOr "description" "" entries).text)
    file? := place?.map (·.1)
    line? := place?.bind (·.2) }

/-- The finding of a result, or none when it is passed over. -/
def resultFinding? : Value → Except PayloadFailure (Option AnalyzerFinding)
  | .dict entries =>
    match impactSeverity? (fieldOr "impact" "" entries) with
    | some severity => (finding severity entries).map some
    | none => .ok none
  | _ => .ok none

def findingsOf : List Value → Except PayloadFailure (List AnalyzerFinding)
  | [] => .ok []
  | result :: rest => do
    let found? ← resultFinding? result
    return found?.toList ++ (← findingsOf rest)

def parse (payload : List (Value × Value)) : Except PayloadFailure (List AnalyzerFinding) := do
  let results ← mappingOf (Value.fieldD "results" payload)
  findingsOf (← itemsOf (Value.fieldD "detectors" results))

end AnalyzerPayload

end LineAudit
