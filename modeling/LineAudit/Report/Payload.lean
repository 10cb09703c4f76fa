import LineAudit.Json.Writer
import LineAudit.Report.Basic

/-!
A report as data, for other programs.
-/

namespace LineAudit.Payload

def schemaVersion : String := "0.2"

def object (fields : List (String × Value)) : Value := .dict (fields.map fun (k, v) => (.str k, v))

def ofNat (n : Nat) : Value := .int n

def ofOption {α : Type} (f : α → Value) : Option α → Value
  | none => .null
  | some a => f a

def ofFinding (f : Finding Severity) : Value :=
  object [("rule_id", .str f.ruleId), ("severity", .str f.severity.name), ("file", .str f.file),
    ("line", ofNat f.line), ("snippet", .str f.snippet)]

def ofAnalyzerFinding (f : AnalyzerFinding) : Value :=
  object [("check", .str f.check), ("severity", .str f.severity.name),
    ("confidence", .str f.confidence), ("description", .str f.description),
    ("file", ofOption .str f.file?), ("line", ofOption .int f.line?)]

def ofFact (f : Fact) : Value :=
  object [("key", .str f.key), ("value", f.value.value), ("source", .str f.source)]

def ofTotals (totals : List SeverityTotal) (figure : SeverityTotal → Nat) : Value :=
  object (totals.map fun t => (t.severity.name, ofNat (figure t)))

/-- Where the report comes from, with warnings when there are any. -/
def ofOrigin (r : Report) : Value :=
  object ([("schema_version", .str schemaVersion), ("tool_version", .str version),
      ("target", .str r.target), ("rules_path", .str r.rulesPath)] ++
    if r.warnings.isEmpty then [] else [("warnings", .list (r.warnings.map .str))])

def summary (r : Report) : Value :=
  let totals := severityTotals r.result r.analyzed
  object [("counts_by_severity", ofTotals totals SeverityTotal.found),
    ("analyzer_counts_by_severity", ofTotals totals SeverityTotal.analyzed),
    ("worst_severity", ofOption (fun s => .str s.name) r.result.worst?)]

def ofReport (r : Report) : Value :=
  object [("meta", ofOrigin r), ("summary", summary r),
    ("findings", .list (r.result.findings.map ofFinding)),
    ("analyzer_findings", .list (r.analyzed.map ofAnalyzerFinding)),
    ("facts", .list (r.facts.map ofFact))]

def render (r : Report) : String := Json.write .indented (ofReport r)

end LineAudit.Payload
