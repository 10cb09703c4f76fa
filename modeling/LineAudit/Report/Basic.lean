import LineAudit.Analyzer.Finding
import LineAudit.Quality.Facts
import LineAudit.Registry
import LineAudit.Scan.Engine

/-!
What a report is made from, and the figures in it.
-/

namespace LineAudit

/-- The version of the program, as it stands in reports. -/
def version : String := "0.4.0"

/-- How many findings of one severity there are: of rules, and of the outside analyzer. -/
structure SeverityTotal where
  severity : Severity
  found : Nat
  analyzed : Nat
  deriving DecidableEq, Repr

/-- All that a report shows. -/
structure Report where
  target : String
  rulesPath : String
  registry : Registry Severity
  result : ScanResult Severity
  analyzed : List AnalyzerFinding
  facts : List Fact
  warnings : List String

inductive RenderFailure
  /-- A finding has a rule that is not there. -/
  | unknownRule
  /-- A whole number to be shown has too many digits. -/
  | longNumber
  deriving DecidableEq, Repr

/-- Figures for each severity, the gravest first. -/
def severityTotals (result : ScanResult Severity) (analyzed : List AnalyzerFinding) :
    List SeverityTotal :=
  Severity.all.map fun s =>
    ⟨s, result.count s, Severity.countIn (analyzed.map AnalyzerFinding.severity) s⟩

/-- Findings by rule, in the order of the rules, for all rules that have some. There is no such
grouping when a finding has a rule that is not there. -/
def groupByRule? {σ τ : Type} (rules : List (Rule σ)) (findings : List (Finding τ)) :
    Option (List (Rule σ × List (Finding τ))) :=
  if findings.all fun f => rules.any fun r => r.id == f.ruleId then
    some ((rules.map fun r => (r, findings.filter fun f => f.ruleId = r.id)).filter fun g =>
      !g.2.isEmpty)
  else none

end LineAudit
