import LineAudit.Severity
import LineAudit.Value.Display

/-!
Findings of an outside analyzer.
-/

namespace LineAudit

/-- A result that an outside analyzer reports, with a place in a file or without. -/
structure AnalyzerFinding where
  check : String
  severity : Severity
  confidence : String
  description : String
  file? : Option String
  line? : Option Int
  deriving DecidableEq, Repr

namespace AnalyzerFinding

/-- The file, which counts as missing when its name is empty. -/
def place? (f : AnalyzerFinding) : Option String := f.file?.filter fun file => !file.isEmpty

def location? (f : AnalyzerFinding) : Option String :=
  f.place?.map fun file =>
    file ++ ":" ++ match f.line? with
      | some line => toString line
      | none => "None"

def isWritable (f : AnalyzerFinding) : Bool :=
  f.place?.isNone || f.line?.all Number.isShort

/-- The order of findings in a report: the gravest first, then by file, line and check. Findings
without a file come first, and those without a line count as line 0. -/
def le (a b : AnalyzerFinding) : Bool :=
  let fileA := a.file?.getD ""
  let fileB := b.file?.getD ""
  let lineA := a.line?.getD 0
  let lineB := b.line?.getD 0
  decide (b.severity.rank < a.severity.rank) ||
    a.severity == b.severity && (decide (fileA < fileB) ||
      fileA == fileB && (decide (lineA < lineB) ||
        lineA == lineB && decide (a.check ≤ b.check)))

end AnalyzerFinding

end LineAudit
