import LineAudit.File.Path
import LineAudit.Report.Markdown
import LineAudit.Report.Patterns
import LineAudit.Report.Payload

/-!
The files of a report.
-/

namespace LineAudit

/-- The files of a report in a folder: for people, as plain text and as data. -/
structure ReportFiles where
  folder : Path
  markdown : String
  patterns : String
  payload : String

namespace ReportFiles

def make (folder : Path) (r : Report) (date : String) : Except RenderFailure ReportFiles := do
  let markdown ← Markdown.render r date
  match Patterns.render? r.registry.rules r.result.findings with
  | none => throw .unknownRule
  | some patterns => return ⟨folder, markdown, patterns, Payload.render r⟩

def markdownPath (f : ReportFiles) : Path := f.folder.below ["REPORT.md"]

def patternsPath (f : ReportFiles) : Path := f.folder.below ["patterns.txt"]

def payloadPath (f : ReportFiles) : Path := f.folder.below ["findings.json"]

def contents (f : ReportFiles) : List (Path × String) :=
  [(f.markdownPath, f.markdown), (f.patternsPath, f.patterns), (f.payloadPath, f.payload)]

end ReportFiles

end LineAudit
