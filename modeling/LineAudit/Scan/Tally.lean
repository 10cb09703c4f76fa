import LineAudit.Scan.Engine

/-!
Results of scans with rules whose severities have been edited.

Findings are counted by severity before they are shown. A name in small letters counts as its
severity, but cannot be shown as one.
-/

namespace LineAudit

inductive TallyFailure
  /-- A value is the name of no severity. -/
  | unknown
  /-- A value cannot be looked up at all. -/
  | wrongKind
  /-- A name stands where a severity is expected. -/
  | onlyName
  deriving DecidableEq, Repr

namespace SeverityMark

/-- The severity as which a mark counts. -/
def counted : SeverityMark → Except TallyFailure Severity
  | level s => .ok s
  | raw v =>
    if !v.isKey then .error .wrongKind
    else match v.str?.bind fun name => Severity.all.find? fun s => s.name = name with
      | some s => .ok s
      | none => .error .unknown

/-- The severity as which a mark is shown. -/
def shown : SeverityMark → Except TallyFailure Severity
  | level s => .ok s
  | raw _ => .error .onlyName

end SeverityMark

def Finding.shown (f : Finding SeverityMark) : Except TallyFailure (Finding Severity) := do
  return { f with severity := ← f.severity.shown }

/-- The result with severities in the place of marks. All findings are counted before the first one
is shown. -/
def ScanResult.tallied (r : ScanResult SeverityMark) :
    Except TallyFailure (ScanResult Severity) := do
  let _ ← r.severities.mapM SeverityMark.counted
  return ⟨← r.findings.mapM Finding.shown, r.errors⟩

end LineAudit
