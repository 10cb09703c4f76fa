import LineAudit.Matcher.Basic
import LineAudit.Severity

/-!
Rules, and what callers hand in as rules.

A rule pairs a matcher with exclusions: it fires on a line on which the matcher matches and no
exclusion does. What a caller hands in is a draft that is not checked in any way, or no rule at all.
-/

namespace LineAudit

/-- A rule, with severities of type `σ`. -/
structure Rule (σ : Type) where
  id : String
  description : Writable
  severity : σ
  matcher : Matcher
  exclusions : List Matcher
  recommendation : Value

/-- What stands in the place of a severity: one, or any value, which may be the name of one. -/
inductive SeverityMark
  | level (s : Severity)
  | raw (v : Value)

namespace SeverityMark

def read : SeverityMark → Except SeverityError Severity
  | level s => .ok s
  | raw v => Severity.ofValue v

end SeverityMark

/-- What stands in the place of the exclusions of a rule. -/
inductive Exclusions
  | list (items : List Matcher)
  | tuple (items : List Matcher)
  | foreign (v : Value)

def Exclusions.items : Exclusions → List Matcher
  | list items | tuple items => items
  | foreign _ => []

/-- A rule as a caller hands it in. -/
structure Draft where
  id : Value
  description : Writable
  severity : SeverityMark
  matcher : Matcher
  exclusions : Exclusions
  recommendation : Value

/-- What a caller hands in where a rule is expected. -/
inductive Entry
  | draft (d : Draft)
  | foreign (v : Value)

namespace Rule

variable {σ : Type}

/-- Whether a rule fires on a line: the matcher is tested first, and the exclusions only when it
matches, up to the first one that decides. -/
def fires (r : Rule σ) (line : String) : Except Failure Bool :=
  match r.matcher.test line with
  | .ok true =>
    (match Matcher.testAny r.exclusions line with
    | .ok excluded => .ok !excluded
    | .error failure => .error failure)
  | decision => decision

def withSeverity {τ : Type} (r : Rule σ) (severity : τ) : Rule τ :=
  ⟨r.id, r.description, severity, r.matcher, r.exclusions, r.recommendation⟩

def toDraft (r : Rule SeverityMark) : Draft :=
  ⟨.str r.id, r.description, r.severity, r.matcher, .list r.exclusions, r.recommendation⟩

end Rule

end LineAudit
