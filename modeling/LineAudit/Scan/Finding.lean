import LineAudit.Rule

/-!
What a scan finds: places where rules fire, and places where rules fail.
-/

namespace LineAudit

/-- A line on which a rule fires. -/
structure Finding (σ : Type) where
  ruleId : String
  severity : σ
  file : String
  line : Nat
  snippet : String
  deriving DecidableEq, Repr

/-- A line on which testing a rule fails. -/
structure EvaluationError where
  ruleId : String
  file : String
  line : Nat
  failure : Failure
  deriving DecidableEq, Repr

namespace EvaluationError

def message (e : EvaluationError) : String :=
  s!"rule '{e.ruleId}' failed on {e.file}:{e.line}: {e.failure.kind}: {e.failure.message}"

def warning (e : EvaluationError) : String := e.message ++ "; rule skipped for the rest of the file"

end EvaluationError

/-- Something found, with what it is ordered by: file, line, and place of the rule among all
rules. -/
structure Placed (α : Type) where
  file : String
  line : Nat
  position : Nat
  item : α

namespace Placed

variable {α : Type}

/-- The order of what is found: by file, then by line, then by rule. -/
def le (a b : Placed α) : Bool :=
  decide (a.file < b.file) ||
    a.file == b.file && (decide (a.line < b.line) ||
      a.line == b.line && decide (a.position ≤ b.position))

/-- What is found, in order. What has one place keeps the order in which it was given. -/
def sorted (found : List (Placed α)) : List α := (found.mergeSort le).map item

end Placed

end LineAudit
