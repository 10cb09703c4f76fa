import LineAudit.Report.Basic

/-!
Findings as plain text: a block for each rule, with a line for each of its findings.
-/

namespace LineAudit.Patterns

variable {σ τ : Type}

def heading (r : Rule σ) : String := s!"=== {r.id}: {r.description.text} ==="

def findingLine (f : Finding τ) : String := s!"{f.file}:{f.line}:{f.snippet}"

def block (group : Rule σ × List (Finding τ)) : String :=
  "\n".intercalate (heading group.1 :: group.2.map findingLine)

def joined (blocks : List String) : String :=
  "\n\n".intercalate blocks ++ if blocks.isEmpty then "" else "\n"

/-- All findings, unless one has a rule that is not there. -/
def render? (rules : List (Rule σ)) (findings : List (Finding τ)) : Option String :=
  (groupByRule? rules findings).map fun groups => joined (groups.map block)

end LineAudit.Patterns
