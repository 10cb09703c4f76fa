import LineAudit.Text.Blank
import LineAudit.Text.Lowercase
import LineAudit.Value.Basic

/-!
How grave a finding is.

Five severities in a fixed order of rank. A severity is read from its name in any letter case with
white space around it; `info` is a second name of the lowest one.
-/

namespace LineAudit

inductive Severity
  | critical
  | high
  | medium
  | low
  | informational
  deriving DecidableEq, Repr, Inhabited

inductive SeverityError
  | notText (kind : String)
  | unknown (name : String)
  deriving DecidableEq, Repr

namespace Severity

/-- All severities, the gravest first. -/
def all : List Severity := [critical, high, medium, low, informational]

def name : Severity → String
  | critical => "critical"
  | high => "high"
  | medium => "medium"
  | low => "low"
  | informational => "informational"

def capitals : Severity → String
  | critical => "CRITICAL"
  | high => "HIGH"
  | medium => "MEDIUM"
  | low => "LOW"
  | informational => "INFORMATIONAL"

def title : Severity → String
  | critical => "Critical"
  | high => "High"
  | medium => "Medium"
  | low => "Low"
  | informational => "Informational"

/-- The graver a severity, the higher its rank. -/
def rank : Severity → Nat
  | critical => 4
  | high => 3
  | medium => 2
  | low => 1
  | informational => 0

def ofName? (s : String) : Option Severity :=
  if s = "info" then some informational else all.find? fun severity => severity.name = s

def parse (s : String) : Except SeverityError Severity :=
  match ofName? (Text.lowercase (Text.strip s)) with
  | some severity => .ok severity
  | none => .error (.unknown s)

def ofValue : Value → Except SeverityError Severity
  | .str s => parse s
  | v => .error (.notText v.kindName)

def worst? : List Severity → Option Severity
  | [] => none
  | first :: rest => some (rest.foldl (fun w s => if w.rank < s.rank then s else w) first)

/-- A severity, if there is one, is at least as grave as a threshold. -/
def meets (severity? : Option Severity) (threshold : Severity) : Bool :=
  match severity? with
  | none => false
  | some severity => threshold.rank ≤ severity.rank

def countIn (severities : List Severity) (severity : Severity) : Nat := severities.count severity

end Severity

def SeverityError.message : SeverityError → String
  | notText kind => "severity must be a string, got " ++ kind
  | unknown name =>
    "unknown severity '" ++ name ++ "' (valid: " ++
      ", ".intercalate (Severity.all.map Severity.name) ++ ")"

end LineAudit
