import LineAudit.File.Path
import LineAudit.Number.Shortest
import LineAudit.Severity
import LineAudit.Text.Quoted

/-!
Settings of a run.

A setting given explicitly counts before the environment, and the environment before the default.
All settings are read before any is judged by its size.
-/

namespace LineAudit

abbrev Environment := String → Option String

/-- Settings of a run. Without a path the bundled pack is used. -/
structure Config where
  rulesPath? : Option Path
  failOn : Severity
  maxLines? : Option Int
  timeout? : Option Number
  workers : Int
  deriving DecidableEq, Repr

/-- A value that is given for a setting. What is null is not given. -/
abbrev GivenValue := { v : Value // v ≠ .null }

/-- Settings given explicitly. -/
structure Explicit where
  rulesPath? : Option Path
  failOn? : Option GivenValue
  maxLines? : Option Int
  timeout? : Option Number
  workers? : Option Int

inductive ConfigProblem
  | failOn (e : SeverityError)
  | notNumber (name raw : String)
  | maxLines (n : Int)
  | timeout (x : Number)
  | workers (n : Int)
  deriving DecidableEq, Repr

def ConfigProblem.message : ConfigProblem → String
  | failOn e => "fail-on: " ++ e.message
  | notNumber name raw => "$" ++ name ++ ": expected a number, got " ++ Text.quoted raw
  | maxLines n => s!"max-lines must be >= 0, got {n}"
  | timeout x => "timeout must be > 0, got " ++ x.text
  | workers n => s!"workers must be >= 1, got {n}"

namespace Config

def rulesVariable : String := "SOLGREP_RULES"

def failOnVariable : String := "SOLGREP_FAIL_ON"

def maxLinesVariable : String := "SOLGREP_MAX_LINES"

def timeoutVariable : String := "SOLGREP_TIMEOUT"

def workersVariable : String := "SOLGREP_WORKERS"

/-- The path of the rules. An empty variable names none. -/
def resolveRules (given? : Option Path) (env : Environment) : Option Path :=
  match given? with
  | some path => some path
  | none => ((env rulesVariable).filter fun raw => !raw.isEmpty).map Path.ofText

/-- The severity from which on a run fails. What counts as false stands for the default. -/
def resolveFailOn (given? : Option GivenValue) (env : Environment) :
    Except ConfigProblem Severity :=
  match given?.map Subtype.val <|> (env failOnVariable).map Value.str with
  | none => .ok .high
  | some v =>
    if !v.isTrue then .ok .high
    else match Severity.ofValue v with
      | .ok severity => .ok severity
      | .error e => .error (.failOn e)

def wholeNumber? (s : String) : Option Int :=
  match Number.readInteger s with
  | .ok n => some n
  | .error _ => none

def pointNumber? (s : String) : Option Number := (Number.readFloat? s).map .float

/-- The number in a variable. A variable of white space alone counts as missing. -/
def variableNumber {α : Type} (read? : String → Option α) (name : String) (env : Environment) :
    Except ConfigProblem (Option α) :=
  match env name with
  | none => .ok none
  | some raw =>
    if Text.isAllBlank raw then .ok none
    else match read? (Text.strip raw) with
      | some n => .ok (some n)
      | none => .error (.notNumber name raw)

/-- A number given explicitly, or else the one in a variable. -/
def resolveNumber {α : Type} (read? : String → Option α) (given? : Option α) (name : String)
    (env : Environment) : Except ConfigProblem (Option α) :=
  match given? with
  | some n => .ok (some n)
  | none => variableNumber read? name env

def checkRange (c : Config) : Except ConfigProblem Config :=
  match c.maxLines?.filter (· < 0), c.timeout?.filter Number.isAtMostZero with
  | some n, _ => .error (.maxLines n)
  | none, some x => .error (.timeout x)
  | none, none => if c.workers < 1 then .error (.workers c.workers) else .ok c

def resolve (given : Explicit) (env : Environment) : Except ConfigProblem Config := do
  let failOn ← resolveFailOn given.failOn? env
  let maxLines? ← resolveNumber wholeNumber? given.maxLines? maxLinesVariable env
  let timeout? ← resolveNumber pointNumber? given.timeout? timeoutVariable env
  let workers? ← resolveNumber wholeNumber? given.workers? workersVariable env
  checkRange {
    rulesPath? := resolveRules given.rulesPath? env
    failOn, maxLines?, timeout?
    workers := workers?.getD 1 }

end Config

end LineAudit
