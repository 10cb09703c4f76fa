import LineAudit.Value.Basic
import LineAudit.Yaml.Fault

/-!
Dates and times as written in a YAML text.

A day has four, one or two, and one or two digits. A time of day may follow, with fractions of a
second and a distance from Greenwich, which is `Z` or a sign with hours and minutes.
-/

namespace LineAudit.Yaml

abbrev Stamp := StateT (List Char) Option

namespace Stamp

/-- Takes the digits of a number: at least `least`, and as many as there are up to `most`. -/
def digits (least most : Nat) : Stamp (List Nat) := fun cs =>
  let ds := (cs.take most).takeWhile Char.isDigit
  if ds.length < least then none else some (ds.map fun d => d.toNat - 48, cs.drop ds.length)

def ofDigits (ds : List Nat) : Nat := ds.foldl (fun n d => 10 * n + d) 0

def number (least most : Nat) : Stamp Nat := do return ofDigits (← digits least most)

def one (p : Char → Bool) : Stamp Char
  | [] => none
  | c :: rest => if p c then some (c, rest) else none

def only (c : Char) : Stamp Unit := do
  let _ ← one (· = c)

/-- Takes blanks, of which there may be none. -/
def blanks : Stamp Unit := fun cs => some ((), cs.dropWhile isPadding)

/-- Takes what separates a time of day from the day. -/
def separator : Stamp Unit := do
  let c ← one fun c => c = 'T' || c = 't' || isPadding c
  if isPadding c then blanks

/-- Takes the fraction of a second, in millionths; further digits are dropped. -/
def fraction : Stamp Nat := do
  only '.'
  let ds := (← digits 0 (← get).length).take 6
  return ofDigits (ds ++ List.replicate (6 - ds.length) 0)

/-- Takes a distance from Greenwich, in minutes. -/
def offset : Stamp Int := do
  blanks
  let c ← one fun c => c = 'Z' || c = '+' || c = '-'
  if c = 'Z' then return 0
  let hours ← number 1 2
  let minutes ← (do
    only ':'
    number 2 2) <|> pure 0
  let n : Int := 60 * hours + minutes
  return if c = '-' then -n else n

/-- Succeeds at the end, before which a line feed may stand. -/
def atEnd : Stamp Unit
  | [] => some ((), [])
  | ['\n'] => some ((), [])
  | _ => none

/-- A step whose failure is an answer. -/
def optional? {α : Type} (step : Stamp α) : Stamp (Option α) := (some <$> step) <|> pure none

/-- A time of day: hour, minute, second, millionths and distance from Greenwich. -/
def clock : Stamp (Nat × Nat × Nat × Nat × Option Int) := do
  separator
  let hour ← number 1 2
  only ':'
  let minute ← number 2 2
  only ':'
  let second ← number 2 2
  let micro ← fraction <|> pure 0
  return (hour, minute, second, micro, ← optional? offset)

def whole : Stamp ((Nat × Nat × Nat) × Option (Nat × Nat × Nat × Nat × Option Int)) := do
  let year ← number 4 4
  only '-'
  let month ← number 1 2
  only '-'
  let day ← number 1 2
  let clock? ← optional? clock
  atEnd
  return ((year, month, day), clock?)

end Stamp

/-- The date or time that a text writes. The distance from Greenwich is judged before the day. -/
def readTimestamp (text : String) : Except Mishap Value :=
  match Stamp.whole.run' text.toList with
  | none => .error .noForm
  | some ((year, month, day), none) =>
    (match Date.make year month day with
    | .ok d => .ok (.date d)
    | .error problem => .error (.badValue problem))
  | some ((year, month, day), some (hour, minute, second, micro, offset?)) =>
    match offset?.mapM Moment.checkOffset with
    | .error problem => .error (.badValue problem)
    | .ok offset? =>
      match Moment.make year month day hour minute second micro offset? with
      | .ok t => .ok (.moment t)
      | .error problem => .error (.badValue problem)

end LineAudit.Yaml
