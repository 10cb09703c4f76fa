/-!
Dates and times of day in the proleptic Gregorian calendar, years 1 to 9999.

A moment carries a distance from Greenwich, or none when it is local time. What does not name a
day or a time is refused with the reason.
-/

namespace LineAudit

structure Date where
  year : Nat
  month : Nat
  day : Nat
  deriving DecidableEq, Repr, Inhabited

/-- A time on a day. The offset from Greenwich is in minutes. -/
structure Moment where
  date : Date
  hour : Nat
  minute : Nat
  second : Nat
  microsecond : Nat
  offset? : Option Int
  deriving DecidableEq, Repr, Inhabited

namespace Date

def isLeap (year : Nat) : Bool := year % 4 = 0 && (year % 100 != 0 || year % 400 = 0)

def daysIn (year month : Nat) : Nat :=
  if month = 2 then (if isLeap year then 29 else 28)
  else if month = 4 ∨ month = 6 ∨ month = 9 ∨ month = 11 then 30 else 31

/-- The day named by three numbers, or why there is none. -/
def make (year month day : Nat) : Except String Date :=
  if year < 1 ∨ 9999 < year then .error s!"year {year} is out of range"
  else if month < 1 ∨ 12 < month then .error "month must be in 1..12"
  else if day < 1 ∨ daysIn year month < day then .error "day is out of range for month"
  else .ok ⟨year, month, day⟩

/-- Days before a year, from the first day of year 1. -/
def daysBeforeYear (year : Nat) : Nat :=
  let y := year - 1
  365 * y + y / 4 - y / 100 + y / 400

def daysInFirst (year : Nat) : Nat → Nat
  | 0 => 0
  | months + 1 => daysInFirst year months + daysIn year (months + 1)

/-- Days since the day before the first one. -/
def ordinal (d : Date) : Nat := daysBeforeYear d.year + daysInFirst d.year (d.month - 1) + d.day

/-- A number with zeros in front, at least `width` digits wide. -/
def padded (width n : Nat) : String :=
  let digits := toString n
  "".pushn '0' (width - digits.length) ++ digits

/-- Year, month and day, joined by hyphens. -/
def text (d : Date) : String := s!"{padded 4 d.year}-{padded 2 d.month}-{padded 2 d.day}"

end Date

namespace Moment

def spanText (minutes : Int) : String :=
  let days := minutes.fdiv 1440
  let seconds := minutes.fmod 1440 * 60
  let parts := (if days = 0 then [] else [s!"days={days}"]) ++
    (if seconds = 0 then [] else [s!"seconds={seconds}"])
  "datetime.timedelta(" ++ (if parts.isEmpty then "0" else ", ".intercalate parts) ++ ")"

def checkOffset (minutes : Int) : Except String Int :=
  if -1440 < minutes ∧ minutes < 1440 then .ok minutes
  else .error <| "offset must be a timedelta strictly between -timedelta(hours=24) and " ++
    s!"timedelta(hours=24), not {spanText minutes}."

def make (year month day hour minute second microsecond : Nat) (offset? : Option Int) :
    Except String Moment :=
  match Date.make year month day with
  | .error e => .error e
  | .ok date =>
    if 23 < hour then .error "hour must be in 0..23"
    else if 59 < minute then .error "minute must be in 0..59"
    else if 59 < second then .error "second must be in 0..59"
    else .ok ⟨date, hour, minute, second, microsecond, offset?⟩

/-- An offset as sign, hours and minutes. -/
def offsetText (minutes : Int) : String :=
  let n := minutes.natAbs
  (if minutes < 0 then "-" else "+") ++ s!"{Date.padded 2 (n / 60)}:{Date.padded 2 (n % 60)}"

def clockText (t : Moment) : String :=
  s!"{Date.padded 2 t.hour}:{Date.padded 2 t.minute}:{Date.padded 2 t.second}"

/-- Date and time with a space between, fractions of a second when there are any, and the offset. -/
def text (t : Moment) : String :=
  let fraction := if t.microsecond = 0 then "" else s!".{Date.padded 6 t.microsecond}"
  let offset := (t.offset?.map offsetText).getD ""
  s!"{t.date.text} {t.clockText}{fraction}{offset}"

/-- The name of the time zone, empty for local time. -/
def zoneName (t : Moment) : String :=
  match t.offset? with
  | none => ""
  | some 0 => "UTC"
  | some minutes => s!"UTC{offsetText minutes}"

/-- Microseconds since the beginning of the calendar, at Greenwich. -/
def instant (t : Moment) : Int :=
  let minutes : Int := (t.date.ordinal * 24 + t.hour) * 60 + t.minute - t.offset?.getD 0
  (minutes * 60 + t.second) * 1000000 + t.microsecond

end Moment

end LineAudit
