import LineAudit.Number.Binary64
import LineAudit.Text.Blank
import LineAudit.Text.Digit

/-!
Numbers written by people: outer white space, a sign, decimal digits of any script, and single
underscores between digits. A whole number has at most 4300 digits.
-/

namespace LineAudit

inductive Number
  | int (n : Int)
  | float (x : Binary64)
  deriving DecidableEq, Repr, Inhabited

inductive IntegerError
  | malformed
  | tooLong (digits : Nat)
  deriving DecidableEq, Repr

namespace Number

/-- The most digits that a whole number may have. -/
def digitLimit : Nat := 4300

def tooLongText (digits : Nat) : String :=
  s!"Exceeds the limit ({digitLimit} digits) for integer string conversion: value has {digits} " ++
    "digits; use sys.set_int_max_str_digits() to increase the limit"

def unwritableText : String :=
  s!"Exceeds the limit ({digitLimit} digits) for integer string conversion; " ++
    "use sys.set_int_max_str_digits() to increase the limit"

/-- A whole number that can be written. Comparing with so large a number is left to the kernel. -/
@[irreducible]
def isShort (n : Int) : Bool := n.natAbs < tenTo digitLimit

theorem isShort_eq_false_iff {n : Int} : isShort n = false ↔ tenTo digitLimit ≤ n.natAbs := by
  unfold isShort
  rw [decide_eq_false_iff_not, Nat.not_lt]

/-- A whole number that lies beyond the greatest number with a point, also when it is rounded. -/
def isTooLarge : Number → Bool
  | int n => twoTo 1024 - twoTo 970 ≤ n.natAbs
  | float _ => false

def isAtMostZero : Number → Bool
  | int n => n ≤ 0
  | float x => !x.isNan && !x.isPositive

/-- Splits off a sign; the answer is whether it was a minus. -/
def splitSign : List Char → Bool × List Char
  | '-' :: rest => (true, rest)
  | '+' :: rest => (false, rest)
  | rest => (false, rest)

/-- The digits of a text in which an underscore may stand between two digits. -/
def groupedDigits? : List Char → Option (List Nat)
  | [] => none
  | [c] => (Text.digitValue? c).map fun d => [d]
  | c :: '_' :: rest =>
    match Text.digitValue? c, groupedDigits? rest with
    | some d, some ds => some (d :: ds)
    | _, _ => none
  | c :: rest =>
    match Text.digitValue? c, groupedDigits? rest with
    | some d, some ds => some (d :: ds)
    | _, _ => none

/-- The value of digits, most significant first. -/
def ofDigits (base : Nat) (ds : List Nat) : Nat := ds.foldl (fun n d => base * n + d) 0

def readInteger (s : String) : Except IntegerError Int :=
  let (negative, body) := splitSign (Text.trimBlanks s.toList)
  match groupedDigits? body with
  | none => .error .malformed
  | some ds =>
    if digitLimit < ds.length then .error (.tooLong ds.length)
    else .ok (if negative then -(ofDigits 10 ds : Int) else ofDigits 10 ds)

/-- A stretch of digits that may be empty, and what follows it. -/
def splitDigits (cs : List Char) : List Char × List Char :=
  cs.span fun c => Text.isDigit c || c = '_'

def optionalDigits? : List Char → Option (List Nat)
  | [] => some []
  | cs => groupedDigits? cs

/-- Reads the exponent of a number, after its digits. -/
def readExponent? : List Char → Option Int
  | [] => some 0
  | c :: rest =>
    if c = 'e' ∨ c = 'E' then
      let (negative, body) := splitSign rest
      (groupedDigits? body).map fun ds =>
        if negative then -(ofDigits 10 ds : Int) else ofDigits 10 ds
    else none

/-- The words for numbers that are not finite, in any letter case. -/
def nonFinite? (cs : List Char) : Option Binary64 :=
  let word := String.ofList (cs.map Char.toLower)
  if word = "nan" then some .nan
  else if word = "inf" ∨ word = "infinity" then some (.infinite false)
  else none

/-- Reads a number with a point, an exponent, both or neither. -/
def readFloat? (s : String) : Option Binary64 :=
  let (negative, body) := splitSign (Text.trimBlanks s.toList)
  match nonFinite? body with
  | some x => some (if negative then x.negate else x)
  | none =>
    let (whole, rest) := splitDigits body
    let (fraction, rest) :=
      match rest with
      | '.' :: rest => splitDigits rest
      | _ => ([], rest)
    match optionalDigits? whole, optionalDigits? fraction, readExponent? rest with
    | some ds, some fs, some e =>
      if ds.isEmpty && fs.isEmpty then none
      else some (.ofDecimal negative (ofDigits 10 (ds ++ fs)) (e - fs.length))
    | _, _, _ => none

end Number

end LineAudit
