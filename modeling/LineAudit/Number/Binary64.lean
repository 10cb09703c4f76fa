/-!
Double precision numbers, held exactly: a whole mantissa times a power of two.

A finite number has the greatest mantissa below 2^53 that its exponent allows, and an exponent of at
least -1074, so each number is written in one way. Quotients of whole numbers round to the nearest
number, a half to the even mantissa, and beyond the greatest number to infinity.
-/

namespace LineAudit

/-- A double precision number; a finite one is `± mantissa · 2 ^ exponent`. -/
inductive Binary64
  | nan
  | infinite (negative : Bool)
  | finite (negative : Bool) (mantissa : Nat) (exponent : Int)
  deriving DecidableEq, Repr, Inhabited

def twoTo (n : Nat) : Nat := Nat.pow 2 n

def tenTo (n : Nat) : Nat := Nat.pow 10 n

/-- A quotient to the nearest whole number, a half to the even neighbour. -/
def roundQuotient (num den : Nat) : Nat :=
  let q := num / den
  let r := num % den
  if 2 * r < den then q
  else if den < 2 * r then q + 1
  else if q % 2 = 0 then q else q + 1

namespace Binary64

def leastExponent : Int := -1074

def greatestExponent : Int := 971

def zero : Binary64 := finite false 0 leastExponent

/-- `num / den` divided by `2 ^ e`, as a quotient. -/
def scaled (num den : Nat) (e : Int) : Nat × Nat :=
  if 0 ≤ e then (num, den * twoTo e.toNat) else (num * twoTo (-e).toNat, den)

/-- The exponent at which a positive quotient has a mantissa of 53 bits, or the least one. -/
def exponentOf (num den : Nat) : Int :=
  let e : Int := num.log2 - den.log2 - 53
  let s := scaled num den e
  max leastExponent (if s.1 / s.2 < twoTo 53 then e else e + 1)

/-- The number nearest to `± num / den`, for a positive `den`. -/
def ofQuotient (negative : Bool) (num den : Nat) : Binary64 :=
  if num = 0 then finite negative 0 leastExponent
  else
    let e := exponentOf num den
    let s := scaled num den e
    let m := roundQuotient s.1 s.2
    let (m, e) := if m = twoTo 53 then (twoTo 52, e + 1) else (m, e)
    if greatestExponent < e then infinite negative else finite negative m e

/-- The number nearest to `± digits · 10 ^ power`. Powers far outside of the range of numbers are
settled by the count of digits. -/
def ofDecimal (negative : Bool) (digits : Nat) (power : Int) : Binary64 :=
  let width : Int := (Nat.toDigits 10 digits).length
  if digits = 0 then finite negative 0 leastExponent
  else if 310 < width + power then infinite negative
  else if width + power < -330 then finite negative 0 leastExponent
  else if 0 ≤ power then ofQuotient negative (digits * tenTo power.toNat) 1
  else ofQuotient negative digits (tenTo (-power).toNat)

def ofInt (n : Int) : Binary64 := ofQuotient (decide (n < 0)) n.natAbs 1

def negate : Binary64 → Binary64
  | nan => nan
  | infinite s => infinite !s
  | finite s m e => finite (!s) m e

/-- The value of a finite number as `num / 2 ^ k`. -/
def quotient? : Binary64 → Option (Int × Nat)
  | finite s m e =>
    let n : Int := if s then -(m : Int) else m
    some (if 0 ≤ e then (n * twoTo e.toNat, 0) else (n, (-e).toNat))
  | _ => none

def isPositive : Binary64 → Bool
  | nan => false
  | infinite s => !s
  | finite s m _ => !s && m != 0

def isZero : Binary64 → Bool
  | finite _ m _ => m == 0
  | _ => false

def isNan : Binary64 → Bool
  | nan => true
  | _ => false

/-- The whole part of a finite number, cut toward zero. -/
def truncate? (x : Binary64) : Option Int :=
  x.quotient?.map fun q => q.1.tdiv (twoTo q.2)

/-- A finite number that is whole, as an integer. -/
def whole? (x : Binary64) : Option Int :=
  match x.quotient? with
  | some (n, k) => if n % twoTo k = 0 then some (n / twoTo k) else none
  | none => none

/-- Order by value; a number that is not one is below and above nothing. -/
def less : Binary64 → Binary64 → Bool
  | nan, _ | _, nan => false
  | infinite s, infinite t => s && !t
  | infinite s, _ => s
  | _, infinite t => !t
  | x, y =>
    match x.quotient?, y.quotient? with
    | some (a, j), some (b, k) => a * twoTo k < b * twoTo j
    | _, _ => false

/-- Equality by value: the two zeros are equal, and what is not a number equals nothing. -/
def same (x y : Binary64) : Bool :=
  !x.isNan && !y.isNan && !less x y && !less y x

end Binary64

end LineAudit
