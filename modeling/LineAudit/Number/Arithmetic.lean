import LineAudit.Number.Binary64

/-!
Sums and products of double precision numbers: exact ones, rounded to the nearest number.
-/

namespace LineAudit.Binary64

/-- The sign of a number, also of a zero. -/
def isNegative : Binary64 → Bool
  | nan => false
  | infinite s => s
  | finite s _ _ => s

/-- The number nearest to `num / 2 ^ k`; a zero has the given sign. -/
def ofScaled (zeroSign : Bool) (num : Int) (k : Nat) : Binary64 :=
  if num = 0 then finite zeroSign 0 leastExponent
  else ofQuotient (decide (num < 0)) num.natAbs (twoTo k)

def add (x y : Binary64) : Binary64 :=
  match x, y with
  | nan, _ | _, nan => nan
  | infinite s, infinite t => if s = t then infinite s else nan
  | infinite s, _ => infinite s
  | _, infinite t => infinite t
  | x, y =>
    match x.quotient?, y.quotient? with
    | some (a, j), some (b, k) =>
      ofScaled (x.isNegative && y.isNegative) (a * twoTo k + b * twoTo j) (j + k)
    | _, _ => nan

def multiply (x y : Binary64) : Binary64 :=
  let sign := x.isNegative != y.isNegative
  match x.quotient?, y.quotient? with
  | some (a, j), some (b, k) => ofScaled sign (a * b) (j + k)
  | _, _ => if x.isNan || y.isNan || x.isZero || y.isZero then nan else infinite sign

end LineAudit.Binary64
