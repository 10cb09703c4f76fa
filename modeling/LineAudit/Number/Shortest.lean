import LineAudit.Number.Literal

/-!
The shortest decimal that reads back as a given double precision number.

Every real number nearer to the given one than to its neighbours reads back as it. For one, two and
more digits the two points of the decimal grid beside the number are tried; the first grid on which
one of them reads back gives the digits, and of two the nearer one does, the even one on a tie.
-/

namespace LineAudit

/-- How a decimal is laid out: up to which size it is written positionally, and how an exponent is
written. -/
structure DecimalLayout where
  /-- Positional notation is used while the point stands at most this far to the right. -/
  greatestPoint : Int
  /-- Positional notation is used while the point stands more than this far to the left. -/
  leastPoint : Int
  /-- The least number of digits in an exponent. -/
  exponentWidth : Nat

/-- Numbers from 0.0001 up to 16 digits before the point are written positionally, and exponents
with a sign and at least two digits. -/
def DecimalLayout.plain : DecimalLayout := ⟨16, -4, 2⟩

namespace Binary64

/-- The interval of reals that round to `m · 2 ^ e`, in quarters of `2 ^ e`, as its lower bound, the
number itself and the upper bound. Below a power of two the numbers lie twice as dense. -/
def interval (m : Nat) (e : Int) : Nat × Nat × Nat :=
  (if m = twoTo 52 ∧ leastExponent < e then 4 * m - 1 else 4 * m - 2, 4 * m, 4 * m + 2)

/-- The least `k` with `num / den < 10 ^ k`, for a positive quotient below `10 ^ (lo + fuel)` and
not below `10 ^ (lo - 1)`. -/
def pointFrom (num den : Nat) : Nat → Int → Int
  | 0, k => k
  | fuel + 1, k =>
    let below := if 0 ≤ k then num < den * tenTo k.toNat else num * tenTo (-k).toNat < den
    if below then k else pointFrom num den fuel (k + 1)

/-- The decimal on the grid of `10 ^ t` that reads back as the number, if there is one. The number
and its bounds are quotients over `den`; the bounds belong to the interval when `closed`. -/
def gridDigits? (low num high den : Nat) (closed : Bool) (t : Int) : Option Nat :=
  let up := tenTo (-t).toNat
  let unit := den * tenTo t.toNat
  let fits := fun d : Nat =>
    if closed then low * up ≤ d * unit && d * unit ≤ high * up
    else low * up < d * unit && d * unit < high * up
  let down := num * up / unit
  let r := num * up % unit
  let upper := down + 1
  if fits down then
    if fits upper then
      if 2 * r < unit || 2 * r == unit && down % 2 == 0 then some down else some upper
    else some down
  else if fits upper then some upper else none

/-- The first of the grids with `digits` and more digits that holds a decimal which reads back. -/
def shortestFrom (low num high den : Nat) (closed : Bool) (point : Int) :
    Nat → Int → Nat × Int
  | 0, digits => (num * tenTo (-(point - digits)).toNat / den, point - digits)
  | fuel + 1, digits =>
    match gridDigits? low num high den closed (point - digits) with
    | some d => (d, point - digits)
    | none => shortestFrom low num high den closed point fuel (digits + 1)

/-- The shortest decimal `d · 10 ^ t` that reads back as `m · 2 ^ e`, for a positive `m`. -/
def shortest (m : Nat) (e : Int) : Nat × Int :=
  let (low, num, high) := interval m e
  let scale := (e - 2).toNat
  let den := twoTo (2 - e).toNat
  let low := low * twoTo scale
  let num := num * twoTo scale
  let high := high * twoTo scale
  let guess : Int := (((m.log2 : Int) + e) * 30103) / 100000 - 1
  shortestFrom low num high den (m % 2 == 0) (pointFrom num den 8 guess) 20 1

def trimZeros (digits : List Char) : List Char :=
  (digits.reverse.dropWhile (· == '0')).reverse

def exponentText (width : Nat) (x : Int) : List Char :=
  let digits := Nat.toDigits 10 x.natAbs
  (if x < 0 then '-' else '+') :: (List.replicate (width - digits.length) '0' ++ digits)

/-- The decimal `0.d₁d₂… · 10 ^ point`, laid out. -/
def layOut (layout : DecimalLayout) (digits : List Char) (point : Int) : List Char :=
  if layout.leastPoint < point ∧ point ≤ layout.greatestPoint then
    if point ≤ 0 then
      '0' :: '.' :: (List.replicate (-point).toNat '0' ++ digits)
    else if digits.length ≤ point.toNat then
      digits ++ List.replicate (point.toNat - digits.length) '0' ++ ['.', '0']
    else digits.take point.toNat ++ '.' :: digits.drop point.toNat
  else
    let fraction := digits.drop 1
    digits.take 1 ++ (if fraction.isEmpty then [] else '.' :: fraction) ++
      'e' :: exponentText layout.exponentWidth (point - 1)

def signed (negative : Bool) (cs : List Char) : String :=
  String.ofList (if negative then '-' :: cs else cs)

/-- The text of a number: the shortest decimal that reads back. -/
def text : Binary64 → String
  | nan => "nan"
  | infinite negative => signed negative ['i', 'n', 'f']
  | finite negative m e =>
    if m = 0 then signed negative ['0', '.', '0']
    else
      let (d, t) := shortest m e
      let digits := Nat.toDigits 10 d
      signed negative (layOut .plain (trimZeros digits) (t + digits.length))

end Binary64

def Number.text : Number → String
  | int n => toString n
  | float x => x.text

end LineAudit
