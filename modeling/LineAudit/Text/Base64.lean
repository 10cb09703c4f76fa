/-!
Byte strings written by letters, four of them for three bytes.

What is no letter of the alphabet is passed over. Padding ends the text when it completes a group of
four.
-/

namespace LineAudit.Base64

inductive Problem
  /-- The last group has one letter; the number counts all letters. -/
  | singleLetter (count : Nat)
  | padding
  deriving DecidableEq, Repr

def Problem.message : Problem → String
  | singleLetter count =>
    s!"Invalid base64-encoded string: number of data characters ({count}) cannot be 1 more than " ++
      "a multiple of 4"
  | padding => "Incorrect padding"

def value? (c : Char) : Option Nat :=
  if 'A' ≤ c ∧ c ≤ 'Z' then some (c.toNat - 65)
  else if 'a' ≤ c ∧ c ≤ 'z' then some (c.toNat - 71)
  else if c.isDigit then some (c.toNat + 4)
  else if c = '+' then some 62
  else if c = '/' then some 63
  else none

/-- The values of the letters up to the padding that completes a group, and whether there is such
padding. `pads` counts the padding since the last letter. -/
def letters (values : List Nat) (pads : Nat) : List Char → List Nat × Bool
  | [] => (values.reverse, false)
  | '=' :: rest =>
    let place := values.length % 4
    if place < 2 then letters values pads rest
    else if 4 ≤ place + (pads + 1) then (values.reverse, true)
    else letters values (pads + 1) rest
  | c :: rest =>
    match value? c with
    | some v => letters (v :: values) 0 rest
    | none => letters values pads rest

def bytes : List Nat → List UInt8
  | a :: b :: c :: d :: rest =>
    UInt8.ofNat (4 * a + b / 16) :: UInt8.ofNat (16 * b + c / 4) :: UInt8.ofNat (64 * c + d) ::
      bytes rest
  | [a, b, c] => [UInt8.ofNat (4 * a + b / 16), UInt8.ofNat (16 * b + c / 4)]
  | [a, b] => [UInt8.ofNat (4 * a + b / 16)]
  | _ => []

def decode (cs : List Char) : Except Problem (List UInt8) :=
  let (values, isPadded) := letters [] 0 cs
  if isPadded || values.length % 4 = 0 then .ok (bytes values)
  else if values.length % 4 = 1 then .error (.singleLetter values.length)
  else .error .padding

end LineAudit.Base64
