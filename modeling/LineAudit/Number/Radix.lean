import LineAudit.Number.Literal
import LineAudit.Text.Quoted

/-!
Whole numbers to a radix of two, eight or sixteen, and what is said of texts that are none.
-/

namespace LineAudit.Number

/-- What is said of a text that is no whole number to a radix. -/
def badIntegerText (radix : Nat) (s : String) : String :=
  s!"invalid literal for int() with base {radix}: " ++
    String.ofList ((Text.quoted s).toList.take 200)

def badFloatText (s : String) : String := "could not convert string to float: " ++ Text.quoted s

def integerErrorText (s : String) : IntegerError → String
  | .malformed => badIntegerText 10 s
  | .tooLong digits => tooLongText digits

def radixLetter? (radix : Nat) : Option Char :=
  if radix = 2 then some 'b' else if radix = 8 then some 'o' else if radix = 16 then some 'x'
  else none

def radixDigit? (radix : Nat) (c : Char) : Option Nat :=
  let value? :=
    if 'a' ≤ c ∧ c ≤ 'f' then some (c.toNat - 87)
    else if 'A' ≤ c ∧ c ≤ 'F' then some (c.toNat - 55)
    else Text.digitValue? c
  value?.filter (· < radix)

def dropRadixMark (radix : Nat) : List Char → List Char
  | '0' :: c :: rest => if radixLetter? radix = some c.toLower then rest else '0' :: c :: rest
  | cs => cs

/-- Reads a whole number to a radix: outer white space, a sign, the mark of the radix, digits. -/
def readRadix? (radix : Nat) (s : String) : Option Int :=
  let (negative, body) := splitSign (Text.trimBlanks s.toList)
  let digits := dropRadixMark radix body
  if digits.isEmpty then none
  else
    (digits.mapM (radixDigit? radix)).map fun ds =>
      if negative then -(ofDigits radix ds : Int) else ofDigits radix ds

end LineAudit.Number
