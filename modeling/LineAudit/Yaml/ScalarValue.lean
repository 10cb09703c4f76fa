import LineAudit.Number.Arithmetic
import LineAudit.Number.Radix
import LineAudit.Text.Base64
import LineAudit.Text.Lowercase
import LineAudit.Yaml.Timestamp

/-!
The values of scalars that claim a type.

Underscores in numbers do not count. Numbers with colons have sixty as their base. A text that does
not have the form of its type is a mishap.
-/

namespace LineAudit.Yaml

def withoutUnderscores (text : String) : List Char := text.toList.filter (· ≠ '_')

/-- The words for truth values, in small letters. -/
def truthWords : List (String × Bool) :=
  [("yes", true), ("no", false), ("true", true), ("false", false), ("on", true), ("off", false)]

def readTruth (text : String) : Except Mishap Value :=
  match truthWords.lookup (Text.lowercase text) with
  | some b => .ok (.bool b)
  | none => .error .noKey

def colonParts (cs : List Char) : List String :=
  let (last, parts) := cs.foldr (fun c (part, parts) =>
    if c = ':' then ([], part :: parts) else (c :: part, parts)) ([], [])
  (last :: parts).map String.ofList

def decimalPart (s : String) : Except Mishap Int :=
  match Number.readInteger s with
  | .ok n => .ok n
  | .error e => .error (.badValue (Number.integerErrorText s e))

def radixPart (radix : Nat) (cs : List Char) : Except Mishap Int :=
  let s := String.ofList cs
  match Number.readRadix? radix s with
  | some n => .ok n
  | none => .error (.badValue (Number.badIntegerText radix s))

def readMagnitude : List Char → Except Mishap Int
  | [] => .error .noItem
  | ['0'] => .ok 0
  | '0' :: 'b' :: rest => radixPart 2 rest
  | '0' :: 'x' :: rest => radixPart 16 rest
  | '0' :: rest => radixPart 8 ('0' :: rest)
  | cs =>
    if cs.contains ':' then do
      let digits ← (colonParts cs).mapM decimalPart
      return digits.foldl (fun n d => 60 * n + d) 0
    else decimalPart (String.ofList cs)

/-- Reads a whole number; a second sign belongs to the digits. -/
def readInteger (text : String) : Except Mishap Value :=
  match withoutUnderscores text with
  | [] => .error .noItem
  | '-' :: rest => (readMagnitude rest).map fun n => .int (-n)
  | '+' :: rest => (readMagnitude rest).map .int
  | cs => (readMagnitude cs).map .int

def floatPart (s : String) : Except Mishap Binary64 :=
  match Number.readFloat? s with
  | some x => .ok x
  | none => .error (.badValue (Number.badFloatText s))

/-- The sum of digits to the base sixty, the last one first; `unit` is what the first of them
counts. -/
def sexagesimal (sum : Binary64) (unit : Nat) : List Binary64 → Except Mishap Binary64
  | [] => .ok sum
  | digit :: rest =>
    match Binary64.ofInt unit with
    | .infinite _ => .error .tooLarge
    | factor => sexagesimal (sum.add (digit.multiply factor)) (60 * unit) rest

def readFloatMagnitude (cs : List Char) : Except Mishap Binary64 :=
  if cs = ".inf".toList then .ok (.infinite false)
  else if cs = ".nan".toList then .ok .nan
  else if cs.contains ':' then do
    let digits ← (colonParts cs).mapM floatPart
    sexagesimal .zero 1 digits.reverse
  else floatPart (String.ofList cs)

def readFloat (text : String) : Except Mishap Value :=
  match (Text.lowercase (String.ofList (withoutUnderscores text))).toList with
  | [] => .error .noItem
  | '-' :: rest => (readFloatMagnitude rest).map fun x => .float x.negate
  | '+' :: rest => (readFloatMagnitude rest).map .float
  | cs => (readFloatMagnitude cs).map .float

def escapedChar (c : Char) : String :=
  let n := c.toNat
  String.ofList (if n < 0x100 then '\\' :: 'x' :: Text.hexDigits 2 n
    else if n < 0x10000 then '\\' :: 'u' :: Text.hexDigits 4 n
    else '\\' :: 'U' :: Text.hexDigits 8 n)

/-- What is said of a text with characters beyond ASCII, if it has any. -/
def beyondAscii? (cs : List Char) : Option String :=
  let isBeyond := fun (c : Char) => 0x7f < c.toNat
  let first := (cs.takeWhile fun c => !isBeyond c).length
  match (cs.drop first).takeWhile isBeyond with
  | [] => none
  | [c] =>
    some ("'ascii' codec can't encode character '" ++ escapedChar c ++
      s!"' in position {first}: ordinal not in range(128)")
  | cs =>
    let last := first + cs.length - 1
    some (s!"'ascii' codec can't encode characters in position {first}-{last}: " ++
      "ordinal not in range(128)")

def readBinary (start : Mark) (text : String) : Except Refusal Value :=
  match beyondAscii? text.toList with
  | some reason => .error (.fault (.found none (.notAscii reason) start))
  | none =>
    match Base64.decode text.toList with
    | .ok bytes => .ok (.bytes bytes)
    | .error problem => .error (.fault (.found none (.badBase64 problem.message) start))

end LineAudit.Yaml
