import LineAudit.Value.Basic

/-!
Reading JSON texts.

A whole number keeps its exact value, any other number becomes a double precision one, and the
words for infinities and for what is not a number are read too. Of members of one name the last
value stays, at the place of the first. A text that is no JSON is refused, and a whole number of too
many digits is an error of its own.
-/

namespace LineAudit.Json

inductive ReadError
  | malformed
  | tooLong (digits : Nat)
  deriving DecidableEq, Repr

/-- The outcome of reading a part: what was read and the text after it. -/
abbrev Step (α : Type) := Except ReadError (α × List Char)

def isSpace (c : Char) : Bool := c = ' ' || c = '\t' || c = '\n' || c = '\r'

def skipSpace (cs : List Char) : List Char := cs.dropWhile isSpace

def hexValue? (c : Char) : Option Nat :=
  if '0' ≤ c ∧ c ≤ '9' then some (c.toNat - 48)
  else if 'a' ≤ c ∧ c ≤ 'f' then some (c.toNat - 87)
  else if 'A' ≤ c ∧ c ≤ 'F' then some (c.toNat - 55)
  else none

def hexQuad? : List Char → Option (Nat × List Char)
  | a :: b :: c :: d :: rest =>
    match hexValue? a, hexValue? b, hexValue? c, hexValue? d with
    | some a, some b, some c, some d => some (((a * 16 + b) * 16 + c) * 16 + d, rest)
    | _, _, _, _ => none
  | _ => none

def pairChar (high low : Nat) : Char :=
  Char.ofNat (0x10000 + (high - 0xd800) * 0x400 + (low - 0xdc00))

/-- The character of a single code unit; half of a pair alone stands for no character. -/
def unitChar (n : Nat) : Char := if 0xd800 ≤ n ∧ n < 0xe000 then '\ufffd' else Char.ofNat n

def escape? : Char → Option Char
  | '"' => some '"'
  | '\\' => some '\\'
  | '/' => some '/'
  | 'b' => some '\x08'
  | 'f' => some '\x0c'
  | 'n' => some '\n'
  | 'r' => some '\r'
  | 't' => some '\t'
  | _ => none

/-- The character written by `\u` and four digits, or by two of these. -/
def unicodeEscape? (cs : List Char) : Option (Char × List Char) :=
  match hexQuad? cs with
  | none => none
  | some (high, rest) =>
    if 0xd800 ≤ high ∧ high < 0xdc00 then
      match rest with
      | '\\' :: 'u' :: more =>
        match hexQuad? more with
        | some (low, after) =>
          if 0xdc00 ≤ low ∧ low < 0xe000 then some (pairChar high low, after)
          else some (unitChar high, rest)
        | none => some (unitChar high, rest)
      | _ => some (unitChar high, rest)
    else some (unitChar high, rest)

/-- The characters of a string up to its closing quote; `fuel` bounds the characters read. -/
def stringBody : Nat → List Char → List Char → Step String
  | 0, _, _ => .error .malformed
  | _, _, [] => .error .malformed
  | _ + 1, acc, '"' :: rest => .ok (String.ofList acc.reverse, rest)
  | fuel + 1, acc, '\\' :: 'u' :: rest =>
    match unicodeEscape? rest with
    | some (c, rest) => stringBody fuel (c :: acc) rest
    | none => .error .malformed
  | fuel + 1, acc, '\\' :: e :: rest =>
    match escape? e with
    | some c => stringBody fuel (c :: acc) rest
    | none => .error .malformed
  | fuel + 1, acc, c :: rest =>
    if c.toNat < 0x20 ∨ c = '\\' then .error .malformed else stringBody fuel (c :: acc) rest

def string (cs : List Char) : Step String := stringBody (cs.length + 1) [] cs

/-- ASCII digits at the start of a text, and the rest. -/
def digits (cs : List Char) : List Char × List Char := cs.span Char.isDigit

def decimalValue (ds : List Char) : Nat := ds.foldl (fun n d => 10 * n + (d.toNat - 48)) 0

/-- The digits after a point, when there are some. -/
def fraction? : List Char → Option (List Char × List Char)
  | '.' :: rest =>
    match digits rest with
    | ([], _) => none
    | (ds, rest) => some (ds, rest)
  | _ => none

def exponent? : List Char → Option (Int × List Char)
  | c :: rest =>
    if c = 'e' ∨ c = 'E' then
      let (negative, body) := Number.splitSign rest
      match digits body with
      | ([], _) => none
      | (ds, rest) =>
        let n : Int := decimalValue ds
        some (if negative then -n else n, rest)
    else none
  | [] => none

/-- The whole part of a number: a zero alone, or digits that start with another one. -/
def wholeDigits? : List Char → Option (List Char × List Char)
  | '0' :: rest => some (['0'], rest)
  | cs =>
    match digits cs with
    | ([], _) => none
    | (ds, rest) => some (ds, rest)

/-- A number, after its sign. -/
def number (negative : Bool) (cs : List Char) : Step Value :=
  match wholeDigits? cs with
  | none => .error .malformed
  | some (whole, rest) =>
    let frac := fraction? rest
    let rest := (frac.map (·.2)).getD rest
    let power := exponent? rest
    let rest := (power.map (·.2)).getD rest
    if frac.isNone && power.isNone then
      if Number.digitLimit < whole.length then .error (.tooLong whole.length)
      else
        let n : Int := decimalValue whole
        .ok (.int (if negative then -n else n), rest)
    else
      let fs := (frac.map (·.1)).getD []
      let e := (power.map (·.1)).getD 0
      .ok (.float (.ofDecimal negative (decimalValue (whole ++ fs)) (e - fs.length)), rest)

def afterWord? (word : String) (cs : List Char) : Option (List Char) :=
  if word.toList.isPrefixOf cs then some (cs.drop word.length) else none

def wordValues : List (String × Value) := [
  ("null", .null), ("true", .bool true), ("false", .bool false), ("NaN", .float .nan),
  ("Infinity", .float (.infinite false)), ("-Infinity", .float (.infinite true))]

def scalar (cs : List Char) : Step Value :=
  match wordValues.findSome? fun (word, v) => (afterWord? word cs).map fun rest => (v, rest) with
  | some step => .ok step
  | none =>
    match cs with
    | '-' :: rest => number true rest
    | cs => number false cs

mutual

/-- A value at the start of a text; `fuel` bounds the parts read. -/
def value : Nat → List Char → Except ReadError (Value × List Char)
  | 0, _ => .error .malformed
  | fuel + 1, cs =>
    match cs with
    | '"' :: rest => (string rest).map fun (s, rest) => (.str s, rest)
    | '[' :: rest =>
      match skipSpace rest with
      | ']' :: rest => .ok (.list [], rest)
      | rest => items fuel [] rest
    | '{' :: rest =>
      match skipSpace rest with
      | '}' :: rest => .ok (.dict [], rest)
      | rest => members fuel [] rest
    | cs => scalar cs

/-- The items of a list from the next one on, given those before, last one first. -/
def items : Nat → List Value → List Char → Except ReadError (Value × List Char)
  | 0, _, _ => .error .malformed
  | fuel + 1, acc, cs => do
    let (v, rest) ← value fuel cs
    match skipSpace rest with
    | ',' :: rest => items fuel (v :: acc) (skipSpace rest)
    | ']' :: rest => .ok (.list (v :: acc).reverse, rest)
    | _ => .error .malformed

/-- The members of an object from the next one on, given those before. -/
def members :
    Nat → List (Value × Value) → List Char → Except ReadError (Value × List Char)
  | 0, _, _ => .error .malformed
  | fuel + 1, acc, cs =>
    match cs with
    | '"' :: rest => do
      let (key, rest) ← string rest
      match skipSpace rest with
      | ':' :: rest =>
        let (v, rest) ← value fuel (skipSpace rest)
        let acc := Value.put (.str key) v acc
        match skipSpace rest with
        | ',' :: rest => members fuel acc (skipSpace rest)
        | '}' :: rest => .ok (.dict acc, rest)
        | _ => .error .malformed
      | _ => .error .malformed
    | _ => .error .malformed

end

def read (s : String) : Except ReadError Value := do
  let cs := s.toList
  let (v, rest) ← value (cs.length + 1) (skipSpace cs)
  if (skipSpace rest).isEmpty then .ok v else .error .malformed

end LineAudit.Json
