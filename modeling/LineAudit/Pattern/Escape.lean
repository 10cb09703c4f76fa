import LineAudit.Json.Reader
import LineAudit.Pattern.Cursor
import LineAudit.Text.CharacterName

/-!
Escapes in patterns: a backslash and what it stands for, inside and outside of character sets.
-/

namespace LineAudit.Pattern

def isOctalDigit (c : Char) : Bool := '0' ≤ c && c ≤ '7'

def isHexDigit (c : Char) : Bool := (Json.hexValue? c).isSome

def octalValue (ds : List Char) : Nat := ds.foldl (fun n d => 8 * n + (d.toNat - 48)) 0

def hexValue (ds : List Char) : Nat :=
  ds.foldl (fun n d => 16 * n + (Json.hexValue? d).getD 0) 0

def controlEscape? : Char → Option Nat
  | 'a' => some 0x7
  | 'b' => some 0x8
  | 'f' => some 0xc
  | 'n' => some 0xa
  | 'r' => some 0xd
  | 't' => some 0x9
  | 'v' => some 0xb
  | '\\' => some 0x5c
  | _ => none

def categoryEscape? : Char → Option Item
  | 'd' => some (.category false .digit)
  | 'D' => some (.category true .digit)
  | 's' => some (.category false .space)
  | 'S' => some (.category true .space)
  | 'w' => some (.category false .word)
  | 'W' => some (.category true .word)
  | _ => none

def placeEscape? : Char → Option Place
  | 'A' => some .textStart
  | 'b' => some .boundary
  | 'B' => some .nonBoundary
  | 'Z' => some .textStop
  | _ => none

namespace Reading

/-- The character whose code has exactly `count` hexadecimal digits, after the piece `head`. -/
def hexEscape (head : List Char) (count : Nat) : Reading Nat := do
  let ds ← takeWhile isHexDigit count
  let escape := head ++ ds
  if ds.length != count then
    failBack escape.length (.incompleteEscape (String.ofList escape))
  else if 0x10ffff < hexValue ds then
    failBack escape.length (.badEscape (String.ofList escape))
  else return hexValue ds

def namedEscape : Reading Nat := do
  if ← accept '{' then
    let name ← takeName '}' "character name"
    match Text.characterNamed? (String.ofList name) with
    | some n => return n
    | none => failBack (name.length + 4) (.undefinedCharacter (String.ofList name))
  else fail .missingBrace

/-- The character that an octal number names, given its digits with the backslash. -/
def octalEscape (escape : List Char) : Reading Nat :=
  let n := octalValue (escape.drop 1)
  if 0o377 < n then failBack escape.length (.octalTooLarge (String.ofList escape)) else pure n

/-- An escape that stands for a character by its code or name, or for itself. -/
def characterEscape (escape : List Char) (c : Char) : Reading Nat :=
  match c with
  | 'x' => hexEscape escape 2
  | 'u' => hexEscape escape 4
  | 'U' => hexEscape escape 8
  | 'N' => namedEscape
  | c =>
    if c.isAlphanum then failBack escape.length (.badEscape (String.ofList escape))
    else pure c.toNat

def setEscape (escape : List Char) (c : Char) : Reading Item := do
  match controlEscape? c, categoryEscape? c with
  | some n, _ => return .char n
  | none, some item => return item
  | none, none =>
    if isOctalDigit c then
      let more ← takeWhile isOctalDigit 2
      return .char (← octalEscape (escape ++ more))
    else return .char (← characterEscape escape c)

def groupReference (escape : List Char) : Reading Node := do
  let index := Json.decimalValue (escape.drop 1)
  if index < (← groupCount) then
    if (← width? index).isNone then failBack escape.length .openGroup
    else
      checkLookbehind index
      return .reference index
  else failBack (escape.length - 1) (.invalidReference index)

/-- An escape that starts with a digit other than zero: an octal number of three digits, or else
the number of a group. -/
def digitEscape (escape : List Char) : Reading Node := do
  let second ← takeWhile Char.isDigit 1
  let escape := escape ++ second
  if second.length = 1 ∧ (escape.drop 1).all isOctalDigit then
    let third ← takeWhile isOctalDigit 1
    if third.isEmpty then groupReference escape
    else return .literal (← octalEscape (escape ++ third))
  else groupReference escape

def nodeEscape (escape : List Char) (c : Char) : Reading Node := do
  match placeEscape? c, categoryEscape? c, controlEscape? c with
  | some p, _, _ => return .place p
  | none, some item, _ => return .set false [item]
  | none, none, some n => return .literal n
  | none, none, none =>
    if c = '0' then
      let more ← takeWhile isOctalDigit 2
      return .literal (octalValue more)
    else if c.isDigit then digitEscape escape
    else return .literal (← characterEscape escape c)

end Reading

end LineAudit.Pattern
