import LineAudit.Number.Literal
import LineAudit.Text.Utf8
import LineAudit.Yaml.Scan

/-!
Tags, anchors, aliases and directives.
-/

namespace LineAudit.Yaml

/-- What a part of a tag is read for, which shows in messages. -/
inductive TagUse
  | tag
  | directive
  deriving DecidableEq, Repr

def TagUse.scanning : TagUse → Activity
  | tag => .tag
  | directive => .directive

def TagUse.parsing : TagUse → Activity
  | tag => .tagStart
  | directive => .directiveStart

def isUriChar (c : Char) : Bool :=
  c.isAlphanum || "-;/?:@&=+$,_.!~*'()[]%".toList.contains c

def hexDigitValue (c : Char) : Nat :=
  if c.isDigit then c.toNat - 48 else if 'a' ≤ c then c.toNat - 87 else c.toNat - 55

def hexNumber (ds : List Char) : Nat := ds.foldl (fun n d => 16 * n + hexDigitValue d) 0

/-- Whether bytes that follow a leading byte continue it. -/
def continuationFits (lead next : UInt8) : Bool :=
  let low : UInt8 := if lead = 0xe0 then 0xa0 else if lead = 0xf0 then 0x90 else 0x80
  let high : UInt8 := if lead = 0xed then 0x9f else if lead = 0xf4 then 0x8f else 0xbf
  low ≤ next && next ≤ high

/-- How many bytes a leading byte starts, if it starts any. -/
def sequenceLength? (lead : UInt8) : Option Nat :=
  if lead < 0x80 then some 1
  else if 0xc2 ≤ lead && lead ≤ 0xdf then some 2
  else if 0xe0 ≤ lead && lead ≤ 0xef then some 3
  else if 0xf0 ≤ lead && lead ≤ 0xf4 then some 4
  else none

/-- How many of the bytes after a leading byte continue it, out of `count` wanted ones. -/
def continuations (lead : UInt8) (count : Nat) (bytes : List UInt8) : Nat :=
  match bytes with
  | [] => 0
  | next :: rest =>
    if count = 0 then 0
    else if continuationFits lead next then
      1 + ((rest.take (count - 1)).takeWhile fun b => 0x80 ≤ b && b ≤ 0xbf).length
    else 0

/-- Why bytes are no text in UTF-8; `position` counts the bytes before, `fuel` bounds the rest. -/
def decodingFault (position : Nat) : Nat → List UInt8 → String
  | 0, _ => ""
  | _, [] => ""
  | fuel + 1, lead :: rest =>
    let code := String.ofList (Text.hexDigits 2 lead.toNat)
    let single := fun (reason : String) =>
      s!"'utf-8' codec can't decode byte 0x{code} in position {position}: " ++ reason
    match sequenceLength? lead with
    | none => single "invalid start byte"
    | some n =>
      let got := continuations lead (n - 1) rest
      if got = n - 1 then decodingFault (position + n) fuel (rest.drop (n - 1))
      else
        let reason :=
          if rest.length = got then "unexpected end of data" else "invalid continuation byte"
        if got = 0 then single reason
        else
          s!"'utf-8' codec can't decode bytes in position {position}-{position + got}: " ++ reason

namespace Scan

/-- Takes the name of an anchor, alias or directive. -/
def name (activity : Activity) (start : Mark) : Scan String := do
  let name ← takeWhile isNameChar
  if name.isEmpty then failIn activity start (.expectedName (← peek))
  return String.ofList name

def anchorToken (isAlias : Bool) : Scan Unit := do
  let start ← here
  skip 1
  let activity : Activity := if isAlias then .aliasName else .anchor
  let name ← name activity start
  let c ← peek
  if !isGap c && !"?:,]\x7d%@`".toList.contains c then failIn activity start (.expectedName c)
  push ⟨if isAlias then .aliasName name else .anchor name, start, ← here⟩

/-- Takes bytes written as two hexadecimal digits each after a per cent sign. -/
def uriBytes (use : TagUse) (start : Mark) (acc : List UInt8) : Nat → Scan (List UInt8)
  | 0 => pure acc
  | fuel + 1 => do
    if (← peek) = '%' then
      skip 1
      let first ← peek
      if !isHex first then failIn use.scanning start (.expectedUriEscape first)
      let second ← peekAt 1
      if !isHex second then failIn use.scanning start (.expectedUriEscape second)
      skip 2
      uriBytes use start (acc ++ [UInt8.ofNat (hexNumber [first, second])]) fuel
    else return acc

def uriEscapes (use : TagUse) (start : Mark) : Scan (List Char) := do
  let mark ← here
  let bytes ← uriBytes use start [] ((← get).rest.length + 1)
  match Text.decode? ⟨bytes.toArray⟩ with
  | some text => return text.toList
  | none =>
    throw (.fault (.found (some (use.scanning, some start))
      (.badUriText (decodingFault 0 bytes.length bytes)) mark))

/-- Takes an address, piece by piece. -/
def uriPieces (use : TagUse) (start : Mark) (acc : List Char) : Nat → Scan (List Char)
  | 0 => pure acc
  | fuel + 1 => do
    let piece ← takeWhile fun c => isUriChar c && c != '%'
    if (← peek) = '%' then
      let escaped ← uriEscapes use start
      uriPieces use start (acc ++ piece ++ escaped) fuel
    else return acc ++ piece

def tagUri (use : TagUse) (start : Mark) : Scan String := do
  let before ← here
  let uri ← uriPieces use start [] ((← get).rest.length + 1)
  if (← here).index = before.index then failIn use.parsing start (.expectedUri (← peek))
  return String.ofList uri

def tagHandle (use : TagUse) (start : Mark) : Scan String := do
  let c ← peek
  if c ≠ '!' then failIn use.scanning start (.expectedBang c)
  skip 1
  if (← peek) = ' ' then return "!"
  let name ← takeWhile isNameChar
  let c ← peek
  if c ≠ '!' then failIn use.scanning start (.expectedBang c)
  skip 1
  return String.ofList ('!' :: name ++ ['!'])

/-- The tag between here and the next blank has a second exclamation mark. -/
def hasHandle : Scan Bool := do
  let word := ((← get).rest.drop 1).takeWhile fun c => !endsWord c
  return word.contains '!'

def tagToken : Scan Unit := do
  let start ← here
  let c ← peekAt 1
  let (handle?, suffix) ← do
    if c = '<' then
      skip 2
      let uri ← tagUri .tag start
      let closing ← peek
      if closing ≠ '>' then failIn .tagStart start (.expectedAngle closing)
      skip 1
      pure (none, uri)
    else if isGap c then
      skip 1
      pure (none, "!")
    else
      let handle ← if ← hasHandle then tagHandle .tag start else do
        skip 1
        pure "!"
      pure (some handle, ← tagUri .tag start)
  let c ← peek
  if !endsWord c then failIn .tag start (.expectedSpace c)
  push ⟨.tag handle? suffix, start, ← here⟩

def versionNumber (start : Mark) : Scan Nat := do
  let ds ← takeWhile Char.isDigit
  if ds.isEmpty then failIn .directive start (.expectedDigit (← peek))
  if Number.digitLimit < ds.length then
    throw (.mishap (.badValue (Number.tooLongText ds.length)))
  return Number.ofDigits 10 (ds.map fun d => d.toNat - 48)

def versionDirective (start : Mark) : Scan TokenKind := do
  skipSpaces
  let major ← versionNumber start
  let c ← peek
  if c ≠ '.' then failIn .directive start (.expectedDigitOrPoint c)
  skip 1
  let _ ← versionNumber start
  let c ← peek
  if !endsWord c then failIn .directive start (.expectedDigitOrSpace c)
  return .version major

def handleDirective (start : Mark) : Scan TokenKind := do
  skipSpaces
  let handle ← tagHandle .directive start
  let c ← peek
  if c ≠ ' ' then failIn .directive start (.expectedSpace c)
  skipSpaces
  let lead ← tagUri .directive start
  let c ← peek
  if !endsWord c then failIn .directive start (.expectedSpace c)
  return .handle handle lead

/-- Takes spaces and a comment up to the end of a line, and the line end. -/
def restOfLine (activity : Activity) (start : Mark) : Scan Unit := do
  skipSpaces
  if (← peek) = '#' then skipWhile fun c => !endsLine c
  let c ← peek
  if !endsLine c then failIn activity start (.expectedLineEnd c)
  let _ ← lineBreak

def directiveToken : Scan Unit := do
  let start ← here
  skip 1
  let name ← name .directive start
  let c ← peek
  if !endsWord c then failIn .directive start (.expectedName c)
  let kind ← match name with
    | "YAML" => versionDirective start
    | "TAG" => handleDirective start
    | _ => do
      skipWhile fun c => !endsLine c
      pure .otherDirective
  let stop ← here
  restOfLine .directive start
  push ⟨kind, start, stop⟩

end Scan

end LineAudit.Yaml
