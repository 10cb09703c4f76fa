import LineAudit.Yaml.Directive

/-!
Scalars in quotes.

In single quotes a quote is written twice and nothing else is special. In double quotes a backslash
starts an escape. A line end in a quoted scalar counts as a space, and blank lines after it as line
ends.
-/

namespace LineAudit.Yaml

def namedEscapes : List (Char × Char) :=
  [('0', '\x00'), ('a', '\x07'), ('b', '\x08'), ('t', '\t'), ('\t', '\t'), ('n', '\n'),
    ('v', '\x0b'), ('f', '\x0c'), ('r', '\r'), ('e', '\x1b'), (' ', ' '), ('"', '"'), ('\\', '\\'),
    ('/', '/'), ('N', '\x85'), ('_', '\xa0'), ('L', '\u2028'), ('P', '\u2029')]

def escapeWidth? (c : Char) : Option Nat :=
  if c = 'x' then some 2 else if c = 'u' then some 4 else if c = 'U' then some 8 else none

/-- A character or half a pair of code units. -/
inductive QuotedUnit
  | char (c : Char)
  | high (n : Nat)
  | low (n : Nat)

def QuotedUnit.ofCode (n : Nat) : QuotedUnit :=
  if 0xd800 ≤ n ∧ n < 0xdc00 then high (n - 0xd800)
  else if 0xdc00 ≤ n ∧ n < 0xe000 then low (n - 0xdc00)
  else char (Char.ofNat n)

/-- Characters of units: two halves in their order make a character, and a half
alone, which is none, is replaced. -/
def joinUnits : List QuotedUnit → List Char
  | [] => []
  | .high h :: .low l :: rest => Char.ofNat (0x10000 + 0x400 * h + l) :: joinUnits rest
  | .char c :: rest => c :: joinUnits rest
  | .high _ :: rest => '\uFFFD' :: joinUnits rest
  | .low _ :: rest => '\uFFFD' :: joinUnits rest

namespace Scan

def badHex? (n : Nat) : Scan (Option Char) := do
  let ahead := (← get).rest.take n
  match ahead.find? (fun c => !isHex c) with
  | some c => return some c
  | none => return if ahead.length < n then some textEnd else none

def hexEscape (start : Mark) (width : Nat) : Scan (List QuotedUnit) := do
  match ← badHex? width with
  | some c => failIn .doubleQuoted start (.expectedHex width c)
  | none =>
    let n := hexNumber ((← get).rest.take width)
    if 0x7fffffff < n then throw (.mishap .tooLarge)
    if 0x10ffff < n then throw (.mishap (.badValue "chr() arg not in range(0x110000)"))
    skip width
    return [.ofCode n]

def quotedBreaks (start : Mark) (breaks : List Char) : Nat → Scan (List Char)
  | 0 => pure breaks
  | fuel + 1 => do
    if ← atSeparator then failIn .quoted start .documentSeparator
    skipWhile isPadding
    if isLineBreak (← peek) then
      let line ← lineBreak
      quotedBreaks start (breaks ++ line) fuel
    else return breaks

def quotedEscape (start : Mark) : Scan (List QuotedUnit) := do
  let c ← peek
  match namedEscapes.lookup c, escapeWidth? c with
  | some meant, _ =>
    skip 1
    return [.char meant]
  | none, some width =>
    skip 1
    hexEscape start width
  | none, none =>
    if isLineBreak c then
      let _ ← lineBreak
      let breaks ← quotedBreaks start [] ((← get).rest.length + 1)
      return breaks.map .char
    else failIn .doubleQuoted start (.unknownEscape c)

def isPlainQuoted (c : Char) : Bool := c != '\'' && c != '"' && c != '\\' && !isGap c

def quotedText (isDouble : Bool) (start : Mark) (acc : List QuotedUnit) :
    Nat → Scan (List QuotedUnit)
  | 0 => pure acc
  | fuel + 1 => do
    let plain ← takeWhile isPlainQuoted
    let acc := acc ++ plain.map .char
    let c ← peek
    if !isDouble && c == '\'' && (← peekAt 1) == '\'' then
      skip 2
      quotedText isDouble start (acc ++ [.char '\'']) fuel
    else if isDouble && c == '\'' || !isDouble && (c == '"' || c == '\\') then
      skip 1
      quotedText isDouble start (acc ++ [.char c]) fuel
    else if isDouble && c == '\\' then
      skip 1
      let escaped ← quotedEscape start
      quotedText isDouble start (acc ++ escaped) fuel
    else return acc

def foldedBreaks (line breaks : List Char) : List Char :=
  if line != ['\n'] then line ++ breaks else if breaks.isEmpty then [' '] else breaks

def quotedGap (start : Mark) : Scan (List QuotedUnit) := do
  let blanks ← takeWhile isPadding
  let c ← peek
  if c = textEnd then failIn .quoted start .streamEnd
  else if isLineBreak c then
    let line ← lineBreak
    let breaks ← quotedBreaks start [] ((← get).rest.length + 1)
    return (foldedBreaks line breaks).map .char
  else return blanks.map .char

/-- Takes the inside of a quoted scalar, up to the closing quote. -/
def quotedInside (isDouble : Bool) (start : Mark) (acc : List QuotedUnit) :
    Nat → Scan (List QuotedUnit)
  | 0 => pure acc
  | fuel + 1 => do
    if (← peek) = (if isDouble then '"' else '\'') then return acc
    let gap ← quotedGap start
    let text ← quotedText isDouble start [] ((← get).rest.length + 1)
    quotedInside isDouble start (acc ++ gap ++ text) fuel

def quotedScalar (isDouble : Bool) : Scan Unit := do
  let start ← here
  skip 1
  let fuel := (← get).rest.length + 1
  let first ← quotedText isDouble start [] fuel
  let units ← quotedInside isDouble start first fuel
  skip 1
  push ⟨.scalar (joinUnits units) false, start, ← here⟩

end Scan

end LineAudit.Yaml
