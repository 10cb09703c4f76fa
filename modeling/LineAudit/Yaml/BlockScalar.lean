import LineAudit.Yaml.Directive

/-!
Scalars in block style, introduced by a vertical bar or by a greater-than sign.

A bar keeps line ends; a greater-than sign folds a single line end between two lines of text into a
space. What happens to the line ends at the end of the scalar is said by the sign in its header.
-/

namespace LineAudit.Yaml

/-- What becomes of the line ends at the end of a block scalar. -/
inductive Chomping
  /-- The last one stays. -/
  | clip
  | strip
  | keep
  deriving DecidableEq, Repr

namespace Scan

/-- Takes the sign in the header of a block scalar, if there is one. -/
def chomping? : Scan (Option Chomping) := do
  let c ← peek
  if c = '+' then
    skip 1
    return some .keep
  else if c = '-' then
    skip 1
    return some .strip
  else return none

/-- Takes the digit in the header of a block scalar, if there is one. -/
def indentDigit? (start : Mark) : Scan (Option Nat) := do
  let c ← peek
  if c = '0' then failIn .blockScalar start .zeroIndentation
  else if c.isDigit then
    skip 1
    return some (c.toNat - 48)
  else return none

/-- Takes the header of a block scalar: sign and digit in either order. -/
def blockHeader (start : Mark) : Scan (Chomping × Option Nat) := do
  let first? ← chomping?
  let digit? ← indentDigit? start
  let sign? ← if first?.isNone && digit?.isSome then chomping? else pure first?
  let c ← peek
  if !endsWord c then failIn .blockScalar start (.expectedIndicators c)
  return (sign?.getD .clip, digit?)

/-- Takes blank lines in front of a block scalar. The answer holds their ends and the largest
column up to which spaces reach. -/
def leadingBreaks (breaks : List Char) (widest : Nat) : Nat → Scan (List Char × Nat)
  | 0 => pure (breaks, widest)
  | fuel + 1 => do
    let c ← peek
    if c = ' ' then
      skip 1
      leadingBreaks breaks (max widest (← here).column) fuel
    else if isLineBreak c then
      let line ← lineBreak
      leadingBreaks (breaks ++ line) widest fuel
    else return (breaks, widest)

def indentUpTo (column : Nat) : Scan Unit := do
  let s ← get
  skip (min (column - s.mark.column) (s.rest.takeWhile (· = ' ')).length)

def blockBreaks (column : Nat) (breaks : List Char) : Nat → Scan (List Char)
  | 0 => pure breaks
  | fuel + 1 => do
    indentUpTo column
    if isLineBreak (← peek) then
      let line ← lineBreak
      blockBreaks column (breaks ++ line) fuel
    else return breaks

/-- What stands between two lines of a block scalar, the first of which starts with `lead` and the
second with `next`. -/
def blockJoint (isFolded : Bool) (lead next : Char) (line breaks : List Char) : List Char :=
  if isFolded && line == ['\n'] && !isPadding lead && !isPadding next then
    if breaks.isEmpty then [' '] else []
  else line

/-- Takes the lines of a block scalar from the indentation on. The answer holds the text, the end of
its last line and the ends of blank lines after it. -/
def blockLines (isFolded : Bool) (column : Nat) (acc breaks : List Char) :
    Nat → Scan (List Char × List Char × List Char)
  | 0 => pure (acc, [], breaks)
  | fuel + 1 => do
    let lead ← peek
    let text ← takeWhile fun c => !endsLine c
    let line ← lineBreak
    let acc := acc ++ breaks ++ text
    let breaks ← blockBreaks column [] fuel
    let next ← peek
    if (← here).column = column ∧ next ≠ textEnd then
      blockLines isFolded column (acc ++ blockJoint isFolded lead next line breaks) breaks fuel
    else return (acc, line, breaks)

def blockScalar (isFolded : Bool) : Scan Unit := do
  let start ← here
  skip 1
  let (chomping, digit?) ← blockHeader start
  restOfLine .blockScalar start
  let s ← get
  let fuel := s.rest.length + 1
  let least := (max 1 (s.indent + 1)).toNat
  let (column, breaks) ← match digit? with
    | none => do
      let (breaks, widest) ← leadingBreaks [] 0 fuel
      pure (max least widest, breaks)
    | some n => do
      let column := least + n - 1
      pure (column, ← blockBreaks column [] fuel)
  let (text, line, breaks) ←
    if (← here).column = column ∧ (← peek) ≠ textEnd then
      blockLines isFolded column [] breaks fuel
    else pure ([], [], breaks)
  let tail := match chomping with
    | .clip => line
    | .strip => []
    | .keep => line ++ breaks
  push ⟨.scalar (text ++ tail) false, start, ← here⟩

end Scan

end LineAudit.Yaml
