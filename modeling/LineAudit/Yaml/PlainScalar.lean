import LineAudit.Yaml.QuotedScalar

/-!
Scalars without quotes.

Such a scalar ends at a colon before a blank and at a number sign after one. It may go on over
several lines that are indented more than the block around it.
-/

namespace LineAudit.Yaml

namespace Scan

/-- A character ends a piece of a plain scalar, given the character that follows it. -/
def endsPlain (isFlow : Bool) (c next : Char) : Bool :=
  isGap c || (c == ':' && (isGap next || isFlow && ",[]\x7b\x7d".toList.contains next)) ||
    isFlow && ",?[]\x7b\x7d".toList.contains c

/-- How many characters of a text are a piece of a plain scalar. -/
def plainLength (isFlow : Bool) : List Char → Nat
  | [] => 0
  | c :: rest => if endsPlain isFlow c (rest.headD textEnd) then 0 else plainLength isFlow rest + 1

/-- Takes blank lines and spaces after the end of a line in a plain scalar; none when a document
separator follows. -/
def plainBreaks (breaks : List Char) : Nat → Scan (Option (List Char))
  | 0 => pure none
  | fuel + 1 => do
    let c ← peek
    if c = ' ' then
      skip 1
      plainBreaks breaks fuel
    else if isLineBreak c then
      let line ← lineBreak
      if ← atSeparator then return none
      plainBreaks (breaks ++ line) fuel
    else return some breaks

def plainGap : Scan (List Char) := do
  let blanks ← takeWhile (· = ' ')
  if isLineBreak (← peek) then
    let line ← lineBreak
    allowKey true
    if ← atSeparator then return []
    match ← plainBreaks [] ((← get).rest.length + 1) with
    | none => return []
    | some breaks => return foldedBreaks line breaks
  else return blanks

/-- Takes the pieces of a plain scalar. The answer holds the text and the place after it. -/
def plainPieces (column : Int) (acc gap : List Char) (stop : Mark) :
    Nat → Scan (List Char × Mark)
  | 0 => pure (acc, stop)
  | fuel + 1 => do
    let s ← get
    let isFlow := s.flowLevel != 0
    let length := plainLength isFlow s.rest
    if (← peek) = '#' ∨ length = 0 then return (acc, stop)
    allowKey false
    let acc := acc ++ gap ++ s.rest.take length
    skip length
    let stop ← here
    let gap ← plainGap
    if gap.isEmpty || (← peek) == '#' || !isFlow && (← here).column < column then
      return (acc, stop)
    plainPieces column acc gap stop fuel

def plainScalar : Scan Unit := do
  let start ← here
  let s ← get
  let (text, stop) ← plainPieces (s.indent + 1) [] [] start (s.rest.length + 1)
  push ⟨.scalar text true, start, stop⟩

end Scan

end LineAudit.Yaml
