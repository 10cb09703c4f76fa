import LineAudit.CommandLine.Parameter
import LineAudit.Text.Digit

/-!
The words of a command line, each taken for itself.

Up to the word of two hyphens, words that start with a hyphen name parameters. A long name may be
cut short as long as it fits one parameter only, and may bring a value behind an equals sign; a
single hyphen may be followed by several letters. What looks like a negative number, holds a space
or is the hyphen alone names nothing.
-/

namespace LineAudit.CommandLine

inductive Word
  /-- A word that names no parameter. -/
  | plain (text : String)
  /-- The first word of two hyphens, behind which no word names a parameter. -/
  | divider
  /-- A parameter, with the value in the same word if there is one. -/
  | named (p : Parameter) (value? : Option String)
  /-- A letter with more behind it. -/
  | letters (p : Parameter) (more : List Char)
  /-- A word that would name a parameter, if there were such a one. -/
  | unknown (text : String)
  deriving DecidableEq, Repr

/-- A name that fits several parameters. -/
structure AmbiguousWord where
  text : String
  candidates : List Parameter
  deriving DecidableEq, Repr

/-- Characters before and after the first equals sign, if there is one. -/
def cutAtEquals (cs : List Char) : List Char × Option (List Char) :=
  match cs.dropWhile (· ≠ '=') with
  | [] => (cs, none)
  | _ :: value => (cs.takeWhile (· ≠ '='), some value)

def dropLastBreak (cs : List Char) : List Char :=
  if cs.getLast? = some '\n' then cs.dropLast else cs

/-- Digits, with at most one point among or before them. -/
def isUnsigned (cs : List Char) : Bool :=
  match cs.dropWhile Text.isDigit with
  | [] => !cs.isEmpty
  | '.' :: rest => !rest.isEmpty && rest.all Text.isDigit
  | _ => false

/-- What looks like a negative number. A line break at the end does not count. -/
def isNegativeNumber (s : String) : Bool :=
  match s.toList with
  | '-' :: rest => isUnsigned (dropLastBreak rest)
  | _ => false

namespace Word

def ofStray (s : String) : Word :=
  if isNegativeNumber s || s.toList.contains ' ' then plain s else unknown s

def ofLong (s : String) : Except AmbiguousWord Word :=
  let (front, value?) := cutAtEquals s.toList
  let name := String.ofList front
  let value? := value?.map String.ofList
  match Parameter.ofName? name with
  | some p => .ok (named p value?)
  | none =>
    match Parameter.startingWith name with
    | [] => .ok (ofStray s)
    | [p] => .ok (named p value?)
    | candidates => .error ⟨s, candidates⟩

def ofLetter (s : String) (letter : Char) (more : List Char) : Word :=
  match Parameter.ofLetter? letter with
  | none => ofStray s
  | some p =>
    match more with
    | [] => named p none
    | '=' :: value => named p (some (String.ofList value))
    | more => letters p more

def ofText (s : String) : Except AmbiguousWord Word :=
  match s.toList with
  | '-' :: '-' :: _ => ofLong s
  | '-' :: letter :: more => .ok (ofLetter s letter more)
  | _ => .ok (plain s)

def ofTexts : List String → Except AmbiguousWord (List Word)
  | [] => .ok []
  | s :: rest =>
    if s = "--" then .ok (divider :: rest.map plain)
    else match ofText s, ofTexts rest with
      | .ok word, .ok words => .ok (word :: words)
      | .error e, _ | .ok _, .error e => .error e

end Word

end LineAudit.CommandLine
