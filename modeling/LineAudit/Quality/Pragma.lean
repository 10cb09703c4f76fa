import LineAudit.Number.Literal
import LineAudit.Text.Word

/-!
Lines that say for which compiler versions a source file is written.

Such a line starts with two fixed words. The versions named in it are two or three numbers with
points between them, found from left to right wherever they stand.
-/

namespace LineAudit.Pragma

def afterWord? (word : List Char) (cs : List Char) : Option (List Char) :=
  if word.isPrefixOf cs then some (cs.drop word.length) else none

/-- What follows white space at the start of a text, of which there must be some. -/
def afterBlanks? : List Char → Option (List Char)
  | [] => none
  | c :: rest => if Text.isBlank c then some (Text.dropBlanks rest) else none

def endsWord : List Char → Bool
  | [] => true
  | c :: _ => !Text.isWordChar c

/-- What follows the two words that open a pragma, which end with a word. -/
def body? (line : List Char) : Option (List Char) := do
  let rest ← afterWord? "pragma".toList (Text.dropBlanks line)
  let rest ← afterWord? "solidity".toList (← afterBlanks? rest)
  if endsWord rest then some rest else none

def isPragma (line : String) : Bool := (body? line.toList).isSome

/-- What follows a third number of a version, if there is one. -/
def dropPatch : List Char → List Char
  | '.' :: rest => if (rest.head?.map Text.isDigit).getD false then rest.dropWhile Text.isDigit
    else '.' :: rest
  | rest => rest

/-- The first two numbers of each version in a text that is shorter than `fuel`, by their digits. -/
def versionDigits : Nat → List Char → List (List Char × List Char)
  | 0, _ => []
  | _ + 1, [] => []
  | fuel + 1, c :: rest =>
    if Text.isDigit c then
      let major := c :: rest.takeWhile Text.isDigit
      match rest.dropWhile Text.isDigit with
      | '.' :: rest =>
        let minor := rest.takeWhile Text.isDigit
        if minor.isEmpty then versionDigits fuel rest
        else (major, minor) :: versionDigits fuel (dropPatch (rest.dropWhile Text.isDigit))
      | rest => versionDigits fuel rest
    else versionDigits fuel rest

/-- The first two numbers of a version. -/
structure Version where
  major : Nat
  minor : Nat
  deriving DecidableEq, Repr

/-- The number that digits write, or how many digits are too many. -/
def readDigits (ds : List Char) : Except Nat Nat :=
  if Number.digitLimit < ds.length then .error ds.length
  else .ok (Number.ofDigits 10 (ds.filterMap Text.digitValue?))

def readVersion (digits : List Char × List Char) : Except Nat Version := do
  return ⟨← readDigits digits.1, ← readDigits digits.2⟩

def versions (s : String) : Except Nat (List Version) :=
  (versionDigits (s.length + 1) s.toList).mapM readVersion

/-- Arithmetic is checked from version 0.8 on. -/
def Version.isChecked (v : Version) : Bool := 0 < v.major || 8 ≤ v.minor

/-- Every version named in a text, and there is one, checks arithmetic. -/
def namesChecked (s : String) : Except Nat Bool :=
  match versions s with
  | .ok vs => .ok (!vs.isEmpty && vs.all Version.isChecked)
  | .error digits => .error digits

end LineAudit.Pragma
