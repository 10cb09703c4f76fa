import LineAudit.Pattern.Node
import LineAudit.Text.Blank
import LineAudit.Text.Fold
import LineAudit.Text.Word

/-!
Which characters a literal or a set of a pattern admits, under the flags at its place.

With letter case ignored, a literal admits what is alike in letter case, and a set is compared by
lower-case counterparts as soon as it holds a character that changes with letter case. The alphabet
in force says whether that and the named classes concern ASCII alone or every script.
-/

namespace LineAudit.Pattern

/-- How characters are compared with letter case ignored. -/
structure Folding where
  lower : Nat → Nat
  isCased : Nat → Bool
  /-- The lower-case characters that count as one. -/
  spellings : Nat → List Nat
  /-- The code points with a given lower-case counterpart. -/
  sources : Nat → List Nat
  /-- A range holds a cased character. -/
  hasCased : Nat → Nat → Bool

def isAsciiUpper (n : Nat) : Bool := 0x41 ≤ n && n ≤ 0x5a

def isAsciiLower (n : Nat) : Bool := 0x61 ≤ n && n ≤ 0x7a

def Folding.ascii : Folding where
  lower n := if isAsciiUpper n then n + 32 else n
  isCased n := isAsciiUpper n || isAsciiLower n
  spellings n := [n]
  sources n := if isAsciiUpper n then [] else if isAsciiLower n then [n, n - 32] else [n]
  hasCased lo hi := lo ≤ 0x5a && 0x41 ≤ hi || lo ≤ 0x7a && 0x61 ≤ hi

def Folding.unicode : Folding where
  lower := Text.lowerPoint
  isCased := Text.isCasedPoint
  spellings := Text.spellings
  sources := Text.lowerSources
  hasCased := Text.hasCased

/-- The folding in force, if letter case is ignored. -/
def folding? (flags : Flags) : Option Folding :=
  if flags.contains .ignoreCase then
    some (if flags.contains .unicode then .unicode else .ascii)
  else none

def isAsciiDigit (n : Nat) : Bool := 0x30 ≤ n && n ≤ 0x39

def isAsciiSpace (n : Nat) : Bool := n = 0x20 || 0x9 ≤ n && n ≤ 0xd

def isAsciiWord (n : Nat) : Bool :=
  isAsciiDigit n || isAsciiUpper n || isAsciiLower n || n = 0x5f

namespace Category

def has (unicode : Bool) (c : Category) (n : Nat) : Bool :=
  match c, unicode with
  | digit, true => Text.isDigit (Char.ofNat n)
  | space, true => Text.isBlank (Char.ofNat n)
  | word, true => Text.isWordChar (Char.ofNat n)
  | digit, false => isAsciiDigit n
  | space, false => isAsciiSpace n
  | word, false => isAsciiWord n

end Category

namespace Item

def has (unicode : Bool) : Item → Nat → Bool
  | char m, n => m == n
  | range lo hi, n => lo ≤ n && n ≤ hi
  | category negated c, n => c.has unicode n != negated

/-- Code points from here on are compared in sets without being lowered first. -/
def astral : Nat := 0x10000

/-- Whether a set with this member is compared by lower-case counterparts. -/
def folds (f : Folding) : Item → Bool
  | char n => f.isCased n || astral ≤ f.lower n
  | range lo hi => astral ≤ hi || f.hasCased lo hi
  | category _ _ => false

def hasFolded (f : Folding) (unicode : Bool) : Item → Nat → Bool
  | char m, n =>
    let low := f.lower m
    if astral ≤ low then m == n else (f.spellings low).contains n
  | range lo hi, n =>
    let near := (f.spellings n).any fun s =>
      (f.sources s).any fun m => lo ≤ m && m ≤ hi && m < astral
    let far := astral ≤ hi &&
      (lo ≤ n && n ≤ hi || lo ≤ Text.upperPoint n && Text.upperPoint n ≤ hi)
    near || far
  | category negated c, n => c.has unicode n != negated

end Item

def admitsLiteral (flags : Flags) (m n : Nat) : Bool :=
  match folding? flags with
  | none => m == n
  | some f => if f.isCased m then (f.spellings (f.lower m)).contains (f.lower n) else m == n

def admitsSet (flags : Flags) (negated : Bool) (items : List Item) (n : Nat) : Bool :=
  let unicode := flags.contains .unicode
  let found :=
    match folding? flags with
    | none => items.any (·.has unicode n)
    | some f =>
      if items.any (·.folds f) then items.any (·.hasFolded f unicode (f.lower n))
      else items.any (·.has unicode n)
  found != negated

/-- Two characters of a text are alike. -/
def alike (flags : Flags) (m n : Nat) : Bool :=
  match folding? flags with
  | none => m == n
  | some f => f.lower m == f.lower n

end LineAudit.Pattern
