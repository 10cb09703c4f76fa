/-!
The flags of a pattern, as letters that stand in it.

At most one of the letters that choose an alphabet holds at a place: a group that names one puts it
in the place of the one outside.
-/

namespace LineAudit.Pattern

inductive Flag
  | ascii
  | ignoreCase
  | locale
  | multiline
  | dotAll
  | template
  | unicode
  | verbose
  deriving DecidableEq, Repr

namespace Flag

def ofLetter? : Char → Option Flag
  | 'a' => some ascii
  | 'i' => some ignoreCase
  | 'L' => some locale
  | 'm' => some multiline
  | 's' => some dotAll
  | 't' => some template
  | 'u' => some unicode
  | 'x' => some verbose
  | _ => none

/-- The flags that choose an alphabet. -/
def isAlphabet : Flag → Bool
  | ascii | locale | unicode => true
  | _ => false

/-- The flags that hold for a whole pattern only. -/
def isGlobal : Flag → Bool
  | template => true
  | _ => false

end Flag

abbrev Flags := List Flag

def Flags.within (outer add del : Flags) : Flags :=
  let kept := if add.any Flag.isAlphabet then outer.filter fun f => !f.isAlphabet else outer
  (kept ++ add).filter fun f => !del.contains f

end LineAudit.Pattern
