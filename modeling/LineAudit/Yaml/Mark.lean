/-!
Places in a YAML text, and the classes of characters that its grammar knows.

The end of the text is treated as a character of its own, which no text holds.
-/

namespace LineAudit.Yaml

/-- A place: how many characters lie before it, and its line and column from 0 on. -/
structure Mark where
  index : Nat
  line : Nat
  column : Nat
  deriving DecidableEq, Repr, Inhabited

/-- What stands for the end of a text. -/
def textEnd : Char := '\x00'

def isLineBreak (c : Char) : Bool :=
  c = '\n' || c = '\r' || c = '\x85' || c = '\u2028' || c = '\u2029'

/-- The end of a line or of the text. -/
def endsLine (c : Char) : Bool := c = textEnd || isLineBreak c

/-- A space, or the end of a line or of the text. -/
def endsWord (c : Char) : Bool := c = ' ' || endsLine c

/-- A space, a tab, or the end of a line or of the text. -/
def isGap (c : Char) : Bool := c = '\t' || endsWord c

/-- A space or a tab. -/
def isPadding (c : Char) : Bool := c = ' ' || c = '\t'

/-- A character of a name: a letter or digit of ASCII, a hyphen or an underscore. -/
def isNameChar (c : Char) : Bool := c.isAlphanum || c = '-' || c = '_'

def isHex (c : Char) : Bool := c.isDigit || 'a' ≤ c && c ≤ 'f' || 'A' ≤ c && c ≤ 'F'

namespace Mark

def start : Mark := ⟨0, 0, 0⟩

/-- The place after a character, which `next` follows. A byte order mark takes no column. -/
def after (m : Mark) (c next : Char) : Mark :=
  if c = '\n' ∨ c = '\x85' ∨ c = '\u2028' ∨ c = '\u2029' ∨ (c = '\r' ∧ next ≠ '\n') then
    ⟨m.index + 1, m.line + 1, 0⟩
  else if c = '\uFEFF' then { m with index := m.index + 1 }
  else ⟨m.index + 1, m.line, m.column + 1⟩

/-- A place in a file, with line and column from 1 on. -/
def text (file : String) (m : Mark) : String :=
  s!"  in \"{file}\", line {m.line + 1}, column {m.column + 1}"

end Mark

end LineAudit.Yaml
