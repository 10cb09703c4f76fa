import LineAudit.Value.Display

/-!
Writing JSON texts, in ASCII.

Values that JSON does not know are written as their plain text. The members of lists and objects
stand each on a line of their own, two spaces further in, or all on one line.
-/

namespace LineAudit.Json

def unitEscape (n : Nat) : List Char := '\\' :: 'u' :: Text.hexDigits 4 n

/-- One character of a string: printable ASCII as it is, the rest by an escape. -/
def writeChar (c : Char) : List Char :=
  let n := c.toNat
  if c = '"' ∨ c = '\\' then ['\\', c]
  else if c = '\n' then ['\\', 'n']
  else if c = '\r' then ['\\', 'r']
  else if c = '\t' then ['\\', 't']
  else if c = '\x0c' then ['\\', 'f']
  else if c = '\x08' then ['\\', 'b']
  else if 0x20 ≤ n ∧ n ≤ 0x7e then [c]
  else if n < 0x10000 then unitEscape n
  else unitEscape (0xd800 + (n - 0x10000) / 0x400) ++ unitEscape (0xdc00 + (n - 0x10000) % 0x400)

def writeString (s : String) : String :=
  String.ofList ('"' :: s.toList.flatMap writeChar ++ ['"'])

def writeFloat : Binary64 → String
  | .nan => "NaN"
  | .infinite false => "Infinity"
  | .infinite true => "-Infinity"
  | x => x.text

def memberName : Value → String
  | .null => "null"
  | .bool true => "true"
  | .bool false => "false"
  | .float x => writeFloat x
  | v => v.text

/-- What stands between the parts of a list or object: after the opening bracket, between members,
and before the closing one. -/
structure Layout where
  /-- The width of one step to the right, or none when all stands on one line. -/
  step? : Option Nat

def Layout.compact : Layout := ⟨none⟩

/-- A line for each member, two spaces further in. -/
def Layout.indented : Layout := ⟨some 2⟩

def Layout.lineBreak (layout : Layout) (depth : Nat) : String :=
  match layout.step? with
  | none => ""
  | some width => "\n".pushn ' ' (width * depth)

def Layout.enclose (layout : Layout) (depth : Nat) (opening closing : String)
    (members : List String) : String :=
  if members.isEmpty then opening ++ closing
  else
    let between := if layout.step?.isSome then "," else ", "
    opening ++ layout.lineBreak (depth + 1) ++
      (between ++ layout.lineBreak (depth + 1)).intercalate members ++
      layout.lineBreak depth ++ closing

mutual

def writeAt (layout : Layout) (depth : Nat) : Value → String
  | .null => "null"
  | .bool true => "true"
  | .bool false => "false"
  | .int n => toString n
  | .float x => writeFloat x
  | .str s => writeString s
  | .list items => layout.enclose depth "[" "]" (writeItems layout (depth + 1) items)
  | .tuple items => layout.enclose depth "[" "]" (writeItems layout (depth + 1) items)
  | .dict entries =>
    layout.enclose depth "\x7b" "\x7d" (writeMembers layout (depth + 1) entries)
  | v => writeString v.text

def writeItems (layout : Layout) (depth : Nat) : List Value → List String
  | [] => []
  | item :: rest => writeAt layout depth item :: writeItems layout depth rest

def writeMembers (layout : Layout) (depth : Nat) : List (Value × Value) → List String
  | [] => []
  | (key, v) :: rest =>
    (writeString (memberName key) ++ ": " ++ writeAt layout depth v) ::
      writeMembers layout depth rest

end

def write (layout : Layout) (v : Value) : String := writeAt layout 0 v

end LineAudit.Json
