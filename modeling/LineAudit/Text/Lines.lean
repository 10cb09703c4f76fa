/-!
Splitting a text into lines.

A line ends at a carriage return, at a line feed, or at both in this order. Nothing else ends a
line: form feeds and the separators of typography are characters like any other. A line end that
closes the text opens no further line.
-/

namespace LineAudit.Text

/-- The lines of a text, with `line` the characters of the line in progress, last one first. The
last piece is kept even when it is empty. -/
def piecesFrom (line : List Char) : List Char → List (List Char)
  | [] => [line.reverse]
  | '\r' :: '\n' :: rest => line.reverse :: piecesFrom [] rest
  | '\r' :: rest => line.reverse :: piecesFrom [] rest
  | '\n' :: rest => line.reverse :: piecesFrom [] rest
  | c :: rest => piecesFrom (c :: line) rest

/-- Leaves out an empty last piece. -/
def dropEmptyLast : List (List Char) → List (List Char)
  | [] => []
  | [last] => if last.isEmpty then [] else [last]
  | piece :: rest => piece :: dropEmptyLast rest

def lines (s : String) : List String := (dropEmptyLast (piecesFrom [] s.toList)).map String.ofList

def unifyLineEnds : List Char → List Char
  | [] => []
  | '\r' :: '\n' :: rest => '\n' :: unifyLineEnds rest
  | '\r' :: rest => '\n' :: unifyLineEnds rest
  | c :: rest => c :: unifyLineEnds rest

/-- The characters at which a paragraph may be broken: line ends, form feeds, the information
separators, and the line and paragraph separators. -/
def isBreak (c : Char) : Bool :=
  let n := c.toNat
  0xa ≤ n && n ≤ 0xd || 0x1c ≤ n && n ≤ 0x1e || n = 0x85 || n = 0x2028 || n = 0x2029

/-- What stands before the first break of a text. -/
def firstStretch (s : String) : String := String.ofList (s.toList.takeWhile fun c => !isBreak c)

end LineAudit.Text
