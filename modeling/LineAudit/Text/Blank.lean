import LineAudit.Text.Ranges

/-!
White space: the code points that separate words, among them line ends, tabs, the no-break space
and the spaces of typography.
-/

namespace LineAudit.Text

def blankRanges : Ranges := [
  (0x9, 0xd), (0x1c, 0x20), (0x85, 0x85), (0xa0, 0xa0), (0x1680, 0x1680), (0x2000, 0x200a),
  (0x2028, 0x2029), (0x202f, 0x202f), (0x205f, 0x205f), (0x3000, 0x3000)]

def isBlank (c : Char) : Bool := blankRanges.has c.toNat

def dropBlanks (cs : List Char) : List Char := cs.dropWhile isBlank

def dropBlanksEnd (cs : List Char) : List Char := (dropBlanks cs.reverse).reverse

def trimBlanks (cs : List Char) : List Char := dropBlanksEnd (dropBlanks cs)

def strip (s : String) : String := String.ofList (trimBlanks s.toList)

/-- A text of white space alone, the empty one included. -/
def isAllBlank (s : String) : Bool := s.toList.all isBlank

/-- The words of a text, with `word` the letters of the word in progress, last one first. -/
def wordsFrom (word : List Char) : List Char → List (List Char)
  | [] => if word.isEmpty then [] else [word.reverse]
  | c :: rest =>
    if isBlank c then
      if word.isEmpty then wordsFrom [] rest else word.reverse :: wordsFrom [] rest
    else wordsFrom (c :: word) rest

/-- The longest stretches of a text that hold no white space, in order. -/
def words (s : String) : List String := (wordsFrom [] s.toList).map String.ofList

/-- The text with each stretch of white space made one space, and none at the ends. -/
def collapseBlanks (s : String) : String := " ".intercalate (words s)

end LineAudit.Text
