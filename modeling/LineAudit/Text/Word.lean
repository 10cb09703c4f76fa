import LineAudit.Text.Alphabetic
import LineAudit.Text.Digit

/-!
Word characters: letters, numerals and the underscore.
-/

namespace LineAudit.Text

def isAlphanumeric (c : Char) : Bool := isLetter c || isDigit c || isNumeral c

def isWordChar (c : Char) : Bool := c = '_' || isAlphanumeric c

end LineAudit.Text
