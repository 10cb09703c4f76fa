import LineAudit.Number.Literal
import LineAudit.Pattern.Node
import LineAudit.Text.Quoted

/-!
What can be wrong with a pattern.
-/

namespace LineAudit.Pattern

inductive Fault
  | escapeAtEnd
  | badEscape (escape : String)
  | incompleteEscape (escape : String)
  | octalTooLarge (escape : String)
  | undefinedCharacter (name : String)
  | missingBrace
  | missingName (what : String)
  | unterminatedName (closing : Char)
  | unterminatedGroup
  | unterminatedComment
  | unterminatedSet
  | unexpectedEnd
  | badRange (first last : String)
  | leastAboveMost
  | nothingToRepeat
  | multipleRepeat
  | badGroupName (name : String)
  | unknownGroup (name : String)
  | badGroupNumber
  | invalidReference (index : Nat)
  | openGroup
  | sameLookbehind
  | redefinedGroup (name : String) (index earlier : Nat)
  | tooManyBranches
  | unknownExtension (text : String)
  | unbalanced
  | lateGlobalFlags
  | unknownFlag
  | missingFlagEnd
  | missingFlag
  | missingColon
  | localeFlag
  | alphabetsTogether
  | globalTurnedOn
  | globalTurnedOff
  | alphabetTurnedOff
  | onAndOff
  | variableLookbehind
  | lookbehindTooLong
  | templateRepeat (greed : Greed)
  deriving DecidableEq, Repr

def Greed.label : Greed → String
  | greedy => "MAX_REPEAT"
  | lazy => "MIN_REPEAT"
  | possessive => "POSSESSIVE_REPEAT"

def Fault.message : Fault → String
  | escapeAtEnd => "bad escape (end of pattern)"
  | badEscape escape => "bad escape " ++ escape
  | incompleteEscape escape => "incomplete escape " ++ escape
  | octalTooLarge escape => "octal escape value " ++ escape ++ " outside of range 0-0o377"
  | undefinedCharacter name => "undefined character name " ++ Text.quoted name
  | missingBrace => "missing \x7b"
  | missingName what => "missing " ++ what
  | unterminatedName closing => "missing " ++ closing.toString ++ ", unterminated name"
  | unterminatedGroup => "missing ), unterminated subpattern"
  | unterminatedComment => "missing ), unterminated comment"
  | unterminatedSet => "unterminated character set"
  | unexpectedEnd => "unexpected end of pattern"
  | badRange first last => "bad character range " ++ first ++ "-" ++ last
  | leastAboveMost => "min repeat greater than max repeat"
  | nothingToRepeat => "nothing to repeat"
  | multipleRepeat => "multiple repeat"
  | badGroupName name => "bad character in group name " ++ Text.quoted name
  | unknownGroup name => "unknown group name " ++ Text.quoted name
  | badGroupNumber => "bad group number"
  | invalidReference index => s!"invalid group reference {index}"
  | openGroup => "cannot refer to an open group"
  | sameLookbehind => "cannot refer to group defined in the same lookbehind subpattern"
  | redefinedGroup name index earlier =>
    "redefinition of group name " ++ Text.quoted name ++
      s!" as group {index}; was group {earlier}"
  | tooManyBranches => "conditional backref with more than two branches"
  | unknownExtension text => "unknown extension ?" ++ text
  | unbalanced => "unbalanced parenthesis"
  | lateGlobalFlags => "global flags not at the start of the expression"
  | unknownFlag => "unknown flag"
  | missingFlagEnd => "missing -, : or )"
  | missingFlag => "missing flag"
  | missingColon => "missing :"
  | localeFlag => "bad inline flags: cannot use 'L' flag with a str pattern"
  | alphabetsTogether => "bad inline flags: flags 'a', 'u' and 'L' are incompatible"
  | globalTurnedOn => "bad inline flags: cannot turn on global flag"
  | globalTurnedOff => "bad inline flags: cannot turn off global flag"
  | alphabetTurnedOff => "bad inline flags: cannot turn off flags 'a', 'u' and 'L'"
  | onAndOff => "bad inline flags: flag turned on and off"
  | variableLookbehind => "look-behind requires fixed-width pattern"
  | lookbehindTooLong => "looks too much behind"
  | templateRepeat greed => "internal: unsupported template operator " ++ greed.label

inductive Refusal
  /-- The pattern is malformed, at a place or as a whole. -/
  | malformed (fault : Fault) (position? : Option Nat)
  /-- A count of repetitions has too many digits to be read. -/
  | longCount (digits : Nat)
  /-- A count of repetitions is too large. -/
  | largeCount
  /-- Two alphabets are chosen for the whole pattern. -/
  | twoAlphabets
  deriving DecidableEq, Repr

/-- Line and column of a place in a text of several lines, both from 1 on. -/
def lineAndColumn (text : List Char) (position : Nat) : Nat × Nat :=
  let before := text.take position
  (before.count '\n' + 1, (before.reverse.takeWhile (· != '\n')).length + 1)

/-- The message of a mistake in a pattern, with its place. -/
def faultText (pattern : String) (fault : Fault) : Option Nat → String
  | none => fault.message
  | some position =>
    let place := fault.message ++ s!" at position {position}"
    if pattern.toList.contains '\n' then
      let (line, column) := lineAndColumn pattern.toList position
      place ++ s!" (line {line}, column {column})"
    else place

end LineAudit.Pattern
