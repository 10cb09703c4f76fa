import LineAudit.Text.Quoted
import LineAudit.Yaml.Mark

/-!
What can be wrong with a YAML text.

A fault names what is wrong and where, and, for most faults, what was being read at the time and
where that began.
-/

namespace LineAudit.Yaml

inductive Activity
  | nextToken
  | simpleKey
  | directive
  | anchor
  | aliasName
  | tag
  | tagStart
  | directiveStart
  | blockScalar
  | doubleQuoted
  | quoted
  | node
  | blockNode
  | flowNode
  | blockCollection
  | blockMapping
  | flowSequence
  | flowMapping
  | document
  | duplicateAnchor (name : String)
  | mapping
  | orderedMap
  | pairs
  deriving DecidableEq, Repr

def Activity.text : Activity → String
  | nextToken => "while scanning for the next token"
  | simpleKey => "while scanning a simple key"
  | directive => "while scanning a directive"
  | anchor => "while scanning an anchor"
  | aliasName => "while scanning an alias"
  | tag => "while scanning a tag"
  | tagStart => "while parsing a tag"
  | directiveStart => "while parsing a directive"
  | blockScalar => "while scanning a block scalar"
  | doubleQuoted => "while scanning a double-quoted scalar"
  | quoted => "while scanning a quoted scalar"
  | node => "while parsing a node"
  | blockNode => "while parsing a block node"
  | flowNode => "while parsing a flow node"
  | blockCollection => "while parsing a block collection"
  | blockMapping => "while parsing a block mapping"
  | flowSequence => "while parsing a flow sequence"
  | flowMapping => "while parsing a flow mapping"
  | document => "expected a single document in the stream"
  | duplicateAnchor name => "found duplicate anchor " ++ Text.quoted name ++ "; first occurrence"
  | mapping => "while constructing a mapping"
  | orderedMap => "while constructing an ordered map"
  | pairs => "while constructing pairs"

inductive Trouble
  | cannotStart (c : Char)
  | missingColon
  | sequenceEntry
  | mappingKey
  | mappingValue
  | expectedName (found : Char)
  | expectedDigit (found : Char)
  | expectedDigitOrPoint (found : Char)
  | expectedDigitOrSpace (found : Char)
  | expectedSpace (found : Char)
  | expectedLineEnd (found : Char)
  | expectedBang (found : Char)
  | expectedAngle (found : Char)
  | expectedUri (found : Char)
  | expectedUriEscape (found : Char)
  | badUriText (reason : String)
  | zeroIndentation
  | expectedIndicators (found : Char)
  | expectedHex (count : Nat) (found : Char)
  | unknownEscape (found : Char)
  | streamEnd
  | documentSeparator
  | expectedDocumentStart (found : String)
  | duplicateVersion
  | incompatibleVersion
  | duplicateHandle (handle : String)
  | undefinedHandle (handle : String)
  | expectedContent (found : String)
  | expectedBlockEnd (found : String)
  | expectedCommaOrBracket (found : String)
  | expectedCommaOrBrace (found : String)
  | anotherDocument
  | undefinedAlias (name : String)
  | secondAnchor
  | undefinedTag (tag : String)
  | expectedKind (wanted found : String)
  | unhashableKey
  | mergeItem (found : String)
  | mergeValue (found : String)
  | expectedSequence (found : String)
  | expectedPair (found : String)
  | expectedOnePair (count : Nat)
  | notAscii (reason : String)
  | badBase64 (reason : String)
  deriving DecidableEq, Repr

def quotedChar (c : Char) : String := Text.quoted c.toString

def Trouble.text : Trouble → String
  | cannotStart c => "found character " ++ quotedChar c ++ " that cannot start any token"
  | missingColon => "could not find expected ':'"
  | sequenceEntry => "sequence entries are not allowed here"
  | mappingKey => "mapping keys are not allowed here"
  | mappingValue => "mapping values are not allowed here"
  | expectedName c => "expected alphabetic or numeric character, but found " ++ quotedChar c
  | expectedDigit c => "expected a digit, but found " ++ quotedChar c
  | expectedDigitOrPoint c => "expected a digit or '.', but found " ++ quotedChar c
  | expectedDigitOrSpace c => "expected a digit or ' ', but found " ++ quotedChar c
  | expectedSpace c => "expected ' ', but found " ++ quotedChar c
  | expectedLineEnd c => "expected a comment or a line break, but found " ++ quotedChar c
  | expectedBang c => "expected '!', but found " ++ quotedChar c
  | expectedAngle c => "expected '>', but found " ++ quotedChar c
  | expectedUri c => "expected URI, but found " ++ quotedChar c
  | expectedUriEscape c =>
    "expected URI escape sequence of 2 hexadecimal numbers, but found " ++ quotedChar c
  | badUriText reason => reason
  | zeroIndentation => "expected indentation indicator in the range 1-9, but found 0"
  | expectedIndicators c =>
    "expected chomping or indentation indicators, but found " ++ quotedChar c
  | expectedHex count c =>
    s!"expected escape sequence of {count} hexadecimal numbers, but found " ++ quotedChar c
  | unknownEscape c => "found unknown escape character " ++ quotedChar c
  | streamEnd => "found unexpected end of stream"
  | documentSeparator => "found unexpected document separator"
  | expectedDocumentStart found => "expected '<document start>', but found " ++ Text.quoted found
  | duplicateVersion => "found duplicate YAML directive"
  | incompatibleVersion => "found incompatible YAML document (version 1.* is required)"
  | duplicateHandle handle => "duplicate tag handle " ++ Text.quoted handle
  | undefinedHandle handle => "found undefined tag handle " ++ Text.quoted handle
  | expectedContent found => "expected the node content, but found " ++ Text.quoted found
  | expectedBlockEnd found => "expected <block end>, but found " ++ Text.quoted found
  | expectedCommaOrBracket found => "expected ',' or ']', but got " ++ Text.quoted found
  | expectedCommaOrBrace found => "expected ',' or '\x7d', but got " ++ Text.quoted found
  | anotherDocument => "but found another document"
  | undefinedAlias name => "found undefined alias " ++ Text.quoted name
  | secondAnchor => "second occurrence"
  | undefinedTag tag => "could not determine a constructor for the tag " ++ Text.quoted tag
  | expectedKind wanted found => "expected a " ++ wanted ++ " node, but found " ++ found
  | unhashableKey => "found unhashable key"
  | mergeItem found => "expected a mapping for merging, but found " ++ found
  | mergeValue found => "expected a mapping or list of mappings for merging, but found " ++ found
  | expectedSequence found => "expected a sequence, but found " ++ found
  | expectedPair found => "expected a mapping of length 1, but found " ++ found
  | expectedOnePair count => s!"expected a single mapping item, but found {count} items"
  | notAscii reason => "failed to convert base64 data into ascii: " ++ reason
  | badBase64 reason => "failed to decode base64 data: " ++ reason

inductive Fault
  /-- A character that must not occur, at an index. -/
  | unacceptable (c : Char) (index : Nat)
  | found (during? : Option (Activity × Option Mark)) (trouble : Trouble) (place : Mark)
  deriving DecidableEq, Repr

namespace Fault

/-- The hexadecimal digits of a code point, at least four. -/
def codeText (n : Nat) : String :=
  String.ofList (Text.hexDigits (if n < 0x10000 then 4 else if n < 0x100000 then 5 else 6) n)

/-- A fault in words. The place of the activity is left out when the fault lies at that place. -/
def message (file : String) : Fault → String
  | unacceptable c index =>
    "unacceptable character #x" ++ codeText c.toNat ++
      ": special characters are not allowed\n" ++ s!"  in \"{file}\", position {index}"
  | found during? trouble place =>
    let opening := match during? with
      | none => []
      | some (activity, mark?) =>
        let begun := match mark? with
          | some mark =>
            if mark.line = place.line ∧ mark.column = place.column then []
            else [mark.text file]
          | none => []
        activity.text :: begun
    "\n".intercalate (opening ++ [trouble.text, place.text file])

end Fault

/-- A scalar that claims a type whose form it does not have. Such a mistake is not a fault of the
text as such, and it is reported by its kind alone, or with a message where there is one. -/
inductive Mishap
  | noItem
  | noKey
  | noForm
  | wrongKind
  | tooLarge
  | badValue (message : String)
  deriving DecidableEq, Repr

inductive Refusal
  | fault (f : Fault)
  | mishap (m : Mishap)
  /-- An alias stands inside of the node that it names. -/
  | selfAlias
  deriving DecidableEq, Repr

end LineAudit.Yaml
