import LineAudit.Yaml.Fault

/-!
Tokens of a YAML text.
-/

namespace LineAudit.Yaml

inductive TokenKind
  | streamStart
  | streamEnd
  /-- A version directive. -/
  | version (major : Nat)
  /-- A directive that gives a handle a prefix for tags. -/
  | handle (handle lead : String)
  | otherDirective
  | documentStart
  | documentEnd
  | blockSequenceStart
  | blockMappingStart
  | blockEnd
  | flowSequenceStart
  | flowMappingStart
  | flowSequenceEnd
  | flowMappingEnd
  | key
  | value
  | blockEntry
  | flowEntry
  | aliasName (name : String)
  | anchor (name : String)
  | tag (handle? : Option String) (suffix : String)
  | scalar (text : List Char) (isPlain : Bool)
  deriving DecidableEq, Repr

namespace TokenKind

def label : TokenKind → String
  | streamStart => "<stream start>"
  | streamEnd => "<stream end>"
  | version _ | handle _ _ | otherDirective => "<directive>"
  | documentStart => "<document start>"
  | documentEnd => "<document end>"
  | blockSequenceStart => "<block sequence start>"
  | blockMappingStart => "<block mapping start>"
  | blockEnd => "<block end>"
  | flowSequenceStart => "["
  | flowMappingStart => "\x7b"
  | flowSequenceEnd => "]"
  | flowMappingEnd => "\x7d"
  | key => "?"
  | value => ":"
  | blockEntry => "-"
  | flowEntry => ","
  | aliasName _ => "<alias>"
  | anchor _ => "<anchor>"
  | tag _ _ => "<tag>"
  | scalar _ _ => "<scalar>"

def isDirective : TokenKind → Bool
  | version _ | handle _ _ | otherDirective => true
  | _ => false

end TokenKind

/-- A token and the places between which it stands. -/
structure Token where
  kind : TokenKind
  start : Mark
  stop : Mark
  deriving DecidableEq, Repr

/-- The tokens of a text, up to its end or to the place where it is refused. -/
structure Tokens where
  items : List Token
  refusal? : Option Refusal

end LineAudit.Yaml
