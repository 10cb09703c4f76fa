import LineAudit.Text.Lines
import LineAudit.Yaml.BlockScalar
import LineAudit.Yaml.PlainScalar

/-!
The tokens of a YAML text.

Block structure comes from indentation: a token that starts a block collection is added where the
indentation grows, and one that ends it where the indentation shrinks. A token that marks a key is
put in front of the key when its colon is found.
-/

namespace LineAudit.Yaml

namespace Scan

/-- Passes over spaces, comments and line ends. -/
def skipBlankLines : Nat → Scan Unit
  | 0 => pure ()
  | fuel + 1 => do
    skipSpaces
    if (← peek) = '#' then skipWhile fun c => !endsLine c
    if isLineBreak (← peek) then
      let _ ← lineBreak
      if (← get).flowLevel = 0 then allowKey true
      skipBlankLines fuel

def skipToToken : Scan Unit := do
  let s ← get
  if s.mark.index = 0 ∧ s.rest.head? = some '\uFEFF' then skip 1
  skipBlankLines (s.rest.length + 1)

/-- Ends all block collections, before the end of a text or of a document. -/
def closeBlocks : Scan Unit := do
  unwind (-1)
  removeKey
  allowKey false

def streamEndToken : Scan Unit := do
  closeBlocks
  modify fun s => { s with keys := [], isDone := true }
  pushHere .streamEnd

def separatorToken (kind : TokenKind) : Scan Unit := do
  closeBlocks
  pushTaking 3 kind

def flowStartToken (kind : TokenKind) : Scan Unit := do
  saveKey
  modify fun s => { s with flowLevel := s.flowLevel + 1, allowKey := true }
  pushTaking 1 kind

def flowEndToken (kind : TokenKind) : Scan Unit := do
  removeKey
  modify fun s => { s with flowLevel := s.flowLevel - 1, allowKey := false }
  pushTaking 1 kind

def flowEntryToken : Scan Unit := do
  allowKey true
  removeKey
  pushTaking 1 .flowEntry

/-- Starts a block collection here if its items may start here and none has started at this
column. -/
def openBlock (trouble : Trouble) (kind : TokenKind) : Scan Unit := do
  let s ← get
  if s.flowLevel = 0 then
    if !s.allowKey then fail none trouble
    if ← indentTo s.mark.column then pushHere kind

def blockEntryToken : Scan Unit := do
  openBlock .sequenceEntry .blockSequenceStart
  allowKey true
  removeKey
  pushTaking 1 .blockEntry

def keyToken : Scan Unit := do
  openBlock .mappingKey .blockMappingStart
  allowKey ((← get).flowLevel == 0)
  removeKey
  pushTaking 1 .key

def valueToken : Scan Unit := do
  let s ← get
  match s.keys.find? (·.1 = s.flowLevel) with
  | some (_, k) =>
    modify fun s => { s with keys := s.keys.filter (·.1 ≠ s.flowLevel) }
    insertAt k.number ⟨.key, k.mark, k.mark⟩
    if s.flowLevel = 0 then
      if ← indentTo k.mark.column then insertAt k.number ⟨.blockMappingStart, k.mark, k.mark⟩
    allowKey false
  | none =>
    openBlock .mappingValue .blockMappingStart
    allowKey (s.flowLevel == 0)
    removeKey
  pushTaking 1 .value

/-- Takes a token that may be a key or stand in front of one. -/
def keyable (token : Scan Unit) : Scan Unit := do
  saveKey
  allowKey false
  token

def blockScalarToken (isFolded : Bool) : Scan Unit := do
  allowKey true
  removeKey
  blockScalar isFolded

/-- Characters that do not start a plain scalar. -/
def isIndicator (c : Char) : Bool := "-?:,[]\x7b\x7d#&*!|>'\"%@`".toList.contains c

/-- A character starts a plain scalar, given the character that follows it. -/
def startsPlain (isFlow : Bool) (c next : Char) : Bool :=
  !isGap c && !isIndicator c ||
    !isGap next && (c == '-' || !isFlow && (c == '?' || c == ':'))

def nextToken : Scan Unit := do
  skipToToken
  dropStaleKeys
  unwind (← here).column
  let c ← peek
  let next ← peekAt 1
  let atLineStart := (← here).column == 0
  let atDocument := atLineStart && (← atSeparator)
  let isFlow := (← get).flowLevel != 0
  if c = textEnd then streamEndToken
  else if c = '%' && atLineStart then
    closeBlocks
    directiveToken
  else if c = '-' && atDocument then separatorToken .documentStart
  else if c = '.' && atDocument then separatorToken .documentEnd
  else if c = '[' then flowStartToken .flowSequenceStart
  else if c = '\x7b' then flowStartToken .flowMappingStart
  else if c = ']' then flowEndToken .flowSequenceEnd
  else if c = '\x7d' then flowEndToken .flowMappingEnd
  else if c = ',' then flowEntryToken
  else if c = '-' && isGap next then blockEntryToken
  else if c = '?' && (isFlow || isGap next) then keyToken
  else if c = ':' && (isFlow || isGap next) then valueToken
  else if c = '*' then keyable (anchorToken true)
  else if c = '&' then keyable (anchorToken false)
  else if c = '!' then keyable tagToken
  else if c = '|' && !isFlow then blockScalarToken false
  else if c = '>' && !isFlow then blockScalarToken true
  else if c = '\'' then keyable (quotedScalar false)
  else if c = '"' then keyable (quotedScalar true)
  else if startsPlain isFlow c next then keyable plainScalar
  else fail (some (.nextToken, none)) (.cannotStart c)

end Scan

namespace Scanner

def start (text : List Char) : Scanner where
  rest := text
  mark := .start
  tokens := [⟨.streamStart, .start, .start⟩]
  flowLevel := 0
  indent := -1
  indents := []
  allowKey := true
  keys := []
  settled := 1
  isDone := false

/-- The number of the first token that may still turn out to be a key, or of all tokens. -/
def settledNow (s : Scanner) : Nat := s.keys.foldl (fun n k => min n k.2.number) s.tokens.length

/-- Takes tokens up to the end of the text or to a refusal. Of a refused text the settled tokens
remain. -/
def finish : Nat → Scanner → Tokens
  | 0, s => ⟨s.tokens.reverse, none⟩
  | fuel + 1, s =>
    if s.isDone then ⟨s.tokens.reverse, none⟩
    else
      match (do Scan.nextToken; Scan.dropStaleKeys : Scan Unit).run s with
      | .ok (_, s) => finish fuel { s with settled := s.settledNow }
      | .error refusal => ⟨s.tokens.reverse.take s.settled, some refusal⟩

end Scanner

def isAcceptable (c : Char) : Bool :=
  let n := c.toNat
  c = '\t' || c = '\n' || c = '\r' || 0x20 ≤ n && n ≤ 0x7e || n = 0x85 || 0xa0 ≤ n && n ≤ 0xfffd ||
    0x10000 ≤ n

/-- The first character of a text that must not occur, and its index. -/
def unacceptable? (index : Nat) : List Char → Option Fault
  | [] => none
  | c :: rest =>
    if isAcceptable c then unacceptable? (index + 1) rest else some (.unacceptable c index)

/-- The tokens of characters, among which every line end is a line feed. -/
def Tokens.ofChars (cs : List Char) : Tokens :=
  match unacceptable? 0 cs with
  | some fault => ⟨[], some (.fault fault)⟩
  | none => (Scanner.start cs).finish (cs.length + 1)

/-- The tokens of a text, after every line end became a line feed. -/
def Tokens.ofText (text : String) : Tokens := .ofChars (Text.unifyLineEnds text.toList)

end LineAudit.Yaml
