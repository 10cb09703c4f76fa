import LineAudit.Yaml.Token

/-!
Reading a YAML text character by character.

A scalar or a flow collection may turn out to be a key when a colon follows it on its line. Places
where such a key may start are remembered, and the tokens from the first of them on are not settled:
a token that marks the key may still be put before them.
-/

namespace LineAudit.Yaml

/-- A place where a key may have started. -/
structure SimpleKey where
  /-- How many tokens lie before it. -/
  number : Nat
  /-- The text is malformed if it turns out not to be a key. -/
  isRequired : Bool
  mark : Mark
  deriving DecidableEq, Repr

/-- What is known at a place in a text. -/
structure Scanner where
  rest : List Char
  mark : Mark
  /-- The tokens so far, last one first. -/
  tokens : List Token
  /-- How many flow collections are open. -/
  flowLevel : Nat
  /-- The column of the innermost block collection, or -1. -/
  indent : Int
  /-- The columns of the block collections around it. -/
  indents : List Int
  /-- A key may start here. -/
  allowKey : Bool
  /-- The places where a key may have started, by the number of open flow collections. -/
  keys : List (Nat × SimpleKey)
  /-- How many tokens are settled. -/
  settled : Nat
  isDone : Bool

abbrev Scan := StateT Scanner (Except Refusal)

namespace Scan

def peekAt (n : Nat) : Scan Char := do return ((← get).rest[n]?).getD textEnd

def peek : Scan Char := peekAt 0

def here : Scan Mark := do return (← get).mark

def fail {α : Type} (during? : Option (Activity × Option Mark)) (trouble : Trouble) : Scan α := do
  throw (.fault (.found during? trouble (← here)))

def failIn {α : Type} (activity : Activity) (start : Mark) (trouble : Trouble) : Scan α :=
  fail (some (activity, some start)) trouble

/-- The place after the first `n` characters of a text. -/
def markAfter : Nat → List Char → Mark → Mark × List Char
  | 0, cs, m => (m, cs)
  | _ + 1, [], m => (m, [])
  | n + 1, c :: cs, m => markAfter n cs (m.after c (cs.headD textEnd))

def skip (n : Nat) : Scan Unit :=
  modify fun s =>
    let (mark, rest) := markAfter n s.rest s.mark
    { s with mark, rest }

def takeWhile (p : Char → Bool) : Scan (List Char) := do
  let taken := (← get).rest.takeWhile p
  skip taken.length
  return taken

def skipWhile (p : Char → Bool) : Scan Unit := do
  let _ ← takeWhile p

def skipSpaces : Scan Unit := skipWhile (· = ' ')

/-- Takes a line end, if there is one, and gives back what stands for it in a scalar. -/
def lineBreak : Scan (List Char) := do
  let c ← peek
  if c = '\r' ∧ (← peekAt 1) = '\n' then
    skip 2
    return ['\n']
  else if c = '\r' ∨ c = '\n' ∨ c = '\x85' then
    skip 1
    return ['\n']
  else if c = '\u2028' ∨ c = '\u2029' then
    skip 1
    return [c]
  else return []

/-- A line here starts with three hyphens or three points and a gap. -/
def atSeparator : Scan Bool := do
  let three := (← get).rest.take 3
  return (three = ['-', '-', '-'] ∨ three = ['.', '.', '.']) && isGap (← peekAt 3)

def push (t : Token) : Scan Unit := modify fun s => { s with tokens := t :: s.tokens }

def pushHere (kind : TokenKind) : Scan Unit := do
  let m ← here
  push ⟨kind, m, m⟩

def pushTaking (n : Nat) (kind : TokenKind) : Scan Unit := do
  let start ← here
  skip n
  push ⟨kind, start, ← here⟩

/-- Puts a token before all but the first `number` ones. -/
def insertAt (number : Nat) (t : Token) : Scan Unit :=
  modify fun s => { s with tokens := s.tokens.insertIdx (s.tokens.length - number) t }

def allowKey (b : Bool) : Scan Unit := modify fun s => { s with allowKey := b }

/-! ### Keys and indentation -/

/-- A key that is required and cannot be one any more is a fault. -/
def dropKey (k : SimpleKey) : Scan Unit :=
  if k.isRequired then failIn .simpleKey k.mark .missingColon else pure ()

/-- Forgets keys that cannot be keys any more: those of an earlier line or more than 1024 characters
back. -/
def forgetStale : List (Nat × SimpleKey) → Scan (List (Nat × SimpleKey))
  | [] => pure []
  | (level, k) :: rest => do
    let m ← here
    if k.mark.line ≠ m.line ∨ k.mark.index + 1024 < m.index then
      dropKey k
      forgetStale rest
    else return (level, k) :: (← forgetStale rest)

def dropStaleKeys : Scan Unit := do
  let keys ← forgetStale (← get).keys
  modify fun s => { s with keys }

/-- Forgets the key that may have started at the present flow level. -/
def removeKey : Scan Unit := do
  let s ← get
  match s.keys.find? (·.1 = s.flowLevel) with
  | none => pure ()
  | some (_, k) =>
    dropKey k
    modify fun s => { s with keys := s.keys.filter (·.1 ≠ s.flowLevel) }

/-- Remembers that a key may start here. In block context it is required at the indentation. -/
def saveKey : Scan Unit := do
  let s ← get
  if s.allowKey then
    removeKey
    let isRequired := s.flowLevel = 0 && s.indent = s.mark.column
    let k : SimpleKey := ⟨s.tokens.length, isRequired, s.mark⟩
    modify fun s => { s with keys := s.keys ++ [(s.flowLevel, k)] }

/-- The indentations that remain above a column, and the number of block collections that end. -/
def unwound (column : Int) : Int → List Int → Nat × Int × List Int
  | indent, [] => (0, indent, [])
  | indent, outer :: rest =>
    if column < indent then
      let (n, indent, indents) := unwound column outer rest
      (n + 1, indent, indents)
    else (0, indent, outer :: rest)

/-- Ends the block collections that are indented more than a column. -/
def unwind (column : Int) : Scan Unit := do
  let s ← get
  if s.flowLevel = 0 then
    let (n, indent, indents) := unwound column s.indent s.indents
    let ends := List.replicate n ⟨.blockEnd, s.mark, s.mark⟩
    set { s with indent, indents, tokens := ends ++ s.tokens }

/-- Starts a block collection at a column if it is indented more than the one around it. -/
def indentTo (column : Nat) : Scan Bool := do
  let s ← get
  if s.indent < column then
    set { s with indent := (column : Int), indents := s.indent :: s.indents }
    return true
  else return false

end Scan

end LineAudit.Yaml
