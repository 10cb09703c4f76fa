import LineAudit.Pattern.Fault

/-!
Reading a pattern from left to right.

A pattern is read in pieces: a character, or a backslash with the character after it. What has been
read so far fixes the groups that exist, which of them are closed and how wide they are, and the
flags of the whole pattern.
-/

namespace LineAudit.Pattern

/-- What is known while a pattern is read. -/
structure Progress where
  /-- The text from the next piece on. -/
  rest : List Char
  /-- How many characters have been read. -/
  position : Nat
  flags : Flags
  names : List (String × Nat)
  /-- The widths of the groups from group 1 on; a group that is still open has none. -/
  widths : List (Option Width)
  /-- The number of groups when the outermost lookbehind was entered, group 0 counted. -/
  lookbehind? : Option Nat
  /-- The groups that conditions refer to by number, and where they do so first. -/
  conditions : List (Nat × Nat)

abbrev Reading := StateT Progress (Except Refusal)

/-- The piece at the start of a text; an empty one at its end. -/
def pieceOf : List Char → List Char
  | [] => []
  | '\\' :: c :: _ => ['\\', c]
  | c :: _ => [c]

namespace Reading

def next : Reading (List Char) := do return pieceOf (← get).rest

/-- Refuses the pattern, at a place so many characters back. -/
def failBack {α : Type} (back : Nat) (fault : Fault) : Reading α := do
  throw (.malformed fault (some ((← get).position - back)))

def failAt {α : Type} (position : Nat) (fault : Fault) : Reading α :=
  throw (.malformed fault (some position))

def fail {α : Type} (fault : Fault) : Reading α := failBack 0 fault

/-- A backslash that ends the text is no piece. -/
def checkEnd (rest : List Char) (position : Nat) : Reading Unit :=
  if rest = ['\\'] then throw (.malformed .escapeAtEnd (some position)) else pure ()

def take : Reading (List Char) := do
  let s ← get
  let piece := pieceOf s.rest
  let rest := s.rest.drop piece.length
  let position := s.position + piece.length
  checkEnd rest position
  set { s with rest, position }
  return piece

def accept (c : Char) : Reading Bool := do
  if (← next) = [c] then
    let _ ← take
    return true
  else return false

def takeWhile (p : Char → Bool) : Nat → Reading (List Char)
  | 0 => pure []
  | n + 1 => do
    match ← next with
    | [c] =>
      if p c then
        let _ ← take
        return c :: (← takeWhile p n)
      else return []
    | _ => return []

/-- Takes the pieces before a closing character, and that character; `fuel` bounds the pieces. -/
def takeUntil (closing : Char) (what : String) (acc : List Char) : Nat → Reading (List Char)
  | 0 => fail (.missingName what)
  | fuel + 1 => do
    match ← take with
    | [] =>
      if acc.isEmpty then fail (.missingName what)
      else failBack acc.length (.unterminatedName closing)
    | piece =>
      if piece = [closing] then
        if acc.isEmpty then failBack 1 (.missingName what) else return acc
      else takeUntil closing what (acc ++ piece) fuel

def takeName (closing : Char) (what : String) : Reading (List Char) := do
  takeUntil closing what [] ((← get).rest.length + 1)

/-- The number of groups, group 0 counted. -/
def groupCount : Reading Nat := do return (← get).widths.length + 1

def width? (index : Nat) : Reading (Option Width) := do
  return ((← get).widths[index - 1]?).join

def openGroup (name? : Option String) : Reading Nat := do
  let s ← get
  let index := s.widths.length + 1
  let s := { s with widths := s.widths ++ [none] }
  match name? with
  | none => set s; return index
  | some name =>
    match s.names.find? (·.1 = name) with
    | some (_, earlier) => failBack (name.length + 1) (.redefinedGroup name index earlier)
    | none => set { s with names := s.names ++ [(name, index)] }; return index

def groupWidths : Reading (Nat → Width) := do
  let widths := (← get).widths
  return fun index => (widths[index - 1]?).join.getD ⟨0, 0⟩

def closeGroup (index : Nat) (body : List Node) : Reading Unit := do
  let width := seqWidth (← groupWidths) body
  modify fun s => { s with widths := s.widths.set (index - 1) (some width) }

/-- Inside a lookbehind only groups that were closed before it may be referred to. -/
def checkLookbehind (index : Nat) : Reading Unit := do
  match (← get).lookbehind? with
  | none => pure ()
  | some count =>
    if (← width? index).isNone then fail .openGroup
    else if count ≤ index then fail .sameLookbehind
    else pure ()

end Reading

end LineAudit.Pattern
