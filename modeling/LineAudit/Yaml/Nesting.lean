import LineAudit.Yaml.ScalarForm
import LineAudit.Yaml.Tokens

/-!
How the tokens of a text group into nodes.

A text holds one document at most. An alias stands for the node with its anchor. A text with an
alias inside of that very node has no tree, and it is refused when it has been read to its end.
-/

namespace LineAudit.Yaml

/-- What is known in between two tokens. -/
structure Grouping where
  ahead : List Token
  /-- Why there are no more tokens than those ahead. -/
  refusal? : Option Refusal
  /-- What the handles of tags stand for. -/
  handles : List (String × String)
  anchors : List (String × Node)
  /-- The anchors of the collections whose parts are being read. -/
  unfinished : List String
  /-- An alias has been read inside of the node that it names. -/
  hasSelfAlias : Bool

abbrev Group := StateT Grouping (Except Refusal)

/-- Anchor, tag and start of a node. -/
structure Properties where
  anchor? : Option String
  tag? : Option String
  start : Mark

namespace Group

def coreHandles : List (String × String) := [("!", "!"), ("!!", coreLead)]

def peek : Group Token := do
  let s ← get
  match s.ahead, s.refusal? with
  | t :: _, _ => return t
  | [], some refusal => throw refusal
  | [], none => return ⟨.streamEnd, .start, .start⟩

def take : Group Token := do
  let t ← peek
  modify fun s => { s with ahead := s.ahead.tail }
  return t

def at? (kinds : List TokenKind) : Group Bool := do return kinds.contains (← peek).kind

def fail {α : Type} (during? : Option (Activity × Option Mark)) (trouble : Trouble)
    (place : Mark) : Group α :=
  throw (.fault (.found during? trouble place))

/-- Reports that the next token does not fit into something that started at a mark. -/
def failAtToken {α : Type} (activity : Activity) (start : Mark) (trouble : String → Trouble) :
    Group α := do
  let t ← peek
  fail (some (activity, some start)) (trouble t.kind.label) t.start

/-! ### Properties -/

def fullTag (start : Mark) (tag : Option String × String × Mark) : Group String := do
  match tag with
  | (none, suffix, _) => return suffix
  | (some handle, suffix, place) =>
    match (← get).handles.lookup handle with
    | some lead => return lead ++ suffix
    | none => fail (some (.node, some start)) (.undefinedHandle handle) place

def anchor? : Group (Option (String × Mark)) := do
  match ← peek with
  | ⟨.anchor name, start, _⟩ =>
    let _ ← take
    return some (name, start)
  | _ => return none

def tag? : Group (Option (Option String × String × Mark)) := do
  match ← peek with
  | ⟨.tag handle? suffix, start, _⟩ =>
    let _ ← take
    return some (handle?, suffix, start)
  | _ => return none

/-- Takes anchor and tag of a node, in either order. -/
def properties : Group Properties := do
  match ← anchor? with
  | some (name, start) =>
    match ← tag? with
    | some tag => return ⟨some name, some (← fullTag start tag), start⟩
    | none => return ⟨some name, none, start⟩
  | none =>
    match ← tag? with
    | some tag =>
      let start := tag.2.2
      let anchor? ← anchor?
      return ⟨anchor?.map (·.1), some (← fullTag start tag), start⟩
    | none => return ⟨none, none, (← peek).start⟩

/-- Gives an anchor to a node. No two nodes may have one. -/
def declare (p : Properties) (node : Node) : Group Unit := do
  match p.anchor? with
  | none => pure ()
  | some name =>
    match (← get).anchors.lookup name with
    | some first => fail (some (.duplicateAnchor name, some first.start)) .secondAnchor p.start
    | none => modify fun s => { s with anchors := (name, node) :: s.anchors }

/-- Gives the anchor of a collection to the finished collection. -/
def redeclare (p : Properties) (node : Node) : Group Unit := do
  match p.anchor? with
  | none => pure ()
  | some name =>
    modify fun s =>
      { s with anchors := s.anchors.map fun a => if a.1 = name then (name, node) else a }

/-- The tag of a scalar: given, or found from its form when it is plain or marked to be read like a
plain one. -/
def scalarTag (tag? : Option String) (isPlain : Bool) (text : List Char) : Tag :=
  match tag? with
  | none => if isPlain then tagOfForm text else .str
  | some tag => if tag = "!" then tagOfForm text else .ofText tag

/-- The tag of a collection: given, or the usual one. -/
def collectionTag (tag? : Option String) (usual : Tag) : Tag :=
  match tag? with
  | some tag => if tag = "!" then usual else .ofText tag
  | none => usual

def sequenceOf (p : Properties) (items : List Node) : Node :=
  .sequence (collectionTag p.tag? .seq) p.start items

def mappingOf (p : Properties) (entries : List (Node × Node)) : Node :=
  .mapping (collectionTag p.tag? .map) p.start entries

def within {α : Type} (p : Properties) (parts : Group α) : Group α := do
  let outer := (← get).unfinished
  modify fun s => { s with unfinished := p.anchor?.toList ++ outer }
  let found ← parts
  modify fun s => { s with unfinished := outer }
  return found

def openSequence (p : Properties) (items : Group (List Node)) : Group Node := do
  declare p (sequenceOf p [])
  let node := sequenceOf p (← within p items)
  redeclare p node
  return node

def openMapping (p : Properties) (entries : Group (List (Node × Node))) : Group Node := do
  declare p (mappingOf p [])
  let node := mappingOf p (← within p entries)
  redeclare p node
  return node

def scalarNode (p : Properties) (isPlain : Bool) (text : List Char) : Group Node := do
  let node := .scalar (scalarTag p.tag? isPlain text) p.start (String.ofList text)
  declare p node
  return node

def aliased (name : String) (place : Mark) : Group Node := do
  match (← get).anchors.lookup name with
  | some node =>
    modify fun s => { s with hasSelfAlias := s.hasSelfAlias || s.unfinished.contains name }
    return node
  | none => fail none (.undefinedAlias name) place

/-! ### Nodes -/

/-- Tokens before which a key or value in block style is empty. -/
def endsEntry : List TokenKind := [.key, .value, .blockEnd]

mutual

/-- Takes a node. In block context it may be a block collection, and where that is said, a sequence
that is not indented. -/
def node (isBlock isIndentless : Bool) : Nat → Group Node
  | 0 => return .empty .start
  | fuel + 1 => do
    match ← peek with
    | ⟨.aliasName name, place, _⟩ =>
      let _ ← take
      aliased name place
    | _ =>
      let p ← properties
      let t ← peek
      match t.kind with
      | .scalar text isPlain =>
        let _ ← take
        scalarNode p isPlain text
      | .flowSequenceStart => openSequence p do
        let _ ← take
        flowItems t.start true [] fuel
      | .flowMappingStart => openMapping p do
        let _ ← take
        flowEntries t.start true [] fuel
      | kind =>
        if isIndentless && kind = .blockEntry then
          openSequence p (indentlessItems [] fuel)
        else if isBlock && kind = .blockSequenceStart then openSequence p do
          let _ ← take
          blockItems t.start [] fuel
        else if isBlock && kind = .blockMappingStart then openMapping p do
          let _ ← take
          blockEntries t.start [] fuel
        else if p.anchor?.isSome || p.tag?.isSome then scalarNode p true []
        else failAtToken (if isBlock then .blockNode else .flowNode) p.start .expectedContent

/-- Takes a node, or nothing before some tokens: then the node is empty and stands at `place`. -/
def nodeUnless (enders : List TokenKind) (isBlock isIndentless : Bool) (place : Mark) :
    Nat → Group Node
  | 0 => return .empty place
  | fuel + 1 => do
    if ← at? enders then return .empty place
    else node isBlock isIndentless fuel

/-- Takes a node after a colon. Without the colon it is empty. -/
def valueUnless (enders : List TokenKind) (isBlock isIndentless : Bool) : Nat → Group Node
  | 0 => return .empty .start
  | fuel + 1 => do
    if ← at? [.value] then
      let t ← take
      nodeUnless enders isBlock isIndentless t.stop fuel
    else return .empty (← peek).start

/-- Takes the items of a block sequence that started at a mark, up to its end. -/
def blockItems (start : Mark) (items : List Node) : Nat → Group (List Node)
  | 0 => return items
  | fuel + 1 => do
    if ← at? [.blockEntry] then
      let t ← take
      let item ← nodeUnless [.blockEntry, .blockEnd] true false t.stop fuel
      blockItems start (items ++ [item]) fuel
    else if ← at? [.blockEnd] then
      let _ ← take
      return items
    else failAtToken .blockCollection start .expectedBlockEnd

/-- Takes the items of a sequence that is not indented. -/
def indentlessItems (items : List Node) : Nat → Group (List Node)
  | 0 => return items
  | fuel + 1 => do
    if ← at? [.blockEntry] then
      let t ← take
      let item ← nodeUnless (.blockEntry :: endsEntry) true false t.stop fuel
      indentlessItems (items ++ [item]) fuel
    else return items

/-- Takes the entries of a block mapping that started at a mark, up to its end. -/
def blockEntries (start : Mark) (entries : List (Node × Node)) :
    Nat → Group (List (Node × Node))
  | 0 => return entries
  | fuel + 1 => do
    if ← at? [.key] then
      let t ← take
      let key ← nodeUnless endsEntry true true t.stop fuel
      let value ← valueUnless endsEntry true true fuel
      blockEntries start (entries ++ [(key, value)]) fuel
    else if ← at? [.blockEnd] then
      let _ ← take
      return entries
    else failAtToken .blockMapping start .expectedBlockEnd

/-- Takes the items of a flow sequence that started at a mark, up to its end. Among them may be
mappings of one entry without braces. -/
def flowItems (start : Mark) (isFirst : Bool) (items : List Node) : Nat → Group (List Node)
  | 0 => return items
  | fuel + 1 => do
    if !(← at? [.flowSequenceEnd]) && !isFirst then
      if ← at? [.flowEntry] then
        let _ ← take
      else failAtToken .flowSequence start .expectedCommaOrBracket
    if ← at? [.flowSequenceEnd] then
      let _ ← take
      return items
    else if ← at? [.key] then
      let t ← take
      let enders : List TokenKind := [.flowEntry, .flowSequenceEnd]
      let key ← nodeUnless (.value :: enders) false false t.stop fuel
      let value ← valueUnless enders false false fuel
      let pair := .mapping .map t.start [(key, value)]
      flowItems start false (items ++ [pair]) fuel
    else
      let item ← node false false fuel
      flowItems start false (items ++ [item]) fuel

/-- Takes the entries of a flow mapping that started at a mark, up to its end. -/
def flowEntries (start : Mark) (isFirst : Bool) (entries : List (Node × Node)) :
    Nat → Group (List (Node × Node))
  | 0 => return entries
  | fuel + 1 => do
    if !(← at? [.flowMappingEnd]) && !isFirst then
      if ← at? [.flowEntry] then
        let _ ← take
      else failAtToken .flowMapping start .expectedCommaOrBrace
    if ← at? [.flowMappingEnd] then
      let _ ← take
      return entries
    else if ← at? [.key] then
      let t ← take
      let enders : List TokenKind := [.flowEntry, .flowMappingEnd]
      let key ← nodeUnless (.value :: enders) false false t.stop fuel
      let value ← valueUnless enders false false fuel
      flowEntries start false (entries ++ [(key, value)]) fuel
    else
      let key ← node false false fuel
      let value := .empty (← peek).start
      flowEntries start false (entries ++ [(key, value)]) fuel

end

/-! ### Documents -/

def directives (hasVersion : Bool) (handles : List (String × String)) :
    Nat → Group (List (String × String))
  | 0 => return handles
  | fuel + 1 => do
    match ← peek with
    | ⟨.version major, place, _⟩ =>
      let _ ← take
      if hasVersion then fail none .duplicateVersion place
      if major ≠ 1 then fail none .incompatibleVersion place
      directives true handles fuel
    | ⟨.handle handle lead, place, _⟩ =>
      let _ ← take
      if (handles.lookup handle).isSome then fail none (.duplicateHandle handle) place
      directives hasVersion (handles ++ [(handle, lead)]) fuel
    | ⟨.otherDirective, _, _⟩ =>
      let _ ← take
      directives hasVersion handles fuel
    | _ => return handles

def skipDocumentEnds : Nat → Group Unit
  | 0 => pure ()
  | fuel + 1 => do
    if ← at? [.documentEnd] then
      let _ ← take
      skipDocumentEnds fuel

/-- Takes the start of a document, and says where it is; none at the end of the text. -/
def documentStart? (fuel : Nat) : Group (Option Mark) := do
  skipDocumentEnds fuel
  let t ← peek
  if t.kind = .streamEnd then return none
  let handles ← directives false [] fuel
  modify fun s => { s with handles := handles ++ coreHandles }
  if !(← at? [.documentStart]) then
    let t ← peek
    fail none (.expectedDocumentStart t.kind.label) t.start
  let _ ← take
  return some t.start

def markedContent (fuel : Nat) : Group Node := do
  let t ← peek
  let isEmpty := t.kind.isDirective ||
    [TokenKind.documentStart, .documentEnd, .streamEnd].contains t.kind
  if isEmpty then return .empty t.start else node true false fuel

/-- Takes the first document, if there is one. -/
def firstDocument? (fuel : Nat) : Group (Option Node) := do
  let _ ← take
  let t ← peek
  if t.kind.isDirective || t.kind = .documentStart || t.kind = .streamEnd then
    match ← documentStart? fuel with
    | some _ => return some (← markedContent fuel)
    | none => return none
  else return some (← node true false fuel)

/-- Takes the only document of a text, if there is one. -/
def onlyDocument? (fuel : Nat) : Group (Option Node) := do
  match ← firstDocument? fuel with
  | none => return none
  | some document =>
    match ← documentStart? fuel with
    | none => return some document
    | some place => fail (some (.document, some document.start)) .anotherDocument place

end Group

/-- The node that the tokens of a text form, if they form one. -/
def Node.ofTokens? (tokens : Tokens) : Except Refusal (Option Node) :=
  let s : Grouping := ⟨tokens.items, tokens.refusal?, Group.coreHandles, [], [], false⟩
  match (Group.onlyDocument? (4 * tokens.items.length + 8)).run s with
  | .error refusal => .error refusal
  | .ok (document?, s) => if s.hasSelfAlias then .error .selfAlias else .ok document?

end LineAudit.Yaml
