import LineAudit.Yaml.Nesting
import LineAudit.Yaml.ScalarValue

/-!
The value of a YAML text.

The values of collections are made level by level: all scalars and collections directly inside of
the collections of one level are looked at before anything that lies deeper. So of several mistakes
the one that lies least deep counts, and on one level the first.

An entry whose key is a pair of less-than signs merges another mapping, or a sequence of mappings,
into its own; what is merged comes first and gives way to what is written.
-/

namespace LineAudit.Yaml

/-! ### Merging -/

def Node.isMerge (node : Node) : Bool := node.tag = .merge

/-- An equals sign as a key. -/
def Node.isDefaultKey (node : Node) : Bool := node.tag = .value

/-- The node with a text as its tag. -/
def Node.asText : Node → Node
  | .scalar _ start text => .scalar .str start text
  | .sequence _ start items => .sequence .str start items
  | .mapping _ start entries => .mapping .str start entries

def mergeFault (start : Mark) (trouble : Trouble) (place : Mark) : Refusal :=
  .fault (.found (some (.mapping, some start)) trouble place)

mutual

/-- The entries of a mapping to be merged in, and those of its own, from its entries as written. -/
def splitMerged (start : Mark) :
    List (Node × Node) → Except Refusal (List (Node × Node) × List (Node × Node))
  | [] => .ok ([], [])
  | (key, value) :: rest =>
    if key.isMerge then do
      let more ← mergedFrom start value
      let (merged, own) ← splitMerged start rest
      return (more ++ merged, own)
    else do
      let (merged, own) ← splitMerged start rest
      return (merged, (if key.isDefaultKey then key.asText else key, value) :: own)

/-- The entries that the value of a merge key brings in. Of several mappings the last comes
first. -/
def mergedFrom (start : Mark) : Node → Except Refusal (List (Node × Node))
  | .mapping _ place entries => do
    let (merged, own) ← splitMerged place entries
    return merged ++ own
  | .sequence _ _ items => return (← mergedFromAll start items).reverse.flatten
  | .scalar _ place _ => .error (mergeFault start (.mergeValue "scalar") place)

def mergedFromAll (start : Mark) : List Node → Except Refusal (List (List (Node × Node)))
  | [] => .ok []
  | .mapping _ place entries :: rest => do
    let (merged, own) ← splitMerged place entries
    return (merged ++ own) :: (← mergedFromAll start rest)
  | .sequence _ place _ :: _ => .error (mergeFault start (.mergeItem "sequence") place)
  | .scalar _ place _ :: _ => .error (mergeFault start (.mergeItem "scalar") place)

end

/-- The entries of a mapping after merging. -/
def entriesOf (start : Mark) (entries : List (Node × Node)) :
    Except Refusal (List (Node × Node)) := do
  let (merged, own) ← splitMerged start entries
  return merged ++ own

/-! ### Values -/

/-- A value, and the mistakes below it by their depth. -/
structure Built where
  value : Value
  faults : List (List Refusal)

namespace Built

def ok (value : Value) : Built := ⟨value, []⟩

def refused (refusal : Refusal) : Built := ⟨.null, [[refusal]]⟩

def ofExcept : Except Refusal Value → Built
  | .ok v => ok v
  | .error refusal => refused refusal

/-- Joins two lists of mistakes depth by depth. -/
def joinFaults : List (List Refusal) → List (List Refusal) → List (List Refusal)
  | [], others => others
  | faults, [] => faults
  | here :: deeper, others :: rest => (here ++ others) :: joinFaults deeper rest

def faultsOf (parts : List Built) : List (List Refusal) :=
  parts.foldr (fun part faults => joinFaults part.faults faults) []

/-- A collection, whose parts lie one level deeper. -/
def deeper (value : Value) (faults : List (List Refusal)) : Built :=
  ⟨value, if faults.isEmpty then [] else [] :: faults⟩

/-- The value, or the mistake that counts. -/
def result (b : Built) : Except Refusal Value :=
  match b.faults.flatten with
  | [] => .ok b.value
  | refusal :: _ => .error refusal

end Built

def wrongNode (wanted : String) (node : Node) : Refusal :=
  .fault (.found none (.expectedKind wanted node.kindName) node.start)

mutual

/-- The text of a node: that of a scalar, or in a mapping that of the value at the equals sign. -/
def textOf : Node → Except Refusal String
  | .scalar _ _ text => .ok text
  | .sequence tag start items => .error (wrongNode "scalar" (.sequence tag start items))
  | .mapping tag start entries =>
    textOfEntries (wrongNode "scalar" (.mapping tag start entries)) entries

/-- The text of the value at the equals sign, or a refusal when there is none. -/
def textOfEntries (refusal : Refusal) : List (Node × Node) → Except Refusal String
  | [] => .error refusal
  | (key, value) :: rest =>
    if key.isDefaultKey then textOf value else textOfEntries refusal rest

end

def scalarValue (node : Node) (read : String → Except Refusal Value) : Built :=
  .ofExcept ((textOf node).bind read)

/-- A reader whose refusals are mishaps. -/
def asRefusal (read : String → Except Mishap Value) (text : String) : Except Refusal Value :=
  match read text with
  | .ok v => .ok v
  | .error mishap => .error (.mishap mishap)

/-- A date or time must be written by a scalar. -/
def timestampValue (node : Node) : Built :=
  match node with
  | .scalar _ _ text => .ofExcept (asRefusal readTimestamp text)
  | _ => scalarValue node fun _ => .error (.mishap .wrongKind)

/-- The mapping of built entries, with the place of the mapping and of each key. -/
def mappingValue (start : Mark) (entries : List (Mark × Built × Built)) :
    List (Value × Value) × List (List Refusal) :=
  let value := entries.foldl (fun m (_, key, value) => Value.put key.value value.value m) []
  let faults := entries.map fun (place, key, value) =>
    let unhashable :=
      if key.value.isKey then []
      else [[Refusal.fault (.found (some (.mapping, some start)) .unhashableKey place)]]
    Built.joinFaults key.faults (Built.joinFaults unhashable value.faults)
  (value, faults.foldr Built.joinFaults [])

def nodeDepth : Node → Nat
  | .scalar _ _ _ => 1
  | .sequence _ _ items => depthOfAll items + 1
  | .mapping _ _ entries => depthOfEntries entries + 1
where
  depthOfAll : List Node → Nat
    | [] => 0
    | node :: rest => max (nodeDepth node) (depthOfAll rest)
  depthOfEntries : List (Node × Node) → Nat
    | [] => 0
    | (key, value) :: rest => max (max (nodeDepth key) (nodeDepth value)) (depthOfEntries rest)

/-- What the items of an ordered mapping or of a list of pairs are: pairs, each written as a mapping
of one entry. -/
def pairValue (build : Node → Built) (activity : Activity) (start : Mark) (item : Node) : Built :=
  let refuse := fun trouble =>
    Built.refused (.fault (.found (some (activity, some start)) trouble item.start))
  match item with
  | .mapping _ _ [(key, value)] =>
    let k := build key
    let v := build value
    ⟨.tuple [k.value, v.value], Built.joinFaults k.faults v.faults⟩
  | .mapping _ _ entries => refuse (.expectedOnePair entries.length)
  | _ => refuse (.expectedPair item.kindName)

def pairsValue (build : Node → Built) (activity : Activity) (node : Node) : Built :=
  match node with
  | .sequence _ start items =>
    let parts := items.map (pairValue build activity start)
    .deeper (.list (parts.map Built.value)) (Built.faultsOf parts)
  | _ =>
    let trouble := Trouble.expectedSequence node.kindName
    .deeper (.list []) [[.fault (.found (some (activity, some node.start)) trouble node.start)]]

def sequenceValue (build : Node → Built) (node : Node) : Built :=
  match node with
  | .sequence _ _ items =>
    let parts := items.map build
    .deeper (.list (parts.map Built.value)) (Built.faultsOf parts)
  | _ => .deeper (.list []) [[wrongNode "sequence" node]]

/-- A mapping, made into a value by `wrap`. -/
def entriesValue (build : Node → Built) (wrap : List (Value × Value) → Value) (node : Node) :
    Built :=
  match node with
  | .mapping _ start entries =>
    match entriesOf start entries with
    | .error refusal => .deeper (wrap []) [[refusal]]
    | .ok entries =>
      let (value, faults) :=
        mappingValue start (entries.map fun (k, v) => (k.start, build k, build v))
      .deeper (wrap value) faults
  | _ => .deeper (wrap []) [[wrongNode "mapping" node]]

/-- The value of a node that is nested less than `fuel` deep. -/
def buildNode : Nat → Node → Built
  | 0, _ => .ok .null
  | fuel + 1, node =>
    let build := buildNode fuel
    match node.tag with
    | .null => scalarValue node fun _ => .ok .null
    | .bool => scalarValue node (asRefusal readTruth)
    | .int => scalarValue node (asRefusal readInteger)
    | .float => scalarValue node (asRefusal readFloat)
    | .binary => scalarValue node (readBinary node.start)
    | .timestamp => timestampValue node
    | .omap => pairsValue build .orderedMap node
    | .pairs => pairsValue build .pairs node
    | .set => entriesValue build (fun entries => .set (entries.map (·.1))) node
    | .str => scalarValue node fun text => .ok (.str text)
    | .seq => sequenceValue build node
    | .map => entriesValue build .dict node
    | .merge | .value | .other _ =>
      .refused (.fault (.found none (.undefinedTag node.tag.text) node.start))

/-- The value that the tokens of a text stand for. Without a document it is null. -/
def valueOf (tokens : Tokens) : Except Refusal Value := do
  match ← Node.ofTokens? tokens with
  | none => return .null
  | some node => (buildNode (nodeDepth node) node).result

def read (text : String) : Except Refusal Value := valueOf (.ofText text)

end LineAudit.Yaml
