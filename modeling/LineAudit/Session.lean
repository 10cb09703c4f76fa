import LineAudit.Rule.Heap
import LineAudit.Scan.Engine

/-!
Sessions: a caller who loads registries again and again and edits rules in between.

The registry in use has copies of the rules that it was loaded from. Only when the rules of a
registry are handed out and loading them again is refused does the caller hold the very objects that
the registry in use keeps.
-/

namespace LineAudit

inductive ChangeFailure
  | load (failure : LoadFailure)
  | noRegistry
  | noRule
  | wrongTarget
  | fewWorkers (workers : Int)

inductive Change
  /-- Takes rules from the caller, and makes a registry from them. -/
  | load (entries : List Entry)
  /-- Takes a registry that was made from a rule pack. -/
  | adopt (registry : Registry Severity)
  /-- Hands the rules of the registry to the caller, and makes a registry from them. -/
  | reload
  /-- Edits the caller's rule at an index. Indices below zero count from the end. -/
  | edit (index : Int) (edits : List RuleEdit)
  | limit (maxLines? : Option Int) (deadline? : Option Number) (workers : Int)
  | setFiles (files : List SourceFile)
  | addFile (file : SourceFile)

structure Session where
  heap : Heap
  /-- What the caller holds. -/
  held : List Item
  /-- What the registry in use keeps. -/
  inUse? : Option (List Kept)
  engine : Engine
  files : List SourceFile

namespace Session

def begin : Session := ⟨.empty, [], none, .unlimited, []⟩

def current? (s : Session) : Option (Registry SeverityMark) := s.inUse?.map s.heap.registry

/-- Loads a registry from what the caller holds. A registry that is refused leaves the one in use.
-/
def loadHeld (s : Session) : Session × Option ChangeFailure :=
  match s.heap.load s.held with
  | .ok (kept, heap) => ({ s with heap, inUse? := some kept }, none)
  | .error failure => (s, some (.load failure))

def load (s : Session) (entries : List Entry) : Session × Option ChangeFailure :=
  let (held, heap) := (entries.mapM Heap.addEntry).run s.heap
  { s with heap, held }.loadHeld

def adopt (s : Session) (registry : Registry Severity) : Session × Option ChangeFailure :=
  let adoptRule := fun (r : Rule Severity) => do Heap.keep (← Heap.marked r.fresh)
  let (kept, heap) := (registry.rules.mapM adoptRule).run s.heap
  ({ s with heap, inUse? := some kept }, none)

def reload (s : Session) : Session × Option ChangeFailure :=
  match s.inUse? with
  | none => (s, some .noRegistry)
  | some kept => { s with held := kept.map fun k : Kept => Item.rule k.address }.loadHeld

/-- The place of an index in a list of the given length. -/
def placeOf? (length : Nat) (index : Int) : Option Nat :=
  let place := if index < 0 then index + length else index
  if 0 ≤ place ∧ place < length then some place.toNat else none

def item? (s : Session) (index : Int) : Option Item :=
  (placeOf? s.held.length index).bind fun place => s.held[place]?

/-- The session after one edit of an item, if it takes the edit. -/
def editOnce? (s : Session) (item : Item) (e : RuleEdit) : Option Session :=
  let (e, heap) := (Heap.marked e.fresh).run s.heap
  ((heap.aim? item e).bind heap.edit?).map fun heap => { s with heap }

/-- Edits of an item, up to the first one that is refused. -/
def editItem (s : Session) (item : Item) : List RuleEdit → Session × Option ChangeFailure
  | [] => (s, none)
  | e :: rest =>
    match s.editOnce? item e with
    | some s => s.editItem item rest
    | none => (s, some .wrongTarget)

def edit (s : Session) (index : Int) (edits : List RuleEdit) : Session × Option ChangeFailure :=
  match s.item? index with
  | some item => s.editItem item edits
  | none => (s, some .noRule)

def limit (s : Session) (maxLines? : Option Int) (deadline? : Option Number) (workers : Int) :
    Session × Option ChangeFailure :=
  match Engine.make? maxLines? deadline? workers with
  | some engine => ({ s with engine }, none)
  | none => (s, some (.fewWorkers workers))

/-- The session after a change, and why the change was refused, if it was. -/
def perform (s : Session) : Change → Session × Option ChangeFailure
  | .load entries => s.load entries
  | .adopt registry => s.adopt registry
  | .reload => s.reload
  | .edit index edits => s.edit index edits
  | .limit maxLines? deadline? workers => s.limit maxLines? deadline? workers
  | .setFiles files => ({ s with files }, none)
  | .addFile file => ({ s with files := s.files ++ [file] }, none)

/-- The session after changes, of which some may have been refused. -/
def after (s : Session) (changes : List Change) : Session :=
  changes.foldl (fun s c => (s.perform c).1) s

end Session

end LineAudit
