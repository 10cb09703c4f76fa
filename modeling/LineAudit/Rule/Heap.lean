import LineAudit.Registry
import LineAudit.Rule.Edit

/-!
Rules as objects that several holders may share.

Rules and lists of exclusions are objects, each at an address, and whoever has the address of an
object sees every edit of it. A registry is loaded from the objects of a caller: it makes new ones,
for each rule a copy with a list of its own, and keeps their addresses. Matchers are not copied.
They stand in the objects with their marks, and an edit at a mark reaches them wherever they stand.
-/

namespace LineAudit

/-- What a rule has in the place of its exclusions: a list, which can grow, or something else. -/
inductive ExclusionsRef
  | list (address : Nat)
  | tuple (items : List Matcher)
  | foreign (v : Value)

def ExclusionsRef.editAt (mark : Nat) (e : NodeEdit) : ExclusionsRef → ExclusionsRef
  | list address => list address
  | tuple items => tuple (Matcher.editEachAt mark e items)
  | foreign v => foreign v

structure RuleObject where
  id : Value
  description : Writable
  severity : SeverityMark
  matcher : Matcher
  exclusions : ExclusionsRef
  recommendation : Value

def RuleObject.editAt (mark : Nat) (e : NodeEdit) (o : RuleObject) : RuleObject :=
  { o with matcher := o.matcher.editAt mark e, exclusions := o.exclusions.editAt mark e }

/-- What a caller holds where a rule is expected: the address of an object, or something else. -/
inductive Item
  | rule (address : Nat)
  | foreign (v : Value)

/-- A rule that a registry keeps: the id by which it is found, and the address of its object. -/
structure Kept where
  id : String
  address : Nat

/-- Objects by their addresses. -/
structure Heap where
  rule : Nat → RuleObject
  list : Nat → List Matcher
  /-- No object has this address or a higher one, and no matcher such a mark. -/
  next : Nat

/-- An edit of a field of the rule at an address, or of the matcher with a mark. -/
inductive ObjectEdit
  | field (address : Nat) (e : FieldEdit)
  | node (mark : Nat) (e : NodeEdit)

namespace Heap

def empty : Heap where
  rule _ := ⟨.null, .null, .raw .null, .foreign .null, .foreign .null, .null⟩
  list _ := []
  next := 0

/-! ### Reading -/

def exclusions (h : Heap) : ExclusionsRef → Exclusions
  | .list address => .list (h.list address)
  | .tuple items => .tuple items
  | .foreign v => .foreign v

def draft (h : Heap) (o : RuleObject) : Draft :=
  ⟨o.id, o.description, o.severity, o.matcher, h.exclusions o.exclusions, o.recommendation⟩

def entry (h : Heap) : Item → Entry
  | .rule address => .draft (h.draft (h.rule address))
  | .foreign v => .foreign v

def read (h : Heap) (k : Kept) : Rule SeverityMark :=
  let o := h.rule k.address
  ⟨k.id, o.description, o.severity, o.matcher, (h.exclusions o.exclusions).items, o.recommendation⟩

def registry (h : Heap) (kept : List Kept) : Registry SeverityMark := ⟨kept.map h.read⟩

/-! ### New objects -/

def addRule (o : RuleObject) : StateM Heap Nat :=
  modifyGet fun h =>
    (h.next, { h with rule := fun a => if a = h.next then o else h.rule a, next := h.next + 1 })

def addList (items : List Matcher) : StateM Heap Nat :=
  modifyGet fun h =>
    (h.next, { h with list := fun a => if a = h.next then items else h.list a, next := h.next + 1 })

def marked {α : Type} (x : StateM Nat α) : StateM Heap α :=
  modifyGet fun h => ((x.run h.next).1, { h with next := (x.run h.next).2 })

def addExclusions : Exclusions → StateM Heap ExclusionsRef
  | .list items => return .list (← addList (← marked (Matcher.freshEach items)))
  | .tuple items => return .tuple (← marked (Matcher.freshEach items))
  | .foreign v => return .foreign v

/-- Makes a new object for an entry, with matchers that stand nowhere else. -/
def addEntry : Entry → StateM Heap Item
  | .draft d => do
    let matcher ← marked d.matcher.fresh
    let exclusions ← addExclusions d.exclusions
    return .rule (← addRule
      ⟨d.id, d.description, d.severity, matcher, exclusions, d.recommendation⟩)
  | .foreign v => return .foreign v

/-- Copies a checked rule into a new object, and its exclusions into a new list. -/
def keep (r : Rule Severity) : StateM Heap Kept := do
  let exclusions ← addList r.exclusions
  let address ← addRule ⟨.str r.id, r.description, .level r.severity, r.matcher,
    .list exclusions, r.recommendation⟩
  return ⟨r.id, address⟩

def load (h : Heap) (items : List Item) : Except LoadFailure (List Kept × Heap) :=
  match Registry.load (items.map h.entry) with
  | .ok registry => .ok ((registry.rules.mapM keep).run h)
  | .error failure => .error failure

/-! ### Edits -/

def editRule (h : Heap) (address : Nat) (f : RuleObject → RuleObject) : Heap :=
  { h with rule := fun a => if a = address then f (h.rule a) else h.rule a }

def append (h : Heap) (address : Nat) (m : Matcher) : Heap :=
  { h with list := fun a => if a = address then h.list a ++ [m] else h.list a }

/-- The heap after an edit. Only a list takes one more exclusion. -/
def edit? (h : Heap) : ObjectEdit → Option Heap
  | .field address (.severity v) => some (h.editRule address fun o => { o with severity := .raw v })
  | .field address (.matcher m) => some (h.editRule address fun o => { o with matcher := m })
  | .field address (.exclusion m) =>
    match (h.rule address).exclusions with
    | .list l => some (h.append l m)
    | .tuple _ | .foreign _ => none
  | .node mark e =>
    some { h with
      rule := fun a => (h.rule a).editAt mark e
      list := fun a => Matcher.editEachAt mark e (h.list a) }

/-- What an edit of an item comes to. A matcher must be one that takes the edit. -/
def aim? (h : Heap) : Item → RuleEdit → Option ObjectEdit
  | .rule address, .field e => some (.field address e)
  | .rule address, .node e =>
    ((h.rule address).matcher.target? e).map fun mark => .node mark e
  | .foreign _, _ => none

end Heap

end LineAudit
