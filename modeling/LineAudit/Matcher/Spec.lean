import LineAudit.Matcher.Basic
import LineAudit.Value.Order

/-!
Specifications of matchers, as written in rule packs.

A specification is a text, which stands for a literal, or a mapping with exactly one of the keys
`literal`, `regex`, `any` and `all`. Other keys are free; `ignore_case` beside `regex` is one that
has a meaning.
-/

namespace LineAudit

inductive SpecFailure
  /-- The keys of a mapping have no common order in which to list them. -/
  | unsortedKeys
  /-- A key to be listed is a whole number with too many digits. -/
  | longKey
  | refused (refusal : RegexRefusal)
  /-- A value is not of the kind that the building step needs. -/
  | wrongKind
  /-- A mapping has none of the keys that say what it is. -/
  | missingKey
  deriving DecidableEq, Repr

namespace Spec

def ignoresCase (entries : List (Value × Value)) : Bool :=
  (Value.fieldD "ignore_case" entries).isTrue

def regexProblem (pattern : Value) (ignoreCase : Bool) : Except SpecFailure (List Complaint) :=
  match Regex.make pattern ignoreCase with
  | .ok r => .ok (Matcher.regexComplaints r)
  | .error refusal => .error (.refused refusal)

def literalProblem : Value → List Complaint
  | .str s => if s.isEmpty then Matcher.complain .emptyLiteralKey else []
  | _ => Matcher.complain .emptyLiteralKey

/-- The keys of a mapping to be listed, in ascending order. -/
def sortedKeys (entries : List (Value × Value)) : Except SpecFailure (List Value) :=
  match Value.sort? (entries.map (·.1)) with
  | some keys => if Value.areWritable keys then .ok keys else .error .longKey
  | none => .error .unsortedKeys

/-- The keys of a mapping that say what it is, in a fixed order. -/
def kindKeys (entries : List (Value × Value)) : List String :=
  specKeys.filter fun key => (Value.field? key entries).isSome

mutual

def complaints : Value → Except SpecFailure (List Complaint)
  | .str s => .ok (if s.isEmpty then Matcher.complain .emptyLiteral else [])
  | .dict entries =>
    match kindKeys entries with
    | ["literal"] => .ok (literalProblem (Value.fieldD "literal" entries))
    | ["regex"] => regexProblem (Value.fieldD "regex" entries) (ignoresCase entries)
    | ["any"] => entryComplaints .any entries
    | ["all"] => entryComplaints .all entries
    | _ => do return Matcher.complain (.keyCount (← sortedKeys entries))
  | v => .ok (Matcher.complain (.notSpec v.kindName))

def entryComplaints (joint : Joint) :
    List (Value × Value) → Except SpecFailure (List Complaint)
  | [] => .ok []
  | (k, v) :: rest =>
    if Value.sameKey k (.str joint.key) then listComplaints joint v
    else entryComplaints joint rest

def listComplaints (joint : Joint) : Value → Except SpecFailure (List Complaint)
  | .list [] => .ok (Matcher.complain (.noAlternative joint))
  | .list items => itemComplaints joint 0 items
  | v => .ok (Matcher.complain (.notList joint v.kindName))

/-- What is malformed below children, the first of which has the given index. -/
def itemComplaints (joint : Joint) (index : Nat) :
    List Value → Except SpecFailure (List Complaint)
  | [] => .ok []
  | item :: rest => do
    let here ← complaints item
    return here.map (Complaint.under ⟨joint, index⟩) ++
      (← itemComplaints joint (index + 1) rest)

end

def buildRegex (pattern : Value) (ignoreCase : Bool) : Except SpecFailure Matcher :=
  match Regex.make pattern ignoreCase with
  | .ok r => .ok (.regex 0 r)
  | .error refusal => .error (.refused refusal)

def joint? (entries : List (Value × Value)) : Option Joint :=
  if (Value.field? "any" entries).isSome then some .any
  else if (Value.field? "all" entries).isSome then some .all
  else none

/-- The leaf that a mapping without a joint is built as. -/
def buildLeaf (entries : List (Value × Value)) : Except SpecFailure Matcher :=
  match Value.field? "literal" entries, Value.field? "regex" entries with
  | some v, _ => .ok (.literal 0 v)
  | none, some pattern => buildRegex pattern (ignoresCase entries)
  | none, none => .error .missingKey

def join (joint : Joint) (children : List Matcher) : Matcher :=
  match joint with
  | .any => .any 0 children
  | .all => .all 0 children

mutual

/-- The matcher of a specification. Of several keys a joint comes first. -/
def build : Value → Except SpecFailure Matcher
  | .str s => .ok (.literal 0 (.str s))
  | .dict entries =>
    match joint? entries with
    | some joint => do return join joint (← buildEntry joint entries)
    | none => buildLeaf entries
  | _ => .error .wrongKind

def buildEntry (joint : Joint) : List (Value × Value) → Except SpecFailure (List Matcher)
  | [] => .error .missingKey
  | (k, v) :: rest =>
    if Value.sameKey k (.str joint.key) then buildChildren v else buildEntry joint rest

/-- The children that a value holds: items, the characters of a text, or the keys of a mapping. -/
def buildChildren : Value → Except SpecFailure (List Matcher)
  | .list items => buildAll items
  | .tuple items => buildAll items
  | .set items => buildAll items
  | .str s => .ok (s.toList.map fun c => .literal 0 (.str c.toString))
  | .dict entries => buildKeys entries
  | _ => .error .wrongKind

def buildAll : List Value → Except SpecFailure (List Matcher)
  | [] => .ok []
  | item :: rest => do
    let m ← build item
    return m :: (← buildAll rest)

def buildKeys : List (Value × Value) → Except SpecFailure (List Matcher)
  | [] => .ok []
  | (key, _) :: rest => do
    let m ← build key
    return m :: (← buildKeys rest)

end

end Spec

end LineAudit
