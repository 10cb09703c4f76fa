import LineAudit.Rule
import LineAudit.Value.Display

/-!
Registries: checked rules in the order in which they were given.

A registry is made from what a caller hands in, all of it or nothing. What is wrong with it is
reported all at once, in the order of the entries.
-/

namespace LineAudit

/-- What is wrong with an entry of a list of rules or of a rule pack. -/
inductive RuleProblem
  | emptyId
  | duplicateId (id : String)
  | severity (e : SeverityError)
  | missingMatcher
  | notMatcher (kind : String)
  | matcher (c : Complaint)
  | exclusionsNotList (kind : String)
  | exclusionNotMatcher (index : Nat) (kind : String)
  | exclusion (index : Nat) (c : Complaint)
  | missingKeys (keys : List String)
  | pattern (c : Complaint)
  | excludeNotList (kind : String)
  | exclude (index : Nat) (c : Complaint)

def RuleProblem.text : RuleProblem → String
  | emptyId => "id must be a non-empty string"
  | duplicateId id => "duplicate rule id '" ++ id ++ "'"
  | severity e => e.message
  | missingMatcher => "missing matcher"
  | notMatcher kind => "matcher must be a Matcher, got " ++ kind
  | matcher c => c.message "matcher"
  | exclusionsNotList kind => "exclusions must be a list, got " ++ kind
  | exclusionNotMatcher index kind => s!"exclusions[{index}] must be a Matcher, got " ++ kind
  | exclusion index c => c.message s!"exclusions[{index}]"
  | missingKeys keys => "missing keys: " ++ (Value.list (keys.map .str)).display
  | pattern c => c.message "pattern"
  | excludeNotList kind => "'exclude' must be a list, got " ++ kind
  | exclude index c => c.message s!"exclude[{index}]"

/-- What is wrong with the entry at an index: it is no rule at all, or there is a problem with the
rule of the given name. -/
inductive EntryProblem
  | notRule (index : Nat) (wanted kind : String)
  | rule (index : Nat) (name : String) (problem : RuleProblem)

def EntryProblem.text : EntryProblem → String
  | notRule index wanted kind => s!"rules[{index}]: expected {wanted}, got {kind}"
  | rule index name problem => s!"rules[{index}] (id={name}): " ++ problem.text

/-- Problems in words, one a line. -/
def validationText (problems : List EntryProblem) : String :=
  "rule validation failed:\n  " ++ "\n  ".intercalate (problems.map EntryProblem.text)

namespace Draft

def label (d : Draft) : String := if d.id.isTrue then d.id.text else "?"

/-- The id of a rule, when it is a text that is not blank. -/
def id? (d : Draft) : Option String :=
  match d.id with
  | .str s => if Text.isAllBlank s then none else some s
  | _ => none

/-- What is wrong with the id; `seen` holds the ids before it. -/
def idProblems (seen : List String) (d : Draft) : List RuleProblem :=
  match d.id? with
  | none => [.emptyId]
  | some id => if seen.contains id then [.duplicateId id] else []

def severityProblems (d : Draft) : List RuleProblem :=
  match d.severity.read with
  | .ok _ => []
  | .error e => [.severity e]

def matcherProblems (d : Draft) : List RuleProblem :=
  match d.matcher with
  | .foreign .null => [.missingMatcher]
  | .foreign v => [.notMatcher v.kindName]
  | m => m.complaints.map .matcher

/-- What is wrong with exclusions, the first of which has the given index. -/
def exclusionListProblems (index : Nat) : List Matcher → List RuleProblem
  | [] => []
  | .foreign v :: rest =>
    .exclusionNotMatcher index v.kindName :: exclusionListProblems (index + 1) rest
  | m :: rest => m.complaints.map (.exclusion index) ++ exclusionListProblems (index + 1) rest

def exclusionProblems (d : Draft) : List RuleProblem :=
  match d.exclusions with
  | .list items | .tuple items => exclusionListProblems 0 items
  | .foreign v => [.exclusionsNotList v.kindName]

def ownProblems (d : Draft) : List RuleProblem :=
  d.severityProblems ++ d.matcherProblems ++ d.exclusionProblems

/-- The checked rule, when nothing is wrong. -/
def rule? (d : Draft) : Option (Rule Severity) :=
  match d.id?, d.severity.read, d.exclusions with
  | some id, .ok severity, .list items | some id, .ok severity, .tuple items =>
    some ⟨id, d.description, severity, d.matcher, items, d.recommendation⟩
  | _, _, _ => none

end Draft

/-- What is wrong with entries, the first of which has the given index; `seen` holds the ids before
it. -/
def entryProblems (index : Nat) (seen : List String) : List Entry → List EntryProblem
  | [] => []
  | .foreign v :: rest => .notRule index "Rule" v.kindName :: entryProblems (index + 1) seen rest
  | .draft d :: rest =>
    (d.idProblems seen ++ d.ownProblems).map (.rule index d.label) ++
      entryProblems (index + 1) (seen ++ d.id?.toList) rest

def Entry.hasWritableId : Entry → Bool
  | .draft d => d.id.isWritable
  | .foreign _ => true

def Entry.rule? : Entry → Option (Rule Severity)
  | .draft d => d.rule?
  | .foreign _ => none

inductive LoadFailure
  | invalid (problems : List EntryProblem)
  /-- The id of a rule holds a whole number that has too many digits to be told. -/
  | longId

/-- Rules in order, with severities of type `σ`. -/
structure Registry (σ : Type) where
  rules : List (Rule σ)

inductive LookupFailure
  | unknown (id : Writable)
  /-- The id holds a whole number that has too many digits to be told. -/
  | longId
  /-- The value is none that can be looked up. -/
  | wrongKind

def LookupFailure.message? : LookupFailure → Option String
  | unknown id => some ("unknown rule id '" ++ id.text ++ "'")
  | longId | wrongKind => none

def LookupFailure.ofId (id : Value) : LookupFailure :=
  match Writable.ofValue? id with
  | some id => unknown id
  | none => longId

namespace Registry

variable {σ : Type}

/-- Makes a registry from what a caller hands in, or reports everything that is wrong. -/
def load (entries : List Entry) : Except LoadFailure (Registry Severity) :=
  if entries.all Entry.hasWritableId then
    match entryProblems 0 [] entries with
    | [] => .ok ⟨entries.filterMap Entry.rule?⟩
    | problems => .error (.invalid problems)
  else .error .longId

def marked (r : Registry Severity) : Registry SeverityMark :=
  ⟨r.rules.map fun rule => rule.withSeverity (.level rule.severity)⟩

/-- The rules of a registry, handed in again. -/
def entries (r : Registry SeverityMark) : List Entry := r.rules.map fun rule => .draft rule.toDraft

def ids (r : Registry σ) : List String := r.rules.map Rule.id

def size (r : Registry σ) : Nat := r.rules.length

def find? (r : Registry σ) (id : String) : Option (Rule σ) := r.rules.find? fun rule => rule.id = id

def get (r : Registry σ) (id : Value) : Except LookupFailure (Rule σ) :=
  if !id.isKey then .error .wrongKind
  else match id.str?.bind r.find? with
    | some rule => .ok rule
    | none => .error (.ofId id)

def contains (r : Registry σ) (id : Value) : Except LookupFailure Bool :=
  if !id.isKey then .error .wrongKind else .ok (id.str?.bind r.find?).isSome

end Registry

end LineAudit
