import LineAudit.File.Tree
import LineAudit.Matcher.Spec
import LineAudit.Registry
import LineAudit.Text.Utf8
import LineAudit.Yaml.Reader

/-!
Rule packs: files from which registries are read.

A pack is a mapping with a list of rules. The form of each rule is checked before any rule is made;
the rules made are then checked like those of any caller.
-/

namespace LineAudit

/-- Why a rule pack gives no registry. -/
inductive PackFailure
  | notFound
  | notYaml (fault : Yaml.Fault)
  | notMapping
  | rulesNotList
  | badEntries (problems : List EntryProblem)
  /-- The file cannot be read. -/
  | unreadable (e : SystemError)
  /-- The bytes of the file are no text. -/
  | notText
  | mishap (m : Yaml.Mishap)
  /-- The pack would hold a value that holds itself. -/
  | selfAlias
  | spec (failure : SpecFailure)
  /-- An id or a description holds a whole number with too many digits. -/
  | longNumber

namespace PackFailure

/-- What is said of a bad pack. The other failures are no judgement on the pack and have no
words. -/
def message? (path : String) : PackFailure → Option String
  | notFound => some (path ++ ": rule file not found")
  | notYaml fault => some (path ++ ": invalid YAML: " ++ fault.message path)
  | notMapping => some (path ++ ": expected a YAML mapping at top level")
  | rulesNotList => some (path ++ ": 'rules' must be a list")
  | badEntries problems => some (path ++ ": " ++ validationText problems)
  | unreadable _ | notText | mishap _ | selfAlias | spec _ | longNumber => none

end PackFailure

namespace Pack

/-- The keys that every rule of a pack must have, in the order in which missing ones are listed. -/
def requiredKeys : List String := ["description", "id", "pattern", "severity"]

def missingKeys (entries : List (Value × Value)) : List String :=
  requiredKeys.filter fun key => (Value.field? key entries).isNone

def checkSpec (spec : Value) : Except PackFailure (List Complaint) :=
  match Spec.complaints spec with
  | .ok cs => .ok cs
  | .error failure => .error (.spec failure)

def patternProblems (entries : List (Value × Value)) : Except PackFailure (List RuleProblem) :=
  match Value.field? "pattern" entries with
  | some spec => return (← checkSpec spec).map .pattern
  | none => return []

/-- What is wrong with exclusions, the first of which has the given index. -/
def excludeListProblems (index : Nat) : List Value → Except PackFailure (List RuleProblem)
  | [] => return []
  | spec :: rest => do
    let here ← checkSpec spec
    return here.map (.exclude index) ++ (← excludeListProblems (index + 1) rest)

def excludeProblems (entries : List (Value × Value)) : Except PackFailure (List RuleProblem) :=
  match Value.field? "exclude" entries with
  | none => return []
  | some (.list specs) => excludeListProblems 0 specs
  | some v => return [.excludeNotList v.kindName]

def formProblems (entries : List (Value × Value)) : Except PackFailure (List RuleProblem) := do
  let missing := missingKeys entries
  let missingProblems := if missing.isEmpty then [] else [RuleProblem.missingKeys missing]
  return missingProblems ++ (← patternProblems entries) ++ (← excludeProblems entries)

/-- The plain text of a value, which has none when it cannot be written. -/
def written (v : Value) : Except PackFailure String :=
  if v.isWritable then .ok v.text else .error .longNumber

def label (entries : List (Value × Value)) : Except PackFailure String :=
  written ((Value.field? "id" entries).getD (.str "?"))

/-- Everything that is wrong with the form of rules, the first of which has the given index. -/
def entryProblems (index : Nat) : List Value → Except PackFailure (List EntryProblem)
  | [] => return []
  | .dict entries :: rest => do
    let name ← label entries
    let here ← formProblems entries
    return here.map (.rule index name) ++ (← entryProblems (index + 1) rest)
  | v :: rest => return .notRule index "dict" v.kindName :: (← entryProblems (index + 1) rest)

def buildMatcher (spec : Value) : Except PackFailure Matcher :=
  match Spec.build spec with
  | .ok m => .ok m
  | .error failure => .error (.spec failure)

def buildExclusions (entries : List (Value × Value)) : Except PackFailure (List Matcher) :=
  match Value.field? "exclude" entries with
  | some (.list specs) => specs.mapM buildMatcher
  | _ => return []

def draft (entries : List (Value × Value)) : Except PackFailure Draft := do
  return {
    id := .str (← written (Value.fieldD "id" entries))
    description := .str (← written (Value.fieldD "description" entries))
    severity := .raw (Value.fieldD "severity" entries)
    matcher := ← buildMatcher (Value.fieldD "pattern" entries)
    exclusions := .list (← buildExclusions entries)
    recommendation := Value.fieldD "recommendation" entries }

def entry : Value → Except PackFailure Entry
  | .dict entries => return .draft (← draft entries)
  | v => return .foreign v

def ofRules (items : List Value) : Except PackFailure (Registry Severity) := do
  match ← entryProblems 0 items with
  | [] =>
    match Registry.load (← items.mapM entry) with
    | .ok registry => return registry
    | .error (.invalid problems) => throw (.badEntries problems)
    | .error .longId => throw .longNumber
  | problems => throw (.badEntries problems)

def ofValue : Value → Except PackFailure (Registry Severity)
  | .dict entries =>
    match Value.field? "rules" entries with
    | none => ofRules []
    | some (.list items) => ofRules items
    | some _ => .error .rulesNotList
  | _ => .error .notMapping

def ofText (text : String) : Except PackFailure (Registry Severity) :=
  match Yaml.read text with
  | .ok v => ofValue v
  | .error (.fault fault) => .error (.notYaml fault)
  | .error (.mishap m) => .error (.mishap m)
  | .error .selfAlias => .error .selfAlias

def ofBytes (bytes : ByteArray) : Except PackFailure (Registry Severity) :=
  match Text.decode? bytes with
  | some text => ofText text
  | none => .error .notText

def ofPath (t : FileTree) (p : Path) : Except PackFailure (Registry Severity) :=
  match t.file? p with
  | none => .error .notFound
  | some f =>
    match f.problem? with
    | some e => .error (.unreadable e)
    | none => ofBytes f.bytes

end Pack

end LineAudit
