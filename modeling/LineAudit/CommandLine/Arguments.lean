import LineAudit.CommandLine.Word
import LineAudit.Config

/-!
What a command line asks for.

Words are taken from left to right. A parameter that takes a value takes the next word, which must
name no parameter. The first word besides is the target, and any more are strays, about which a
complaint comes last of all. Help and version end the reading where they stand.
-/

namespace LineAudit.CommandLine

/-- What a command line asks for. -/
structure Arguments where
  target : String
  json : Bool
  rules? : Option Path
  failOn? : Option Severity
  outputDir? : Option Path
  maxLines? : Option Int
  timeout? : Option Number
  workers? : Option Int
  noSlither : Bool
  verbose : Bool
  deriving DecidableEq, Repr

inductive ArgumentProblem
  | ambiguous (w : AmbiguousWord)
  | noValue (p : Parameter)
  | unwantedValue (p : Parameter) (value : String)
  | notInteger (p : Parameter) (value : String)
  | notNumber (p : Parameter) (value : String)
  | notChoice (p : Parameter) (value : String)
  | strays (words : List String)
  deriving DecidableEq, Repr

def choices : String := ", ".intercalate (Severity.all.map fun s => Text.quoted s.name)

def ArgumentProblem.message : ArgumentProblem → String
  | ambiguous w => "ambiguous option: " ++ w.text ++ " could match " ++
      ", ".intercalate (w.candidates.map Parameter.name)
  | noValue p => "argument " ++ p.label ++ ": expected one argument"
  | unwantedValue p value =>
    "argument " ++ p.label ++ ": ignored explicit argument " ++ Text.quoted value
  | notInteger p value => "argument " ++ p.label ++ ": invalid int value: " ++ Text.quoted value
  | notNumber p value => "argument " ++ p.label ++ ": invalid float value: " ++ Text.quoted value
  | notChoice p value => "argument " ++ p.label ++ ": invalid choice: " ++ Text.quoted value ++
      " (choose from " ++ choices ++ ")"
  | strays words => "unrecognized arguments: " ++ " ".intercalate words

/-- Why a command line leads to no run. -/
inductive Stop
  | help
  | version
  | problem (e : ArgumentProblem)
  deriving DecidableEq, Repr

namespace Arguments

def default : Arguments where
  target := "."
  json := false
  rules? := none
  failOn? := none
  outputDir? := none
  maxLines? := none
  timeout? := none
  workers? := none
  noSlither := false
  verbose := false

/-- A value that has been read, or the problem that there is none. -/
def orProblem {α : Type} (problem : ArgumentProblem) : Option α → Except Stop α
  | some a => .ok a
  | none => .error (.problem problem)

def set (a : Arguments) (p : Parameter) (value : String) : Except Stop Arguments :=
  match p with
  | .rules => .ok { a with rules? := some (Path.ofText value) }
  | .failOn =>
    (orProblem (.notChoice p value) (Severity.all.find? fun s => s.name = value)).map fun s =>
      { a with failOn? := some s }
  | .outputDir => .ok { a with outputDir? := some (Path.ofText value) }
  | .maxLines =>
    (orProblem (.notInteger p value) (Config.wholeNumber? value)).map fun n =>
      { a with maxLines? := some n }
  | .timeout =>
    (orProblem (.notNumber p value) (Config.pointNumber? value)).map fun x =>
      { a with timeout? := some x }
  | .workers =>
    (orProblem (.notInteger p value) (Config.wholeNumber? value)).map fun n =>
      { a with workers? := some n }
  | .help | .json | .noSlither | .verbose | .version =>
    .error (.problem (.unwantedValue p value))

def turnOn (a : Arguments) (p : Parameter) : Except Stop Arguments :=
  match p with
  | .help => .error .help
  | .version => .error .version
  | .json => .ok { a with json := true }
  | .noSlither => .ok { a with noSlither := true }
  | .verbose => .ok { a with verbose := true }
  | .rules | .failOn | .outputDir | .maxLines | .timeout | .workers =>
    .error (.problem (.noValue p))

def explicit (a : Arguments) : Explicit where
  rulesPath? := a.rules?
  failOn? := a.failOn?.map fun s => ⟨.str s.name, by simp⟩
  maxLines? := a.maxLines?
  timeout? := a.timeout?
  workers? := a.workers?

end Arguments

/-- Whether the target has been given, and if so, by the very last word or before. -/
inductive TargetState
  | missing
  | justGiven
  | given
  deriving DecidableEq, Repr

/-- What has been read so far. A parameter may wait for its value. -/
structure Reading where
  arguments : Arguments
  targetState : TargetState
  waiting? : Option Parameter
  strays : List String

namespace Reading

def begin : Reading := ⟨.default, .missing, none, []⟩

/-- What has been read, when the last word is not the target. -/
def proceed (r : Reading) : Reading :=
  { r with targetState := if r.targetState = .missing then .missing else .given }

def addStray (r : Reading) (word : String) : Reading :=
  { r.proceed with strays := r.strays ++ [word] }

/-- The parameters of letters behind a single hyphen, the first of which is read, and the stray that
is left at the first letter that stands for none. -/
def parametersOf (p : Parameter) :
    List Char → Except ArgumentProblem (List Parameter × List String)
  | [] => .ok ([p], [])
  | c :: rest =>
    if c = '-' then .error (.unwantedValue p (String.ofList (c :: rest)))
    else match Parameter.ofLetter? c with
      | none => .ok ([p], [String.ofList ('-' :: c :: rest)])
      | some q =>
        if rest.head? = some '=' then .error (.unwantedValue q (String.ofList rest.tail))
        else match parametersOf q rest with
          | .ok (ps, strays) => .ok (p :: ps, strays)
          | .error e => .error e

def turnOn (r : Reading) (ps : List Parameter) : Except Stop Reading :=
  match ps.foldlM Arguments.turnOn r.arguments with
  | .ok arguments => .ok { r.proceed with arguments }
  | .error stop => .error stop

def set (r : Reading) (p : Parameter) (value : String) : Except Stop Reading :=
  match r.arguments.set p value with
  | .ok arguments => .ok { r.proceed with arguments, waiting? := none }
  | .error stop => .error stop

def addPlain (r : Reading) (word : String) : Reading :=
  match r.targetState with
  | .missing =>
    { r with arguments := { r.arguments with target := word }, targetState := .justGiven }
  | .justGiven | .given => r.addStray word

/-- The word of two hyphens is a stray unless it stands before the target or right behind it. -/
def addDivider (r : Reading) : Reading :=
  match r.targetState with
  | .missing => r
  | .justGiven => r.proceed
  | .given => r.addStray "--"

def take (r : Reading) (word : Word) : Except Stop Reading :=
  match r.waiting?, word with
  | some p, .plain value => r.set p value
  | some p, _ => .error (.problem (.noValue p))
  | none, .plain text => .ok (r.addPlain text)
  | none, .divider => .ok r.addDivider
  | none, .unknown text => .ok (r.addStray text)
  | none, .named p (some value) => r.set p value
  | none, .named p none =>
    if p.takesValue then .ok { r.proceed with waiting? := some p } else r.turnOn [p]
  | none, .letters p more =>
    match parametersOf p more with
    | .ok (ps, strays) =>
      (match r.turnOn ps with
      | .ok r => .ok { r with strays := r.strays ++ strays }
      | .error stop => .error stop)
    | .error e => .error (.problem e)

def finish (r : Reading) : Except Stop Arguments :=
  match r.waiting?, r.strays with
  | some p, _ => .error (.problem (.noValue p))
  | none, [] => .ok r.arguments
  | none, strays => .error (.problem (.strays strays))

end Reading

def Arguments.ofWords (words : List Word) : Except Stop Arguments :=
  match words.foldlM Reading.take Reading.begin with
  | .ok r => r.finish
  | .error stop => .error stop

def Arguments.ofTexts (texts : List String) : Except Stop Arguments :=
  match Word.ofTexts texts with
  | .ok words => Arguments.ofWords words
  | .error w => .error (.problem (.ambiguous w))

end LineAudit.CommandLine
