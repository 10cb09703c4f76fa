/-!
Loggers with names, and the toggle between detailed and brief logging.

A logger that is obtained takes its level from the toggle, and keeps in step with it from then on.
The root hands records on to handlers; it is set up once, and only if nobody has given it a handler
before. The root has no name here: it is obtained by nobody, and its level is set with its
handlers.
-/

namespace LineAudit.Log

/-- How much a record matters, or from where on a logger passes records. -/
inductive Level
  | notSet
  | debug
  | info
  | warning
  deriving DecidableEq, Repr

namespace Level

def name : Level → String
  | notSet => "NOTSET"
  | debug => "DEBUG"
  | info => "INFO"
  | warning => "WARNING"

def rank : Level → Nat
  | notSet => 0
  | debug => 10
  | info => 20
  | warning => 30

end Level

/-- A name of a logger below the root. The empty name and `root` are names of the root itself. -/
structure Name where
  text : String
  below_root : text ≠ "" ∧ text ≠ "root"
  deriving DecidableEq, Repr

structure Record where
  level : Level
  logger : Name
  message : String
  deriving DecidableEq, Repr

/-- Where the root hands on records: to the console, or to a handler that somebody else has added.
-/
inductive Handler
  | console
  | foreign
  deriving DecidableEq, Repr

/-- All loggers below the root, and the root. Those in `levels` have been obtained. -/
structure Loggers where
  detailed : Bool
  levels : List (Name × Level)
  handlers : List Handler
  rootLevel : Level
  deriving Repr

namespace Loggers

def begin : Loggers := ⟨false, [], [], .warning⟩

def wanted (detailed : Bool) : Level := if detailed then .debug else .info

def levelOf (l : Loggers) (name : Name) : Level := (l.levels.lookup name).getD .notSet

def setLevel (levels : List (Name × Level)) (name : Name) (level : Level) : List (Name × Level) :=
  match levels with
  | [] => [(name, level)]
  | (n, old) :: rest =>
    if n = name then (n, level) :: rest else (n, old) :: setLevel rest name level

def obtain (l : Loggers) (name : Name) : Loggers :=
  { l with levels := setLevel l.levels name (wanted l.detailed) }

def setDetailed (l : Loggers) (detailed : Bool) : Loggers :=
  { l with detailed, levels := l.levels.map fun (name, _) => (name, wanted detailed) }

def addHandler (l : Loggers) : Loggers := { l with handlers := l.handlers ++ [.foreign] }

/-- Sets up the root. -/
def configure (l : Loggers) : Loggers :=
  if l.handlers.isEmpty then { l with handlers := [.console], rootLevel := .debug } else l

def passes (l : Loggers) (r : Record) : Bool := (l.levelOf r.logger).rank ≤ r.level.rank

end Loggers

/-- Something that happens to loggers. -/
inductive Event
  | obtain (name : Name)
  | setDetailed (detailed : Bool)
  | addHandler
  | configure

def Loggers.on (l : Loggers) : Event → Loggers
  | .obtain name => l.obtain name
  | .setDetailed detailed => l.setDetailed detailed
  | .addHandler => l.addHandler
  | .configure => l.configure

def Loggers.after (l : Loggers) (events : List Event) : Loggers := events.foldl Loggers.on l

end LineAudit.Log
