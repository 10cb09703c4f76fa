import LineAudit.Number.Shortest
import LineAudit.Scan.File
import LineAudit.Scan.Pool

/-!
Scanning files within limits.

A scan is given up when the files have more lines than the cap, or when a line is reached after the
deadline. Nothing of a scan that is given up is kept. A deadline above zero is taken to lie beyond
the end of the scan, and any other has passed before the first line. Limits that are no times or
cannot be told are an error of their own.
-/

namespace LineAudit

/-- The limits of scans, and how many files are scanned side by side. -/
structure Engine where
  maxLines? : Option Int
  deadline? : Option Number
  workers : Int
  one_le_workers : 1 ≤ workers

inductive ScanAbort
  | tooLong (lines : Nat) (cap : Int)
  | late (deadline : Number) (path : String) (line : Nat)
  /-- There are more lines than the cap, which has too many digits to be told. -/
  | longCap
  /-- The deadline is a whole number beyond all times. -/
  | largeDeadline
  deriving DecidableEq, Repr

/-- What is said of a scan that is given up for its limits. The last two reasons are errors of the
caller's and no judgement on the scan. -/
def ScanAbort.message? : ScanAbort → Option String
  | tooLong lines cap => some s!"corpus has {lines} lines, exceeding the cap of {cap}"
  | late deadline path line =>
    some s!"scan exceeded its {deadline.text}s deadline at {path}:{line}"
  | longCap | largeDeadline => none

/-- What a scan finds: findings and failures of rules, each in order. -/
structure ScanResult (σ : Type) where
  findings : List (Finding σ)
  errors : List EvaluationError

namespace ScanResult

def warnings {σ : Type} (r : ScanResult σ) : List String := r.errors.map EvaluationError.warning

def severities {σ : Type} (r : ScanResult σ) : List σ := r.findings.map Finding.severity

/-- How many findings have a severity. -/
def count (r : ScanResult Severity) (s : Severity) : Nat := Severity.countIn r.severities s

def worst? (r : ScanResult Severity) : Option Severity := Severity.worst? r.severities

end ScanResult

namespace Engine

variable {σ : Type}

def unlimited : Engine := ⟨none, none, 1, Int.le_refl 1⟩

def workersText (workers : Int) : String := s!"workers must be >= 1, got {workers}"

/-- An engine with limits; none with less than one worker. -/
def make? (maxLines? : Option Int) (deadline? : Option Number) (workers : Int) : Option Engine :=
  if h : 1 ≤ workers then some ⟨maxLines?, deadline?, workers, h⟩ else none

/-- The deadline, if it has passed. -/
def passed? (e : Engine) : Option Number :=
  e.deadline?.filter fun deadline => deadline.isAtMostZero

def overCap? (e : Engine) (files : List SourceFile) : Option ScanAbort :=
  match e.maxLines? with
  | none => none
  | some cap =>
    let lines := SourceFile.totalLines files
    if cap < lines then
      some (if Number.isShort cap then .tooLong lines cap else .longCap)
    else none

def hasLargeDeadline (e : Engine) : Bool := e.deadline?.any Number.isTooLarge

/-- Scans one file, up to the deadline. -/
def scanFile (e : Engine) (rules : List (Rule σ)) (f : SourceFile) :
    Except ScanAbort (FileScan σ) :=
  match e.passed?, f.lines with
  | some deadline, _ :: _ => .error (.late deadline f.path 1)
  | _, _ => .ok (.run rules f)

/-- What was found in all files, in order. -/
def merge (scans : List (FileScan σ)) : ScanResult σ where
  findings := Placed.sorted (scans.flatMap FileScan.hits)
  errors := Placed.sorted (scans.flatMap FileScan.errors)

/-- The first reason to give up a scan, or what all files gave. -/
def gather (outcomes : List (Except ScanAbort (FileScan σ))) : Except ScanAbort (ScanResult σ) :=
  match outcomes.mapM id with
  | .ok scans => .ok (merge scans)
  | .error abort => .error abort

def scanSerially (e : Engine) (rules : List (Rule σ)) (files : List SourceFile) :
    Except ScanAbort (ScanResult σ) :=
  gather (files.map (e.scanFile rules))

/-- Scans files side by side. Files are named by their places, in the order in which their scans
complete. -/
def scanPooled (e : Engine) (order : List Nat) (rules : List (Rule σ)) (files : List SourceFile) :
    Except ScanAbort (ScanResult σ) :=
  gather (Pool.collect (files.map (e.scanFile rules)) order)

/-- Scans files, of which several are scanned side by side when there are several workers. Their
scans complete in the given order. -/
def scanIn (e : Engine) (order : List Nat) (rules : List (Rule σ)) (files : List SourceFile) :
    Except ScanAbort (ScanResult σ) :=
  match e.overCap? files with
  | some abort => .error abort
  | none =>
    if e.hasLargeDeadline then .error .largeDeadline
    else if 1 < e.workers ∧ 1 < files.length then e.scanPooled order rules files
    else e.scanSerially rules files

def scan (e : Engine) (rules : List (Rule σ)) (files : List SourceFile) :
    Except ScanAbort (ScanResult σ) :=
  e.scanIn (List.range files.length) rules files

end Engine

end LineAudit
