import LineAudit.File.Source
import LineAudit.Scan.Finding

/-!
Scanning one file.

Every rule is put to every line. A rule that fails on a line is broken: it is not put to the lines
after it, while other rules go on.
-/

namespace LineAudit

/-- What has been found in a file so far, and the places of the rules that are broken. -/
structure FileScan (σ : Type) where
  hits : List (Placed (Finding σ))
  errors : List (Placed EvaluationError)
  broken : List Nat

namespace FileScan

variable {σ : Type}

def begin : FileScan σ := ⟨[], [], []⟩

def finding (path : String) (number : Nat) (line : String) (r : Rule σ) : Finding σ :=
  ⟨r.id, r.severity, path, number, Text.strip line⟩

def putRule (path : String) (number : Nat) (line : String) (s : FileScan σ)
    (placed : Rule σ × Nat) : FileScan σ :=
  let (r, position) := placed
  if s.broken.contains position then s
  else match r.fires line with
    | .ok false => s
    | .ok true =>
      { s with hits := s.hits ++ [⟨path, number, position, finding path number line r⟩] }
    | .error failure =>
      let error : EvaluationError := ⟨r.id, path, number, failure⟩
      { s with
        errors := s.errors ++ [⟨path, number, position, error⟩]
        broken := position :: s.broken }

def putLine (rules : List (Rule σ)) (path : String) (s : FileScan σ) (numbered : String × Nat) :
    FileScan σ :=
  rules.zipIdx.foldl (putRule path numbered.2 numbered.1) s

def run (rules : List (Rule σ)) (f : SourceFile) : FileScan σ :=
  (f.lines.zipIdx 1).foldl (putLine rules f.path) begin

end FileScan

end LineAudit
