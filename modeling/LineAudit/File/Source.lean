import LineAudit.Text.Lines

/-!
Source files: a path and lines.
-/

namespace LineAudit

structure SourceFile where
  path : String
  lines : List String
  deriving DecidableEq, Repr, Inhabited

namespace SourceFile

def ofText (path text : String) : SourceFile := ⟨path, Text.lines text⟩

def totalLines : List SourceFile → Nat
  | [] => 0
  | f :: rest => f.lines.length + totalLines rest

end SourceFile

end LineAudit
