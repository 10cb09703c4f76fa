/-!
Paths in one spelling.

Separators in a row count as one and points alone as nothing, while two points in a row stay as they
are. A path that starts with exactly two separators keeps both. The empty path is a point.
-/

namespace LineAudit

/-- A path: what it starts with, and the names in it. -/
structure Path where
  root : String
  parts : List String
  deriving DecidableEq, Repr, Inhabited

namespace Path

def splitSlashes (cs : List Char) : List (List Char) :=
  let (last, pieces) := cs.foldr (fun c (piece, pieces) =>
    if c = '/' then ([], piece :: pieces) else (c :: piece, pieces)) ([], [])
  last :: pieces

def rootOf : List Char → String
  | '/' :: '/' :: '/' :: _ => "/"
  | '/' :: '/' :: _ => "//"
  | '/' :: _ => "/"
  | _ => ""

def ofText (s : String) : Path :=
  let pieces := (splitSlashes s.toList).filter fun piece => !piece.isEmpty && piece != ['.']
  ⟨rootOf s.toList, pieces.map String.ofList⟩

def joined (parts : List String) : String := "/".intercalate parts

def text (p : Path) : String :=
  if p.root.isEmpty && p.parts.isEmpty then "." else p.root ++ joined p.parts

def below (p : Path) (parts : List String) : Path := { p with parts := p.parts ++ parts }

def name (p : Path) : String := p.parts.getLastD ""

/-- What stands in a name from its last point on; nothing when that point is the first or the last
character. -/
def extensionOf (name : String) : String :=
  let cs := name.toList.reverse
  let tail := cs.takeWhile (· ≠ '.')
  let front := (cs.drop (tail.length + 1))
  if tail.isEmpty || front.isEmpty then "" else String.ofList ('.' :: tail.reverse)

end Path

end LineAudit
