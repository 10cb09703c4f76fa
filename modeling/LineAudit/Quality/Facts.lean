import LineAudit.File.Source
import LineAudit.Matcher.Basic
import LineAudit.Quality.Pragma

/-!
Facts about a project as a whole: what it imports, whether it guards against reentrancy, and for
which compiler it is written.
-/

namespace LineAudit

/-- A fact, with the file from which it is known. -/
structure Fact where
  key : String
  value : Writable
  source : String

namespace Quality

def firstFileWith? (needles : List String) (files : List SourceFile) : Option SourceFile :=
  files.find? fun f => f.lines.any fun line => needles.any (contains line)

/-- The first pragma, with its file. -/
def firstPragma? : List SourceFile → Option (String × SourceFile)
  | [] => none
  | f :: rest =>
    match f.lines.find? Pragma.isPragma with
    | some line => some (Text.strip line, f)
    | none => firstPragma? rest

/-- What a fact is known from: a file, or all files. -/
def sourceText (file? : Option SourceFile) : String :=
  let path := (file?.map SourceFile.path).getD ""
  "quality:" ++ if path.isEmpty then "corpus" else path

def presence (key : String) (needles : List String) (files : List SourceFile) : Fact :=
  let file? := firstFileWith? needles files
  ⟨key, .bool file?.isSome, sourceText file?⟩

/-- The facts about some files. Too many digits in a version are refused with their number. -/
def facts (files : List SourceFile) : Except Nat (List Fact) := do
  let pragma? := firstPragma? files
  let source := sourceText (pragma?.map (·.2))
  let isChecked ← match pragma? with
    | some (line, _) => Pragma.namesChecked line
    | none => pure false
  return [
    presence "deps.openzeppelin" ["@openzeppelin"] files,
    presence "guards.reentrancy" ["ReentrancyGuard", "nonReentrant"] files,
    ⟨"compiler.pragma", (pragma?.map fun p => Writable.str p.1).getD .null, source⟩,
    ⟨"compiler.checked_arithmetic", .bool isChecked, source⟩]

end Quality

end LineAudit
