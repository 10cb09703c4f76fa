import LineAudit.File.Source
import LineAudit.File.Tree
import LineAudit.Text.Lowercase
import LineAudit.Text.Utf8

/-!
The source files below a target.

A target that is a file stands for itself. Below a folder those files are taken whose extension is
one of the wanted ones and that lie in no excluded folder. Files that cannot be read as text are
left out with a warning.
-/

namespace LineAudit

namespace Corpus

/-- Which files below a folder are taken. -/
structure Selection where
  extensions : List String
  excludedFolders : List String

def Selection.solidity : Selection where
  extensions := [".sol"]
  excludedFolders :=
    [".git", "node_modules", "lib", "cache", "out", "artifacts", "build", "coverage"]

inductive Warning
  | notFound (target : Path)
  | notText (file : Path)
  | unreadable (file : Path) (e : SystemError)

def Warning.text : Warning → String
  | notFound target => "target not found: " ++ target.text
  | notText file => "skipping " ++ file.text ++ ": not valid UTF-8"
  | unreadable file e => "skipping " ++ file.text ++ ": " ++ e.briefText

/-- The letter case of an extension does not count. -/
def Selection.wantsName (s : Selection) (name : String) : Bool :=
  (s.extensions.map Text.lowercase).contains (Text.lowercase (Path.extensionOf name))

/-- A file is taken, given the names that lead to it from the target. -/
def Selection.takes (s : Selection) (names : List String) : Bool :=
  names.dropLast.all (fun name => !s.excludedFolders.contains name) &&
    s.wantsName (names.getLastD "")

/-- The files to be read: for each the path in warnings, the path in findings, and the file. -/
def candidates (t : FileTree) (s : Selection) (target : Path) (place : List String) :
    List (Path × String × StoredFile) :=
  match t.fileAt? place with
  | some f => [(target, target.name, f)]
  | none =>
    let taken := (t.below place).filter fun (names, _) => s.takes names
    let named := taken.map fun (names, f) => (target.below names, Path.joined names, f)
    named.mergeSort fun a b => decide (a.2.1 ≤ b.2.1)

/-- A file as source, or why it is left out. -/
def readFile (path : Path) (name : String) (f : StoredFile) : Except Warning SourceFile :=
  match f.problem? with
  | some e => .error (.unreadable path e)
  | none =>
    match Text.decode? f.bytes with
    | some text => .ok (.ofText name (Text.dropByteOrderMark text))
    | none => .error (.notText path)

/-- The source files of a target, in the order of their paths, and the warnings in that order. -/
def load (t : FileTree) (s : Selection) (target : Path) : List SourceFile × List Warning :=
  match t.resolve? target with
  | none => ([], [.notFound target])
  | some place =>
    let results := (candidates t s target place).map fun (path, name, f) => readFile path name f
    (results.filterMap fun
        | .ok source => some source
        | .error _ => none,
      results.filterMap fun
        | .ok _ => none
        | .error warning => some warning)

end Corpus

end LineAudit
