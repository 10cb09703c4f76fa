import LineAudit.CommandLine.Run
import Std.Time.DateTime

/-!
The program.

It reads from the disk what a run may look at, lets the run happen, and then shows, logs and writes
what came of it. It starts no other program, so the analyzer counts as not installed.
-/

namespace LineAudit.CommandLine

/-- Adds what lies at a place on the disk to a tree: files with their bytes where their names are
wanted, and folders with what is in them, down to a depth. -/
def addPlace (wants : String → Bool) (place : List String) : Nat → FileTree → IO FileTree
  | 0, t => return t
  | depth + 1, t => do
    let path := (← IO.currentDir) / ("/" ++ Path.joined place)
    let name := place.getLastD ""
    if ← path.isDir then
      let mut tree := t.addFolder place
      if 0 < depth then
        for entry in ← path.readDir do
          unless Corpus.Selection.solidity.excludedFolders.contains entry.fileName do
            tree ← addPlace wants (place ++ [entry.fileName]) depth tree
      return tree
    else if ← path.pathExists then
      if wants name then
        try return t.addFile ⟨place, ← IO.FS.readBinFile path, none⟩
        catch e => return t.addFile ⟨place, .empty, some ⟨[.str e.toString]⟩⟩
      else return t.addFile ⟨place, .empty, none⟩
    else return t

def placesOn (start : List String) : List String → List (List String)
  | [] => [start]
  | name :: rest =>
    start :: placesOn (if name = ".." then start.dropLast else start ++ [name]) rest

/-- Adds what a path passes to a tree, and what lies below its end, down to a depth. -/
def addPath (wants : String → Bool) (depth : Nat) (t : FileTree) (p : Path) : IO FileTree := do
  let places := placesOn (t.startOf p) p.parts
  let mut tree := t
  for place in places do
    tree ← addPlace (fun _ => true) place 1 tree
  addPlace wants (places.getLastD []) depth tree

def depthLimit : Nat := 64

def readDisk (a : Arguments) (rules? : Option Path) : IO FileTree := do
  let here := (Path.ofText (← IO.currentDir).toString).parts
  let mut tree := FileTree.emptyAt here
  if let some folder := a.outputDir? then
    tree ← addPath (fun _ => false) 2 tree folder
  if let some path := rules? then
    tree ← addPath (fun _ => true) 1 tree path
  addPath Corpus.Selection.solidity.wantsName depthLimit tree (Path.ofText a.target)

def readEnvironment : IO Environment := do
  let names := [Config.rulesVariable, Config.failOnVariable, Config.maxLinesVariable,
    Config.timeoutVariable, Config.workersVariable]
  let found ← names.filterMapM fun name => do
    return (← IO.getEnv name).map fun value => (name, value)
  return fun name => found.lookup name

/-- The date at Greenwich, in words. -/
def readDate : IO String := do
  let now := Std.Time.PlainDateTime.ofWallTime (.ofTimestamp (← Std.Time.Timestamp.now) .zero)
  let date : Date := ⟨now.year.toInt.toNat, now.month.toNat, now.day.toNat⟩
  return Markdown.dateText
    ⟨date, now.hour.toNat, now.minute.toNat, now.second.toNat, 0, some 0⟩

def readSurroundings (texts : List String) : IO Surroundings := do
  let environment ← readEnvironment
  let tree ← match Arguments.ofTexts texts with
    | .ok a => readDisk a (Config.resolveRules a.rules? environment)
    | .error _ => pure (FileTree.emptyAt [])
  return ⟨environment, tree, .notInstalled, ← readDate⟩

def writeDisk (old new : FileTree) : IO Unit := do
  for f in new.files do
    unless (old.fileAt? f.path).any (fun g => g.bytes == f.bytes) do
      let root ← IO.currentDir
      IO.FS.createDirAll (root / ("/" ++ Path.joined f.path.dropLast))
      IO.FS.writeBinFile (root / ("/" ++ Path.joined f.path)) f.bytes

end LineAudit.CommandLine

open LineAudit in
/-- Runs the program. A run that breaks off counts as failed. -/
def main (texts : List String) : IO UInt32 := do
  let s ← CommandLine.readSurroundings texts
  let t := CommandLine.run texts s
  for line in t.output do
    IO.println line
  for line in t.errors do
    IO.eprintln line
  for record in t.log do
    IO.eprintln s!"{record.level.name} {record.message}"
  CommandLine.writeDisk s.tree t.tree
  match t.ending with
  | .ok code => return code.toUInt32
  | .error _ => do
    IO.eprintln "error: the run broke off"
    return 1
