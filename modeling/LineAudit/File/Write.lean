import LineAudit.File.Tree

/-!
Writing folders and files into a tree.
-/

namespace LineAudit

inductive WriteFailure
  /-- There is a file where a folder is wanted. -/
  | fileInPlace
  /-- There is a file on the way to a folder. -/
  | fileOnTheWay
  /-- There is a folder where a file is wanted. -/
  | folderInPlace
  deriving DecidableEq, Repr

namespace FileTree

/-- The tree with all folders on the way from a place along names, and the place reached. -/
def makeFolders (t : FileTree) (place : List String) :
    List String → Except WriteFailure (FileTree × List String)
  | [] => .ok (t, place)
  | name :: rest =>
    if name = ".." then t.makeFolders place.dropLast rest
    else
      let next := place ++ [name]
      if (t.fileAt? next).isSome then
        .error (if rest.isEmpty then .fileInPlace else .fileOnTheWay)
      else (if t.isFolder next then t else t.addFolder next).makeFolders next rest

def makeFolder (t : FileTree) (p : Path) : Except WriteFailure (FileTree × List String) :=
  t.makeFolders (t.startOf p) p.parts

/-- Writes files with names into a folder, up to the first one that cannot be written. -/
def writeFiles (t : FileTree) (folder : List String) :
    List (String × String) → FileTree × Option WriteFailure
  | [] => (t, none)
  | (name, text) :: rest =>
    let place := folder ++ [name]
    if t.isFolder place then (t, some .folderInPlace)
    else (t.addFile ⟨place, text.toUTF8, none⟩).writeFiles folder rest

/-- Writes files with names into the folder that a path leads to, which is made if it is not there.
-/
def writeInto (t : FileTree) (p : Path) (files : List (String × String)) :
    FileTree × Option WriteFailure :=
  match t.makeFolder p with
  | .ok (t, folder) => t.writeFiles folder files
  | .error failure => (t, some failure)

end FileTree

end LineAudit
