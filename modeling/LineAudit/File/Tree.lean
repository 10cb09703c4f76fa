import LineAudit.File.Path
import LineAudit.Value.Display

/-!
A tree of folders and files, and the folder in it in which a program runs.

The bytes of a file may be unreadable; then reading them ends in an error of the system.
-/

namespace LineAudit

/-- An error of the system, by the values that come with it: a number and a text, and perhaps the
name of a file, or anything else. -/
structure SystemError where
  details : List Value

namespace SystemError

def reason? (e : SystemError) : Option Value :=
  match e.details with
  | _ :: reason :: rest => if rest.length ≤ 3 then some reason else none
  | _ => none

def text (e : SystemError) : String :=
  match e.details, e.reason? with
  | number :: _ :: file :: _, some reason =>
    (match file with
    | .null => "[Errno " ++ number.text ++ "] " ++ reason.text
    | file => "[Errno " ++ number.text ++ "] " ++ reason.text ++ ": " ++ file.display)
  | [number, _], some reason => "[Errno " ++ number.text ++ "] " ++ reason.text
  | [], _ => ""
  | [detail], _ => detail.text
  | details, _ => (Value.tuple details).display

/-- The reason alone when there is one, else the error in words. -/
def briefText (e : SystemError) : String :=
  match e.reason? with
  | some reason => if reason.isTrue then reason.text else e.text
  | none => e.text

end SystemError

structure StoredFile where
  path : List String
  bytes : ByteArray
  problem? : Option SystemError

/-- Folders and files by the names that lead to them from the root. The folders of every file are
there without being listed, and so is the folder in which the program runs. -/
structure FileTree where
  here : List String
  files : List StoredFile
  folders : List (List String)

namespace FileTree

/-- A tree without files, for a program that runs in the given folder. -/
def emptyAt (here : List String) : FileTree := ⟨here, [], []⟩

/-- Adds a file, in the place of one with its path if there is one. -/
def addFile (t : FileTree) (f : StoredFile) : FileTree :=
  { t with files := t.files.filter (·.path ≠ f.path) ++ [f] }

def addFolder (t : FileTree) (path : List String) : FileTree :=
  { t with folders := t.folders ++ [path] }

def fileAt? (t : FileTree) (place : List String) : Option StoredFile :=
  t.files.find? fun f => f.path = place

def isFolder (t : FileTree) (place : List String) : Bool :=
  place.isPrefixOf t.here || t.folders.any (place.isPrefixOf ·) ||
    t.files.any fun f => place.isPrefixOf f.path && f.path != place

/-- The place reached from another one by names; each name but the last must lead to a folder. The
folder above the root is the root. -/
def walk (t : FileTree) (place : List String) : List String → Option (List String)
  | [] => some place
  | name :: rest =>
    if !t.isFolder place then none
    else if name = ".." then t.walk place.dropLast rest
    else t.walk (place ++ [name]) rest

def startOf (t : FileTree) (p : Path) : List String := if p.root.isEmpty then t.here else []

def resolve? (t : FileTree) (p : Path) : Option (List String) :=
  (t.walk (t.startOf p) p.parts).filter fun place => t.isFolder place || (t.fileAt? place).isSome

def file? (t : FileTree) (p : Path) : Option StoredFile := (t.resolve? p).bind t.fileAt?

/-- The files below a place, with their names from there. -/
def below (t : FileTree) (place : List String) : List (List String × StoredFile) :=
  t.files.filterMap fun f =>
    if place.isPrefixOf f.path && f.path != place then some (f.path.drop place.length, f) else none

end FileTree

end LineAudit
