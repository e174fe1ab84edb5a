import TypeAtlas.Catalogue
import TypeAtlas.Path

/-! # File trees

Files and directories under absolute locations. There are no links, and no permissions either: whatever
is there can be looked at, read and written. A path is looked up part by part (`FileTree.walk`): each part
but the last has to be a directory, also before a double dot. Main definitions:

* `FileTree`, `FileTree.locate`, `FileTree.lookup?`: what is where.
* `FileTree.read`, `FileTree.write`, `FileTree.append`: files by path, or why not.
* `FileTree.changes`: the files that differ between two trees. -/

namespace TypeAtlas

/-- What stands at a location. -/
inductive Entry where
  /-- A directory. -/
  | directory
  /-- A file and its bytes. -/
  | file (bytes : List UInt8)
  deriving DecidableEq, Repr

/-- The parts of an absolute path without double dots. -/
abbrev Location := List String

/-- Entries by location. The root is a directory without an entry of its own. -/
abbrev FileTree := Catalogue Location Entry

/-- Why a file cannot be opened. -/
inductive FileFault where
  /-- There is nothing, or no directory on the way. -/
  | missing (path : String)
  /-- A file stands on the way. -/
  | notDirectory (path : String)
  /-- It is a directory. -/
  | isDirectory (path : String)
  /-- The path, or a name in it, is longer than the file system allows. -/
  | tooLong (path : String)
  /-- No file can have such a name. -/
  | nulInName
  deriving DecidableEq, Repr

/-- The wording of a file fault. -/
def FileFault.message : FileFault → String
  | .missing path => "[Errno 2] No such file or directory: " ++ Text.quoted path
  | .notDirectory path => "[Errno 20] Not a directory: " ++ Text.quoted path
  | .isDirectory path => "[Errno 21] Is a directory: " ++ Text.quoted path
  | .tooLong path => "[Errno 36] File name too long: " ++ Text.quoted path
  | .nulInName => "embedded null byte"

namespace FileTree

/-- What stands at a location. -/
def lookup? (files : FileTree) (place : Location) : Option Entry :=
  if place.isEmpty then some .directory else Catalogue.find? place files

/-- The most bytes that a name can have. -/
def nameLimit : Nat := 255

/-- The most bytes that a path can have. -/
def pathLimit : Nat := 4095

/-- Where the parts of a path lead from a location; what is there at last need not exist. -/
def walk (files : FileTree) (path : String) (place : Location) :
    List String → Except FileFault Location
  | [] => .ok place
  | part :: rest =>
    match files.lookup? place with
    | some .directory =>
      if nameLimit < part.utf8ByteSize then .error (.tooLong path)
      else walk files path (if part = ".." then place.dropLast else place ++ [part]) rest
    | some (.file _) => .error (.notDirectory path)
    | none => .error (.missing path)

/-- Where a path leads from the directory `cwd`. -/
def locate (files : FileTree) (cwd : Location) (p : Path) : Except FileFault Location :=
  if p.hasNul then .error .nulInName
  else if pathLimit < p.text.utf8ByteSize then .error (.tooLong p.text)
  else walk files p.text (if p.anchor = .none then cwd else []) p.parts

/-- What stands where a path leads, if anything. Only a path that is too long is refused. -/
def find? (files : FileTree) (cwd : Location) (p : Path) : Except FileFault (Option Entry) :=
  match files.locate cwd p with
  | .ok place => .ok (files.lookup? place)
  | .error (.tooLong path) => .error (.tooLong path)
  | .error _ => .ok none

/-- Whether a path leads to a file. -/
def isFile (files : FileTree) (cwd : Location) (p : Path) : Except FileFault Bool := do
  match ← files.find? cwd p with
  | some (.file _) => return true
  | _ => return false

/-- Whether a path leads to a directory. -/
def isDirectory (files : FileTree) (cwd : Location) (p : Path) : Except FileFault Bool := do
  return (← files.find? cwd p) == some .directory

/-- Whether a path leads to anything. -/
def exists? (files : FileTree) (cwd : Location) (p : Path) : Except FileFault Bool := do
  return (← files.find? cwd p).isSome

/-- The bytes of the file that a path leads to. -/
def read (files : FileTree) (cwd : Location) (p : Path) : Except FileFault (List UInt8) :=
  match files.locate cwd p with
  | .error e => .error e
  | .ok place =>
    match files.lookup? place with
    | some (.file bytes) => .ok bytes
    | some .directory => .error (.isDirectory p.text)
    | none => .error (.missing p.text)

/-- The tree with the file that a path leads to made from what it held, if it was there. -/
def modify (files : FileTree) (cwd : Location) (p : Path)
    (f : Option (List UInt8) → List UInt8) : Except FileFault FileTree :=
  match files.locate cwd p with
  | .error e => .error e
  | .ok place =>
    match files.lookup? place with
    | some .directory => .error (.isDirectory p.text)
    | some (.file bytes) => .ok (Catalogue.insert place (.file (f (some bytes))) files)
    | none =>
      if files.lookup? place.dropLast = some .directory then
        .ok (Catalogue.insert place (.file (f none)) files)
      else .error (.missing p.text)

/-- The tree with a file written, over what was there. -/
def write (files : FileTree) (cwd : Location) (p : Path) (bytes : List UInt8) :
    Except FileFault FileTree :=
  files.modify cwd p fun _ => bytes

/-- The tree with bytes added to a file, which is made if it is not there. -/
def append (files : FileTree) (cwd : Location) (p : Path) (bytes : List UInt8) :
    Except FileFault FileTree :=
  files.modify cwd p fun old => old.getD [] ++ bytes

/-- The tree with a directory and all directories on the way to it. -/
def makeDirectories (files : FileTree) (place : Location) : FileTree :=
  (List.range place.length).foldl (fun fs n =>
    let dir := place.take (n + 1)
    if (lookup? fs dir).isSome then fs else Catalogue.insert dir .directory fs) files

/-- The tree with a file at a location, and all directories on the way to it. -/
def put (files : FileTree) (place : Location) (bytes : List UInt8) : FileTree :=
  Catalogue.insert place (.file bytes) (files.makeDirectories place.dropLast)

/-- The tree without a location and all below it. -/
def remove (files : FileTree) (place : Location) : FileTree :=
  files.filter fun p => !place.isPrefixOf p.1

/-- The files of a tree that are not in another one with the same bytes. -/
def changes (before after' : FileTree) : List (Location × List UInt8) :=
  after'.filterMap fun (place, e) =>
    match e with
    | .directory => none
    | .file bytes => if lookup? before place = some e then none else some (place, bytes)

end FileTree

end TypeAtlas
