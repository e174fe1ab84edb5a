import TypeAtlas.Text.Lines
import TypeAtlas.Text.Quoted

/-! # Paths

A path is a list of parts behind no slash, one, or exactly two. Empty parts and single dots are no
parts; a double dot is one. Main definitions:

* `Path.ofString`, `Path.text`: reading and writing.
* `Path.name`, `Path.suffix`, `Path.parent`, `Path.withSuffix`, `Path.join`.
* `Path.expandHome`: a path with the home directory that it starts in written out.
* `Path.normal`: an absolute path without double dots. -/

namespace TypeAtlas

/-- What a path is relative to. -/
inductive Anchor where
  /-- The working directory. -/
  | none
  /-- The root, written as one slash. -/
  | root
  /-- The root, written as two slashes. -/
  | doubled
  deriving DecidableEq, Repr

/-- A path. -/
structure Path where
  /-- What it is relative to. -/
  anchor : Anchor
  /-- The names on the way. -/
  parts : List String
  deriving DecidableEq, Repr

/-- A path without a last part was asked for its suffix to be replaced. -/
structure EmptyName where
  /-- The path. -/
  path : Path
  deriving DecidableEq, Repr

/-- The home directories of users by their names, as far as there are any. The empty name stands for the
user who runs the program. -/
abbrev Homes := String → Option Path

/-- A path starts in the home directory of a user who has none. -/
structure NoHome where
  /-- The name of the user. -/
  user : String
  deriving DecidableEq, Repr

namespace Path

/-- The anchor of a written path: three slashes and more count as one. -/
def anchorOf : List Char → Anchor
  | '/' :: '/' :: '/' :: _ => .root
  | '/' :: '/' :: _ => .doubled
  | '/' :: _ => .root
  | _ => .none

/-- A path as it is written. -/
def ofString (s : String) : Path where
  anchor := anchorOf s.toList
  parts := ((Text.splitAt '/' s.toList).map String.ofList).filter fun p => p ≠ "" && p ≠ "."

/-- The slashes of an anchor. -/
def anchorText : Anchor → String
  | .none => ""
  | .root => "/"
  | .doubled => "//"

/-- A path in writing; the empty path is a dot. -/
def text (p : Path) : String :=
  if p.anchor = .none && p.parts.isEmpty then "."
  else anchorText p.anchor ++ String.intercalate "/" p.parts

/-- The last part, empty if there is none. -/
def name (p : Path) : String := p.parts.getLast?.getD ""

/-- A name cut before its last dot; nothing is cut off when that dot is first or last. -/
def splitName (name : String) : String × String :=
  let tail := name.toList.reverse.takeWhile (· ≠ '.')
  let size := name.length - tail.length
  if tail.isEmpty || size ≤ 1 then (name, "")
  else (String.ofList (name.toList.take (size - 1)), String.ofList ('.' :: tail.reverse))

/-- The last part from its last dot on. -/
def suffix (p : Path) : String := (splitName p.name).2

/-- A path without its last part. -/
def parent (p : Path) : Path := { p with parts := p.parts.dropLast }

/-- A path whose last part has another suffix, or a first one. -/
def withSuffix (p : Path) (suffix : String) : Except EmptyName Path :=
  if p.parts.isEmpty then .error ⟨p⟩
  else .ok { p with parts := p.parts.dropLast ++ [(splitName p.name).1 ++ suffix] }

/-- A path continued by another one, which replaces it if it is absolute. -/
def join (p q : Path) : Path :=
  if q.anchor = .none then { p with parts := p.parts ++ q.parts } else q

/-- The user in whose home directory a path starts: its first part is a tilde and the name. -/
def homeOf? (p : Path) : Option String :=
  if p.anchor = .none then
    match (p.parts.headD "").toList with
    | '~' :: user => some (String.ofList user)
    | _ => none
  else none

/-- A path with the home directory that it starts in written out. -/
def expandHome (homes : Homes) (p : Path) : Except NoHome Path :=
  match p.homeOf? with
  | none => .ok p
  | some user =>
    match homes user with
    | none => .error ⟨user⟩
    | some home => .ok { home with parts := home.parts ++ p.parts.tail }

/-- Parts with each double dot taken back together with the part before it. -/
def collapse (done : List String) : List String → List String
  | [] => done.reverse
  | ".." :: r => collapse done.tail r
  | p :: r => collapse (p :: done) r

/-- The absolute path of a path in the directory `cwd`, without double dots. -/
def normal (cwd : List String) (p : Path) : List String :=
  if p.anchor = .none then collapse [] (cwd ++ p.parts) else collapse [] p.parts

/-- An absolute path of given parts. -/
def absolute (parts : List String) : Path := ⟨.root, parts⟩

/-- Whether a path holds the character that no file name can hold. -/
def hasNul (p : Path) : Bool := p.parts.any fun s => s.toList.contains '\x00'

end Path

/-- The wording of a missing home directory. -/
def NoHome.message (_ : NoHome) : String := "Could not determine home directory."

/-- The wording of a missing name. -/
def EmptyName.message (e : EmptyName) : String :=
  "PosixPath(" ++ Text.quoted e.path.text ++ ") has an empty name"

end TypeAtlas
