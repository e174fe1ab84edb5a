import TypeAtlas.Comment
import TypeAtlas.TypeExpr

/-! # Statements (specification §3)

What a module of source text consists of, as far as documentation tells it apart. A `Statement` is the
input of `Declaration.extract`. Main definitions:
`Statement`, `Member`, and `Unsupported` for what is only ever named in a message. -/

namespace TypeAtlas

/-- A statement or member that documentation does not show. -/
structure Unsupported where
  /-- What it is. -/
  kind : String
  /-- Its first line. -/
  text : String
  /-- Its name, if it has one. -/
  name : Option String
  deriving DecidableEq, Repr

/-- How a message calls an unsupported item: by its name, or else by its text. -/
def Unsupported.label (u : Unsupported) : String :=
  match u.name with
  | some n => if n.isEmpty then u.text else n
  | none => u.text

/-- A property as it is written. -/
structure PropertyMember where
  /-- The name, with quotes or brackets if it is written with them. -/
  name : String
  /-- The type. -/
  type : TypeExpr
  /-- Whether it may be missing. -/
  optional : Bool
  /-- The documentation comment before it. -/
  comment : Option Comment
  deriving Repr

/-- A member of an interface. -/
inductive Member where
  /-- A property. -/
  | property (p : PropertyMember)
  /-- A method, an index or call signature, or the like. -/
  | other (u : Unsupported)
  deriving Repr

/-- A statement of a module. -/
inductive Statement where
  /-- An interface. -/
  | interface (name : String) (exported : Bool) (members : List Member) (comment : Option Comment)
  /-- A type alias. -/
  | typeAlias (name : String) (exported : Bool) (target : TypeExpr) (comment : Option Comment)
  /-- An import, by its first line. -/
  | importing (text : String)
  /-- Any other statement. -/
  | other (u : Unsupported)
  deriving Repr

end TypeAtlas
