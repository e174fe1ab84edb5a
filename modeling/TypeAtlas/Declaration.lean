/-! # Declarations (specification §3)

What documentation shows: interfaces with their properties, and type aliases. The type of shapes is
a parameter: `Declaration Shape` is a declaration before linking, `Declaration LinkedShape` the same
declaration after it. Main definitions:
`Property`, `Declaration`. -/

namespace TypeAtlas

/-- A documented property whose type has a shape in `σ`. -/
structure Property (σ : Type) where
  /-- The name. -/
  name : String
  /-- The shape of the type. -/
  shape : σ
  /-- Whether the property may be missing. -/
  optional : Bool
  /-- What it is for. -/
  description : Option String
  /-- Its value when it is missing. -/
  defaultText : Option String
  /-- An example of its use. -/
  exampleText : Option String
  deriving DecidableEq, Repr

/-- A documented interface or type alias. -/
inductive Declaration (σ : Type) where
  /-- An interface and its properties, in order. -/
  | interface (name : String) (properties : List (Property σ))
      (description exampleText : Option String)
  /-- A type alias. -/
  | typeAlias (name : String) (shape : σ) (description exampleText : Option String)
  deriving DecidableEq, Repr

namespace Declaration

variable {σ : Type}

/-- The declared name. -/
def name : Declaration σ → String
  | .interface name .. => name
  | .typeAlias name .. => name

/-- What the declaration is for. -/
def description : Declaration σ → Option String
  | .interface _ _ d _ => d
  | .typeAlias _ _ d _ => d

/-- An example of its use. -/
def exampleText : Declaration σ → Option String
  | .interface _ _ _ e => e
  | .typeAlias _ _ _ e => e

end Declaration

end TypeAtlas
