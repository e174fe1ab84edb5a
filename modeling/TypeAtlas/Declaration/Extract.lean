import TypeAtlas.Comment.Docs
import TypeAtlas.Declaration
import TypeAtlas.Report
import TypeAtlas.Shape

/-! # Extraction (specification §4.1)

The declarations of a module are its exported interfaces and type aliases, in source order. All else
is reported as a `Diagnostic` and left out, and so are the members of interfaces that are not properties.
Main definition: `Declaration.extract`. -/

namespace TypeAtlas.Declaration

/-- Reports a type that has an unknown leaf. -/
def checkUnknown (owner : String) (s : Shape) : Report MalformedType Unit :=
  if s.leaves.contains TypeExpr.unknown then .warn (.unknownType owner TypeExpr.unknown)
  else pure ()

/-- The shape of the type of `owner`. -/
def extractShape (owner : String) (t : TypeExpr) : Report MalformedType Shape := do
  let shape ← .ofExcept t.decompose
  checkUnknown owner shape
  pure shape

/-- The documented form of a property. -/
def extractProperty (owner : String) (p : PropertyMember) :
    Report MalformedType (Property Shape) := do
  let shape ← extractShape (owner ++ "." ++ p.name) p.type
  let docs := Docs.of p.comment
  pure ⟨p.name, shape, p.optional, docs.description, docs.defaultText, docs.exampleText⟩

/-- The properties among the members of an interface. -/
def extractMembers (owner : String) : List Member → Report MalformedType (List (Property Shape))
  | [] => pure []
  | .other u :: ms => do
    Report.warn (.skippedMember u owner)
    extractMembers owner ms
  | .property p :: ms => do
    let q ← extractProperty owner p
    let qs ← extractMembers owner ms
    pure (q :: qs)

/-- The documented form of an interface. -/
def extractInterface (name : String) (members : List Member) (comment : Option Comment) :
    Report MalformedType (Declaration Shape) := do
  Report.note .extract ("Extracting documentation for interface " ++ name)
  let properties ← extractMembers name members
  let docs := Docs.of comment
  pure (.interface name properties docs.description docs.exampleText)

/-- The documented form of a type alias. -/
def extractAlias (name : String) (target : TypeExpr) (comment : Option Comment) :
    Report MalformedType (Declaration Shape) := do
  Report.note .extract ("Extracting documentation for type " ++ name)
  let shape ← extractShape name target
  let docs := Docs.of comment
  pure (.typeAlias name shape docs.description docs.exampleText)

/-- The declaration that a statement makes, if documentation shows it. -/
def extractStatement : Statement → Report MalformedType (Option (Declaration Shape))
  | .interface name true members comment => do
    let d ← extractInterface name members comment
    pure (some d)
  | .interface name false _ _ => do
    Report.warn (.unexportedInterface name)
    pure none
  | .typeAlias name true target comment => do
    let d ← extractAlias name target comment
    pure (some d)
  | .typeAlias name false _ _ => do
    Report.warn (.unexportedAlias name)
    pure none
  | .importing text => do
    Report.warn (.importIgnored text)
    pure none
  | .other u => do
    Report.warn (.unsupportedStatement u)
    pure none

/-- The exported declarations of a module, statement by statement (`extractStatement`). -/
def extract : List Statement → Report MalformedType (List (Declaration Shape))
  | [] => pure []
  | s :: ss => do
    let d ← extractStatement s
    let ds ← extract ss
    pure (d.toList ++ ds)

end TypeAtlas.Declaration
