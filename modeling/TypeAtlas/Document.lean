import TypeAtlas.Declaration.Extract
import TypeAtlas.Linked.Resolver
import TypeAtlas.Page

/-! # Documents (specification §1)

From statements to a page: `Declaration.extract`, `linkDeclarations`, `renderPage`. The name of the format
is only looked at by the last of them. Main definition: `document`.

Section numbers here and in other headers are those of the full specification of `interface-docs`. -/

namespace TypeAtlas

/-- Why there is no page. -/
inductive DocumentFault where
  /-- A statement holds a malformed type. -/
  | malformedType (m : MalformedType)
  /-- The declarations cannot be linked. -/
  | link (f : LinkFault)
  /-- No format has the given name. -/
  | format (f : FormatFault)
  /-- A row of a table has the wrong length. -/
  | row (f : Table.RowFault)
  deriving DecidableEq, Repr

/-- The wording of a document fault. -/
def DocumentFault.message : DocumentFault → String
  | .malformedType m => m.message
  | .link f => f.message
  | .format f => f.message
  | .row f => f.message

/-- Declarations linked among each other, by `Resolver.link`. -/
def linkDeclarations (inline : List String) (ds : List (Declaration Shape)) :
    Report DocumentFault LinkedDocs :=
  (Resolver.link inline (ds.map .declaration)).mapError .link

/-- Linked declarations as a page (`Page.render`), in the format of a name (`Format.parse`). -/
def renderPage (formatName : String) (docs : LinkedDocs) : Report DocumentFault String :=
  match Format.parse formatName with
  | .error f => .fail (.format f)
  | .ok format => (Page.render format docs).mapError .row

/-- The page of the exported declarations among some statements: `Declaration.extract`,
`linkDeclarations` and `renderPage`, one behind the other. -/
def document (formatName : String) (inline : List String) (statements : List Statement) :
    Report DocumentFault String := do
  let ds ← (Declaration.extract statements).mapError .malformedType
  let docs ← linkDeclarations inline ds
  renderPage formatName docs

end TypeAtlas
