import TypeAtlas.Comment.Block
import TypeAtlas.Report
import TypeAtlas.Statement
import TypeAtlas.SyntaxTree

/-! # The statements of a syntax tree (specification §6)

Each named child of the root that is no comment is a statement, and each such child of an interface
body is a member. The last documentation block before it, with no other statement or member between,
is its comment. Main definitions:

* `SyntaxTree.typeExpr`: the type expression of a type node.
* `SyntaxTree.attach`: nodes with their comments.
* `SyntaxTree.statements`: the statements of a tree. -/

namespace TypeAtlas.SyntaxTree

/-- The kinds of nodes that name a type. -/
def namingKinds : List String := ["type_identifier", "predefined_type", "nested_type_identifier"]

/-- The kinds of nodes that declare a documented type. -/
def declaringKinds : List String := ["interface_declaration", "type_alias_declaration"]

/-- The kinds of nodes that hold the members of an interface. -/
def bodyKinds : List String := ["interface_body", "object_type"]

mutual

/-- The type expression of a type node. A union inside a union is dissolved into it, and likewise
an intersection. -/
def typeExpr (bytes : SourceBytes) : SyntaxTree → TypeExpr
  | .node kind start stop named field children =>
    let verbatim :=
      TypeExpr.verbatim (text bytes (.node kind start stop named field children))
    if namingKinds.contains kind then
      .named (text bytes (.node kind start stop named field children))
    else if kind = "array_type" then
      match firstType? bytes children with
      | some t => .array t
      | none => verbatim
    else if kind = "union_type" then .union (flatten bytes "union_type" children)
    else if kind = "intersection_type" then .inter (flatten bytes "intersection_type" children)
    else verbatim

/-- The type expression of the first node that counts. -/
def firstType? (bytes : SourceBytes) : List SyntaxTree → Option TypeExpr
  | [] => none
  | t :: ts => if t.isTypeNode then some (typeExpr bytes t) else firstType? bytes ts

/-- The type expressions of the nodes that count, those of kind `outer` dissolved. -/
def flatten (bytes : SourceBytes) (outer : String) : List SyntaxTree → List TypeExpr
  | [] => []
  | .node kind start stop named field children :: ts =>
    if (SyntaxTree.node kind start stop named field children).isTypeNode then
      if kind = outer then flatten bytes outer children ++ flatten bytes outer ts
      else typeExpr bytes (.node kind start stop named field children) :: flatten bytes outer ts
    else flatten bytes outer ts

end

/-- The nodes that are named and no comments, each with the last documentation block between it and
the one before; `pending` is the last block so far. -/
def attach (bytes : SourceBytes) (pending : Option Comment) :
    List SyntaxTree → List (SyntaxTree × Option Comment)
  | [] => []
  | t :: ts =>
    if t.isComment then attach bytes ((Comment.parse? (t.text bytes)).or pending) ts
    else if t.named then (t, pending) :: attach bytes none ts
    else attach bytes pending ts

/-- The type of an annotation. -/
def annotatedType (bytes : SourceBytes) (note : Option SyntaxTree) : TypeExpr :=
  ((note.map children).bind (firstType? bytes)).getD .absent

/-- The property of a node. -/
def propertyMember (bytes : SourceBytes) (t : SyntaxTree) (comment : Option Comment) :
    PropertyMember where
  name := (t.childText? bytes "name").getD ""
  type := annotatedType bytes (t.child? "type")
  optional := t.children.any fun c => c.kind == "?"
  comment := comment

/-- What a node is when documentation does not show it; `holder` is the node with the name. -/
def unsupported (bytes : SourceBytes) (t holder : SyntaxTree) : Unsupported where
  kind := t.kind
  text := t.summary bytes
  name := holder.childText? bytes "name"

/-- The member of a node. -/
def member (bytes : SourceBytes) (t : SyntaxTree) (comment : Option Comment) : Member :=
  if t.kind == "property_signature" then .property (propertyMember bytes t comment)
  else .other (unsupported bytes t t)

/-- The node with the members of an interface. -/
def body? (t : SyntaxTree) : Option SyntaxTree :=
  (t.child? "body").or (t.children.find? fun c => bodyKinds.contains c.kind)

/-- The members of an interface. -/
def members (bytes : SourceBytes) (t : SyntaxTree) : List Member :=
  ((t.body?.map children).getD [] |> attach bytes none).map fun (c, comment) =>
    member bytes c comment

/-- The documented declaration inside an ambient one, or else the node itself. -/
def unwrapAmbient (t : SyntaxTree) : SyntaxTree :=
  if t.kind == "ambient_declaration" then
    (t.children.find? fun c => c.named && declaringKinds.contains c.kind).getD t
  else t

/-- The declaring node of a statement, and whether the statement exports it. -/
def declaring (t : SyntaxTree) : SyntaxTree × Bool :=
  if t.kind == "export_statement" then
    match (t.child? "declaration").map unwrapAmbient with
    | some inner => if declaringKinds.contains inner.kind then (inner, true) else (t, false)
    | none => (t, false)
  else (unwrapAmbient t, false)

/-- The statement of a node. -/
def statement (bytes : SourceBytes) (t : SyntaxTree) (comment : Option Comment) : Statement :=
  let (d, exported) := declaring t
  let name := (d.childText? bytes "name").getD ""
  if d.kind == "interface_declaration" then
    .interface name exported (members bytes d) comment
  else if d.kind == "type_alias_declaration" then
    .typeAlias name exported (((d.child? "value").map (typeExpr bytes)).getD .absent) comment
  else if t.kind == "import_statement" then .importing (t.summary bytes)
  else .other (unsupported bytes t ((t.child? "declaration").getD t))

/-- The statements of a tree: the children of the root with their comments (`attach`), read one by one. -/
def statements (bytes : SourceBytes) (root : SyntaxTree) : List Statement :=
  (attach bytes none root.children).map fun (t, comment) => statement bytes t comment

/-- The statements of a tree, with a note of their number. -/
def readStatements {ε : Type} (bytes : SourceBytes) (root : SyntaxTree) :
    Report ε (List Statement) := do
  let ss := statements bytes root
  Report.note .parsing ("Parsed " ++ toString ss.length ++ " top-level statements")
  pure ss

end TypeAtlas.SyntaxTree
