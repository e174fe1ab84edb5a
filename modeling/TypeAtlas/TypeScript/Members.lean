import TypeAtlas.TypeScript.Signatures

/-! # Members of types in TypeScript source text

The members between the braces of an interface or an object type: properties with their name, their
question mark and their type, and signatures of methods, calls, constructors and indexes. Members are
separated by semicolons, commas or ends of lines; comments between them stay comments of the body.
Main definitions: `member`, `body`. -/

namespace TypeAtlas.TypeScript.Readers

/-- The words that may stand before the name of a member. -/
def memberModifiers : List String :=
  ["public", "private", "protected", "static", "override", "readonly", "async", "get", "set"]

/-- Whether the name of a member comes next. -/
def startsName (c : Cursor) : Bool :=
  c.name != "" || 0 < Lexeme.stringLength c.rest || 0 < Lexeme.numberLength c.rest ||
    c.startsWith "[" || c.startsWith "#" || c.startsWith "*"

/-- The modifiers that only methods have. -/
def methodModifiers : List String := ["async", "get", "set"]

/-- Reads a modifier: an asterisk, or a word with a name behind it. What could continue the member
from there is nothing to ask for once only a method can follow. -/
def memberModifier (words : List String) (o : Onward) : Reader (Onward) :=
  (do
    let c ← get
    oneOf words
    unended o
    looking startsName
    pure (if methodModifiers.contains c.name then .enclosed else o)) <|>
  (do
    mark "*"
    pure .enclosed)

/-- The node of a name. -/
def nameNode (c d : Cursor) : SyntaxTree :=
  let kind :=
    if c.startsWith "[" then "computed_property_name"
    else if c.startsWith "#" then "private_property_identifier"
    else if c.name != "" then "property_identifier"
    else if 0 < Lexeme.stringLength c.rest then "string"
    else "number"
  .node kind c.start d.stop true (some "name") []

/-- Reads the key of an index in square brackets, and the range of its name if that has a type. -/
def indexKey (r : Readers) : Reader (Option (Nat × Nat)) := do
  mark "["
  let c ← get
  anyName
  let d ← get
  let typed ← tried do
    mark ":"
    r.wholeType .enclosed
  if typed then
    mark "]"
    pure (some (c.start, d.stop))
  else
    word "in"
    r.wholeType .enclosed
    opt do
      word "as"
      r.wholeType .enclosed
    mark "]"
    pure none

/-- Reads an index signature. -/
def indexSignature (r : Readers) : Reader SyntaxTree := do
  let c ← get
  opt ((do mark "-" <|> mark "+"; word "readonly") <|> (do word "readonly"; unended .plain))
  let key ← r.indexKey
  mark ":" <|> mark "?:" <|> mark "-?:" <|> mark "+?:"
  r.wholeType .plain
  let d ← get
  let children := key.toList.map fun (a, b) => .node "identifier" a b true (some "name") []
  pure (.node "index_signature" c.start d.stop true none children)

/-- Reads the signature of a call or of a constructor. -/
def callSignature (r : Readers) : Reader SyntaxTree :=
  spanned "call_signature" (r.signature .plain) <|>
    spanned "construct_signature" do
      (do word "abstract"; word "new") <|> (do word "new"; unended .plain)
      r.signature .plain

/-- Reads a property or a method. -/
def namedMember (r : Readers) : Reader SyntaxTree := do
  let c ← get
  let o ← iterate (memberModifier memberModifiers) .plain
  let n ← get
  r.propertyName
  let name := nameNode n (← get)
  let q ← get
  let asked ← tried (mark "?")
  let called ← tried do
    unended o
    r.signature .plain
  let e ← get
  let mark? := if asked then [.node "?" q.start (q.start + 1) false none []] else []
  if called then
    pure (.node "method_signature" c.start e.stop true none (name :: mark?))
  else
    let typed : Reader SyntaxTree := do
      mark ":"
      let type ← r.type .conditional .plain
      let note := .node "type_annotation" e.start type.stop true (some "type") [type]
      pure (.node "property_signature" c.start type.stop true none (name :: mark? ++ [note]))
    typed <|> pure (.node "property_signature" c.start e.stop true none (name :: mark?))

/-- Reads an export, which a body may hold like a member. -/
def exportMember (r : Readers) : Reader SyntaxTree := do
  looking fun c => c.name == "export" || c.startsWith "@"
  let t ← r.statement
  looking fun _ => t.kind == "export_statement"
  pure t

/-- Reads a member. -/
def member (r : Readers) : Reader SyntaxTree :=
  r.indexSignature <|> r.callSignature <|> r.exportMember <|> r.namedMember <|>
    spanned "html_comment" (lexeme Lexeme.markupCommentLength)

/-- Reads the nodes of a body: the comments before the next token, and a member or separator. -/
def bodyStep (r : Readers) (nodes : List SyntaxTree) : Reader (List SyntaxTree) := do
  let c ← get
  let nodes := c.comments.reverse ++ nodes
  (do mark ";" <|> mark ","; pure nodes) <|> (do let m ← r.member; pure (m :: nodes))

/-- Reads the members between braces, and the comments between those. -/
def body (r : Readers) (kind : String) : Reader SyntaxTree := do
  let c ← get
  mark "\x7b|" <|> mark "\x7b"
  let nodes ← iterate r.bodyStep []
  let d ← get
  mark "\x7d" <|> mark "|\x7d"
  let e ← get
  pure (.node kind c.start e.stop true none (nodes.reverse ++ d.comments))

end TypeAtlas.TypeScript.Readers
