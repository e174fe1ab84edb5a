import TypeAtlas.TypeScript.Expressions

/-! # Declarations in TypeScript source text

Interfaces and type aliases are read in full; of every other declaration the node shows its kind, its
range and the name that it declares. Where an expression could stand as well, at the start of a
statement or behind `export default`, the words that are also names end there with their line, and a
function or class that an operator follows is no declaration. Main definitions:

* `interfaceDeclaration`, `aliasDeclaration`: documented types.
* `declaration`: any declaration but an ambient one.
* `ambientDeclaration`: a declaration of what is elsewhere. -/

namespace TypeAtlas.TypeScript.Readers

/-- Reads to a node of a kind in a role, such as a name. -/
def roled (role kind : String) (p : Reader Unit) : Reader SyntaxTree := inField role <$> spanned kind p

/-- The node of a kind from one cursor to another. -/
def nodeBetween (kind : String) (c d : Cursor) (children : List SyntaxTree) : SyntaxTree :=
  .node kind c.start d.stop true none children

/-- Reads to a node of a kind with nodes inside. -/
def holding (kind : String) (p : Reader (List SyntaxTree)) : Reader SyntaxTree := do
  let c ← get
  let children ← p
  let d ← get
  pure (nodeBetween kind c d children)

/-- Reads a name with more names behind points. -/
def dottedName : Reader Unit := do
  anyName
  many (do mark "."; anyName)

/-- Reads the first word of a declaration. Where an expression could stand, it is a name if the
statement ends there or an operator follows. -/
def leadWord (bare : Bool) (w : String) : Reader Unit := do
  word w
  if bare then leading .statement

/-- Reads an interface. -/
def interfaceDeclaration (r : Readers) : Reader SyntaxTree := holding "interface_declaration" do
  word "interface"
  let name ← roled "name" "type_identifier" anyName
  opt r.typeParameters
  opt do
    word "extends"
    commas1 (do dottedName; opt r.typeArguments)
  let body ← r.body "interface_body"
  pure [name, inField "body" body]

/-- Reads a type alias. -/
def aliasDeclaration (r : Readers) (bare : Bool) : Reader SyntaxTree :=
  holding "type_alias_declaration" do
    leadWord bare "type"
    let name ← roled "name" "type_identifier" anyName
    opt r.typeParameters
    mark "="
    let value ← r.type .conditional .plain
    semicolon .plain
    pure [name, inField "value" value]

/-- Reads an enumeration. -/
def enumDeclaration (r : Readers) : Reader SyntaxTree := holding "enum_declaration" do
  opt (word "const")
  word "enum"
  let name ← roled "name" "identifier" anyName
  mark "\x7b"
  commas do
    r.propertyName
    opt do
      mark "="
      r.value
  mark "\x7d"
  pure [name]

/-- Reads a variable with its type and its value, and tells whether it ends with an expression. -/
def declarator (r : Readers) : Reader Bool := do
  r.pattern
  opt (do mark "!"; looking fun c => c.startsWith ":")
  opt do
    mark ":"
    r.wholeType .plain
  tried do
    mark "="
    r.expression .statement

/-- Reads variables up to the end of their declaration. -/
def declarators (r : Readers) : Reader Unit := do
  let valued ← r.declarator
  let valued ← iterate (fun _ => do mark ","; r.declarator) valued
  semicolon ⟨true, valued, false⟩

/-- Reads a declaration of variables. -/
def variableDeclaration (r : Readers) (bare : Bool) : Reader SyntaxTree :=
  spanned "variable_declaration" (do word "var"; r.declarators) <|>
    spanned "lexical_declaration" (do word "const" <|> leadWord bare "let"; r.declarators)

/-- Whether a token comes next that can continue an expression and start no statement. -/
def startsOperator (c : Cursor) : Bool :=
  (c.startsWith "." && Lexeme.numberLength c.rest == 0) ||
    [",", "?", "*", "%", ">", "<=", "<<", "=", "!=", "^", "|", "&"].any c.startsWith ||
    infixWords.contains c.name

/-- Reads the end of a declaration with a body. -/
def bodyEnd (bare : Bool) : Reader Unit :=
  lineEnd ⟨true, bare, false⟩ <|> looking fun c => !(bare && startsOperator c)

/-- Reads a function; one without a body is a signature. -/
def functionDeclaration (r : Readers) (bare : Bool) : Reader SyntaxTree := do
  let c ← get
  opt (leadWord bare "async")
  word "function"
  let generator ← tried (mark "*")
  let name ← roled "name" "identifier" anyName
  r.signature (if generator then .enclosed else .signature)
  let kind ←
    (do
      r.block
      bodyEnd bare
      pure (if generator then "generator_function_declaration" else "function_declaration")) <|>
    (do
      semicolon .signature
      pure "function_signature")
  let d ← get
  pure (nodeBetween kind c d [name])

/-- Reads a class. -/
def classDeclaration (r : Readers) (bare : Bool) : Reader SyntaxTree := do
  let c ← get
  many r.decorator
  let abstract ← tried (word "abstract")
  word "class"
  let name ← roled "name" "type_identifier" className
  r.classRest
  if abstract then pure () else bodyEnd bare
  let d ← get
  let kind := if abstract then "abstract_class_declaration" else "class_declaration"
  pure (nodeBetween kind c d [name])

/-- Reads the name of a module or namespace. -/
def moduleName : Reader SyntaxTree :=
  roled "name" "string" (lexeme Lexeme.stringLength) <|> roled "name" "identifier" dottedName

/-- Reads a module. -/
def moduleDeclaration (r : Readers) (bare : Bool) : Reader SyntaxTree := holding "module" do
  leadWord bare "module"
  let name ← moduleName
  opt (do r.block; opt (lineEnd .plain))
  pure [name]

/-- Reads a namespace. -/
def namespaceDeclaration (r : Readers) : Reader SyntaxTree := holding "internal_module" do
  word "namespace"
  let name ← moduleName
  opt (do r.block; opt (lineEnd .plain))
  pure [name]

/-- Reads a namespace where an expression could stand: it is one if it ends with its line or an
operator follows. -/
def namespaceStatement (r : Readers) : Reader SyntaxTree := do
  let c ← get
  leadWord true "namespace"
  let name ← moduleName
  unended .expression
  opt r.block
  let d ← get
  if d.ended .expression || startsOperator d then
    r.valuesRest .statement
    semicolon .expression
    let e ← get
    pure (nodeBetween "expression_statement" c e [])
  else pure (nodeBetween "internal_module" c d [name])

/-- Reads another name for a dotted name. -/
def importAlias : Reader SyntaxTree := spanned "import_alias" do
  word "import"
  anyName
  mark "="
  dottedName
  semicolon .plain

/-- Reads a declaration that is not ambient; `bare` tells whether an expression could stand there. -/
def declaration (r : Readers) (bare : Bool) : Reader SyntaxTree := do
  let c ← get
  let w := c.name
  if w == "interface" then r.interfaceDeclaration
  else if w == "type" then r.aliasDeclaration bare
  else if w == "enum" then r.enumDeclaration
  else if w == "const" then r.enumDeclaration <|> r.variableDeclaration bare
  else if w == "let" || w == "var" then r.variableDeclaration bare
  else if w == "function" || w == "async" then r.functionDeclaration bare
  else if w == "class" || w == "abstract" || c.startsWith "@" then r.classDeclaration bare
  else if w == "module" then r.moduleDeclaration bare
  else if w == "namespace" then if bare then r.namespaceStatement else r.namespaceDeclaration
  else if w == "import" then importAlias
  else failure

/-- Reads what an ambient declaration declares: a declaration, the global names, or a property of the
module. -/
def ambientRest (r : Readers) : Reader (List SyntaxTree) :=
  (do
    word "global"
    r.block
    opt (lineEnd .plain)
    pure []) <|>
  (do
    word "module"
    mark "."
    anyName
    mark ":"
    r.wholeType .plain
    semicolon .plain
    pure []) <|>
  (do
    let d ← r.declaration false
    pure [d])

/-- Reads an ambient declaration, which may be one of an ambient declaration itself. -/
def ambientDeclaration (r : Readers) (bare : Bool) : Reader SyntaxTree :=
  holding "ambient_declaration" do
    leadWord bare "declare"
    r.ambientRest <|>
      (do
        word "declare"
        many (word "declare")
        let _ ← r.ambientRest
        pure [])

end TypeAtlas.TypeScript.Readers
