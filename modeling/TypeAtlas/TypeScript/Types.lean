import TypeAtlas.TypeScript.Members

/-! # Types in TypeScript source text

References, arrays, unions and intersections become nodes with the nodes of their parts inside; every
other type becomes a node that holds nothing. An intersection binds more tightly than a union, and a
union more tightly than a conditional type. A function type takes in all that follows its arrow, a
constructor type only one operand. Main definitions:

* `typeOperand`: a type without operators behind its first operand.
* `typeStep`: one operator and its right operand.
* `readType`: a type. -/

namespace TypeAtlas.TypeScript.Readers

/-- The words that are literals. -/
def literalWords : List String := ["true", "false", "null", "undefined"]

/-- The kinds of types that square brackets do not follow. -/
def closedKinds : List String :=
  ["function_type", "readonly_type", "constructor_type", "infer_type", "import_type"]

/-- Whether square brackets may follow a type. -/
def isOpen (t : SyntaxTree) : Bool := !closedKinds.contains t.kind

/-- Reads the square brackets behind a type: empty ones make an array of it. -/
def brackets (r : Readers) (o : Onward) : SyntaxTree → Reader SyntaxTree := iterate fun t => do
  looking fun _ => isOpen t
  unended o
  mark "["
  let empty ← tried (mark "]")
  if empty then
    let d ← get
    pure (.node "array_type" t.start d.stop true none [t])
  else
    r.wholeType .enclosed
    mark "]"
    let d ← get
    pure (.node "lookup_type" t.start d.stop true none [])

/-- Reads the sign of a union or intersection, and tells its kind and how strong its right operand
is. Where binary operators may follow, a doubled sign is one of those. -/
def joint (o : Onward) : Reader (String × Strength) :=
  (do
    looking fun c => !(o.operators && c.startsWith "||") && !c.startsWith "|\x7d"
    mark "|"
    pure ("union_type", .intersection)) <|>
  (do
    looking fun c => !(o.operators && c.startsWith "&&")
    mark "&"
    pure ("intersection_type", .operand))

/-- The strength of a kind of operator. -/
def strengthOf (kind : String) : Strength :=
  if kind == "union_type" then .union else .intersection

/-- Reads an operator behind a type, and its right operand. -/
def typeStep (r : Readers) (s : Strength) (o : Onward) (t : SyntaxTree) :
    Reader SyntaxTree := do
  unended o
  (do
    let (kind, right) ← joint o
    looking fun _ => s.admits (strengthOf kind)
    let u ← r.type right o
    r.brackets o (.node kind t.start u.stop true none [t, u])) <|>
  (do
    looking fun _ => s.admits .conditional
    word "extends"
    r.wholeType .enclosed
    mark "?"
    r.wholeType .enclosed
    mark ":"
    let u ← r.type .conditional o
    r.brackets o (.node "conditional_type" t.start u.stop true none []))

/-- Reads an operand behind a word or mark that takes one; a closed one takes an operator with it. -/
def typeTarget (r : Readers) (o : Onward) : Reader Unit := do
  let t ← r.type .operand o
  if isOpen t then pure () else silently (r.typeStep .conditional o t)

/-- Reads the path behind the word that asks for the type of a value. -/
def typeQuery (r : Readers) (o : Onward) : Reader Unit := do
  word "typeof"
  (do word "import"; r.arguments) <|> anyName
  many do
    unended o
    (do mark "." <|> mark "?."; anyName <|> lexeme Lexeme.privateNameLength) <|>
      (do
        opt (mark "?.")
        mark "["
        oneOf basicTypes <|> lexeme Lexeme.stringLength <|> lexeme Lexeme.numberLength
        mark "]") <|>
      r.arguments <|> r.typeArguments

/-- Reads a reference to a type by its name, which may be dotted and have arguments. -/
def typeReference (r : Readers) : Reader SyntaxTree := do
  let c ← get
  anyName
  let d ← get
  many (do mark "."; anyName)
  let e ← get
  let applied ← tried r.typeArguments
  let f ← get
  let kind :=
    if applied then "generic_type"
    else if d.stop < e.stop then "nested_type_identifier"
    else if basicTypes.contains c.name then "predefined_type"
    else "type_identifier"
  pure (.node kind c.start f.stop true none [])

/-- Reads an element of a tuple type. -/
def tupleElement (r : Readers) : Reader Unit := do
  opt (mark "...")
  (do anyName; opt (mark "?"); mark ":"; r.wholeType .enclosed) <|>
    (do r.wholeType .enclosed; opt (mark "?"))

/-- Reads the type of functions. -/
def functionType (r : Readers) (o : Onward) : Reader SyntaxTree :=
  spanned "function_type" do
    opt r.typeParameters
    r.parameters
    mark "=>"
    r.result o

/-- A node that counts for punctuation. -/
def unnamed : SyntaxTree → SyntaxTree
  | .node kind start stop _ field children => .node kind start stop false field children

/-- Reads a type that starts with a word. -/
def wordType (r : Readers) (o : Onward) (w : String) : Reader SyntaxTree :=
  if w == "new" || w == "abstract" then
    spanned "constructor_type" do
      opt (word "abstract")
      word "new"
      opt r.typeParameters
      r.parameters
      mark "=>"
      silently (r.type .operand o)
  else if w == "readonly" then spanned "readonly_type" (do anyName; r.wholeType o)
  else if w == "keyof" then spanned "index_type_query" (do anyName; r.typeTarget o)
  else if w == "infer" then
    spanned "infer_type" do
      anyName
      anyName
      opt do
        unended o
        word "extends"
        r.wholeType o
  else if w == "typeof" then spanned "type_query" (r.typeQuery o)
  else if w == "import" then
    spanned "import_type" do
      let step : Reader Unit :=
        (do mark "."; anyName <|> lexeme Lexeme.privateNameLength) <|> r.arguments
      anyName
      step
      many (do unended o; step)
  else if w == "this" then spanned "this_type" anyName
  else if literalWords.contains w then spanned "literal_type" anyName
  else if w == "const" then unnamed <$> spanned "const" anyName
  else
    spanned "predefined_type" (do word "unique"; word "symbol") <|> r.typeReference

/-- Reads a type without operators and brackets behind it. -/
def typeAtom (r : Readers) (o : Onward) : Reader SyntaxTree := do
  let c ← get
  match c.rest with
  | '(' :: _ =>
    r.functionType o <|>
      spanned "parenthesized_type" (do mark "("; r.wholeType .enclosed; mark ")")
  | '<' :: _ => r.functionType o
  | '\x7b' :: _ => r.body "object_type"
  | '[' :: _ => spanned "tuple_type" (do mark "["; commas r.tupleElement; mark "]")
  | '\x60' :: _ => spanned "template_literal_type" (template (r.wholeType .enclosed))
  | '*' :: _ => spanned "existential_type" (mark "*")
  | '?' :: _ => spanned "flow_maybe_type" (do mark "?"; r.wholeType o)
  | '-' :: _ => spanned "literal_type" (do mark "-"; lexeme Lexeme.numberLength)
  | '+' :: _ => spanned "literal_type" (do mark "+"; lexeme Lexeme.numberLength)
  | _ =>
    spanned "literal_type" (lexeme Lexeme.stringLength <|> lexeme Lexeme.numberLength) <|>
      (do
        looking fun c => c.name != ""
        r.wordType o c.name)

/-- Reads a type without operators behind its first operand. An operator may stand before it. -/
def typeOperand (r : Readers) (o : Onward) : Reader SyntaxTree := do
  let c ← get
  let t ←
    (do
      let (kind, right) ← joint o
      let u ← r.type right o
      pure (.node kind c.start u.stop true none [u])) <|>
    r.typeAtom o
  r.brackets o t

/-- Reads a type. -/
def readType (r : Readers) (s : Strength) (o : Onward) : Reader SyntaxTree := do
  let t ← r.typeOperand o
  iterate (r.typeStep s o) t

end TypeAtlas.TypeScript.Readers
