import TypeAtlas.TypeScript.Declarations

/-! # Statements in TypeScript source text

The node of a statement shows its kind and its range, and for imports and exports what a page needs
of them. Main definitions:

* `importStatement`, `exportStatement`: statements between modules.
* `readStatement`: a statement. -/

namespace TypeAtlas.TypeScript.Readers

/-- Reads a statement that is an expression. -/
def expressionStatement (r : Readers) : Reader SyntaxTree := spanned "expression_statement" do
  r.values .statement
  semicolon .expression

/-- Reads an expression in round brackets that governs a statement. -/
def condition (r : Readers) : Reader Unit := do
  mark "("
  r.values .enclosed
  opt do
    mark ":"
    r.wholeType .enclosed
  mark ")"

/-- Reads names in braces, each with another name or not. -/
def specifiers : Reader Unit := do
  mark "\x7b"
  commas (many (anyName <|> lexeme Lexeme.stringLength))
  mark "\x7d"

/-- Reads the string that names a module. -/
def source : Reader Unit := do
  word "from"
  lexeme Lexeme.stringLength

/-- Reads all names of a module under one. -/
def namespaceImport : Reader Unit := do
  mark "*"
  word "as"
  anyName

/-- Reads what is imported. -/
def importClause : Reader Unit :=
  (do namespaceImport <|> specifiers; source) <|>
    (do
      anyName
      opt (do mark ","; namespaceImport <|> specifiers)
      source) <|>
    (do
      anyName
      mark "="
      word "require"
      mark "("
      lexeme Lexeme.stringLength
      mark ")") <|>
    lexeme Lexeme.stringLength

/-- Reads an import. -/
def importStatement (r : Readers) : Reader SyntaxTree := spanned "import_statement" do
  word "import"
  (do oneOf ["type", "typeof"]; importClause) <|> importClause
  opt do
    unended .plain
    word "with"
    r.object
  semicolon .plain

/-- Reads an export of what is declared elsewhere. -/
def exportClause (r : Readers) : Reader Unit :=
  (do
    mark "*"
    opt (do word "as"; anyName <|> lexeme Lexeme.stringLength)
    source
    semicolon .plain) <|>
  (do
    opt (word "type")
    specifiers
    opt (do unended .plain; source)
    semicolon .plain) <|>
  (do
    mark "="
    r.expression .statement
    semicolon .expression) <|>
  (do
    word "as"
    word "namespace"
    anyName
    semicolon .plain)

/-- Reads what an export declares. -/
def exported (r : Readers) : Reader (List SyntaxTree) :=
  let declared (bare : Bool) : Reader (List SyntaxTree) := do
    let d ← r.ambientDeclaration bare <|> r.declaration bare
    pure [inField "declaration" d]
  (do
    word "default"
    declared true <|>
      (do
        r.expression .statement
        semicolon .expression
        pure [])) <|>
  declared false

/-- Reads an export. -/
def exportStatement (r : Readers) : Reader SyntaxTree := holding "export_statement" do
  let c ← get
  many r.decorator
  word "export"
  unended (if c.startsWith "@" then .enclosed else .expression)
  (do r.exportClause; pure []) <|> r.exported

/-- Reads a block as a statement. -/
def blockStatement (r : Readers) : Reader SyntaxTree := spanned "statement_block" do
  let c ← get
  r.block
  let d ← get
  let empty := (c.advance 1).start + 1 == d.stop
  lineEnd ⟨true, empty, false⟩ <|> looking fun c => !startsOperator c

/-- The words that start a statement or an operand and are no names. -/
def keywords : List String :=
  ["import", "function", "class", "const", "var", "if", "for", "while", "do", "try", "switch",
   "throw", "return", "break", "continue", "debugger", "with", "interface", "enum", "abstract",
   "typeof", "void", "delete", "await", "yield", "this", "super", "true", "false", "null",
   "undefined", "using"]

/-- Succeeds, and reads nothing, if the first property in a brace that comes next is more than a
name. -/
def startsObject (r : Readers) : Reader Unit := fun c =>
  let shorthand : Reader Unit := do
    mark "\x7b"
    anyName
    looking fun d => d.startsWith "," || d.startsWith "\x7d" || d.startsWith "="
  let first : Reader Unit := do
    mark "\x7b"
    looking fun d => !keywords.contains d.name
    r.objectMember
  if (shorthand c).isSome || (first c).isNone then none else some ((), c)

/-- Reads what starts with a brace: an object if it can be one, and else a block. -/
def bracedStatement (r : Readers) : Reader SyntaxTree :=
  (do r.startsObject; r.expressionStatement) <|> r.blockStatement <|> r.expressionStatement

/-- Reads a statement under a condition. -/
def ifStatement (r : Readers) : Reader SyntaxTree := spanned "if_statement" do
  word "if"
  r.condition
  silently r.statement
  opt do
    word "else"
    silently r.statement

/-- Reads the head of a loop over the parts of a value. -/
def forInHead (r : Readers) : Reader Unit := do
  let target : Reader Unit := r.expression (.bounded .loopHead)
  mark "("
  (do
    oneOf ["var", "let", "const"]
    r.pattern
    opt (do mark "="; target)
    word "in" <|> word "of") <|>
  (do
    anyName <|> target
    word "in" <|> word "of") <|>
  (do
    target
    word "in" <|> word "of")
  r.values .enclosed
  mark ")"

/-- Reads the head of a loop with a start, a condition and a step. -/
def forHead (r : Readers) : Reader Unit := do
  mark "("
  silently (r.variableDeclaration false) <|> (do r.values .enclosed; mark ";") <|> mark ";"
  opt (r.values .enclosed)
  mark ";"
  opt (r.values .enclosed)
  mark ")"

/-- Reads a loop with a head. -/
def forStatement (r : Readers) : Reader SyntaxTree :=
  spanned "for_in_statement" (do
    word "for"
    opt (word "await")
    r.forInHead
    silently r.statement) <|>
  spanned "for_statement" (do
    word "for"
    r.forHead
    silently r.statement)

/-- Reads a loop whose condition comes last. -/
def doStatement (r : Readers) : Reader SyntaxTree := spanned "do_statement" do
  word "do"
  silently r.statement
  opt (mark ";")
  word "while"
  r.condition
  opt (semicolon .plain)

/-- Reads the clauses around a failure. -/
def tryStatement (r : Readers) : Reader SyntaxTree :=
  let body : Reader Unit := do
    r.block
    opt (lineEnd .plain)
  spanned "try_statement" do
    word "try"
    body
    opt do
      word "catch"
      opt do
        mark "("
        r.pattern
        opt (do mark ":"; r.wholeType .enclosed)
        mark ")"
      body
    opt do
      word "finally"
      body

/-- Reads the head of a case. -/
def caseHead (r : Readers) : Reader Unit :=
  (do
    word "case"
    (do r.values .enclosed; mark ":") <|> (do r.values (.bounded .beforeColon); mark ":")) <|>
  (do
    word "default"
    mark ":")

/-- Reads a choice between cases. -/
def switchStatement (r : Readers) : Reader SyntaxTree := spanned "switch_statement" do
  word "switch"
  r.condition
  mark "\x7b"
  many do
    r.caseHead
    many do
      looking fun c => c.name != "case" && c.name != "default"
      silently r.statement
  mark "\x7d"

/-- Reads a statement of one word and, unless it ends there, what `p` reads. -/
def jump (kind w : String) (p : Reader Unit) : Reader SyntaxTree := spanned kind do
  word w
  semicolon .plain <|> p

/-- Reads a statement behind a label. -/
def labeledStatement (r : Readers) : Reader SyntaxTree := spanned "labeled_statement" do
  anyName
  mark ":"
  silently r.statement

/-- Reads a statement that a keyword starts. -/
def keywordStatement (r : Readers) (w : String) : Reader SyntaxTree :=
  let label : Reader Unit := do
    anyName
    semicolon .plain
  if w == "import" then r.importStatement <|> importAlias
  else if w == "export" then r.exportStatement
  else if w == "declare" then r.ambientDeclaration true
  else if w == "if" then r.ifStatement
  else if w == "for" then r.forStatement
  else if w == "while" then
    spanned "while_statement" (do word "while"; r.condition; silently r.statement)
  else if w == "with" then
    spanned "with_statement" (do word "with"; r.condition; silently r.statement)
  else if w == "do" then r.doStatement
  else if w == "try" then r.tryStatement
  else if w == "switch" then r.switchStatement
  else if w == "throw" then
    spanned "throw_statement" (do word "throw"; r.values .statement; semicolon .expression)
  else if w == "return" then
    jump "return_statement" "return" (do r.values .statement; semicolon .expression)
  else if w == "break" then jump "break_statement" "break" label
  else if w == "continue" then jump "continue_statement" "continue" label
  else if w == "debugger" then jump "debugger_statement" "debugger" failure
  else r.declaration true

/-- Reads a statement. -/
def readStatement (r : Readers) : Reader SyntaxTree := do
  let c ← get
  match c.rest with
  | ';' :: _ => spanned "empty_statement" (mark ";")
  | '\x7b' :: _ => r.bracedStatement
  | '@' :: _ => r.exportStatement <|> r.classDeclaration true <|> r.expressionStatement
  | _ =>
    spanned "html_comment" (lexeme Lexeme.markupCommentLength) <|>
      r.labeledStatement <|> r.keywordStatement c.name <|> r.expressionStatement

end TypeAtlas.TypeScript.Readers
