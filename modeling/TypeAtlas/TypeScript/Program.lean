import TypeAtlas.TypeScript.Readings

/-! # TypeScript source text as a syntax tree

The statements of a source text as nodes, and the comments between them; comments inside a statement
are not kept, except those of an interface body. Main definitions:

* `readers`: the readers of types, expressions and statements, nested to a depth.
* `readProgram`: the tree of a source text. -/

namespace TypeAtlas.TypeScript

/-- The readers whose parts are nested less than `depth` deep. -/
def readers (brief : Bool) : (depth : Nat) → Readers
  | 0 => .idle
  | depth + 1 =>
    { expression := fun x c => (readers brief depth).readExpression x c
      operand := fun x c => (readers brief depth).readOperand x c
      type := fun s o c => (readers brief depth).readType s o c
      statement := fun c => (readers brief depth).readStatement c
      brief := brief }

/-- Reads the comments before the next token, and a statement. What is no statement is an error up
to the end of the text. -/
def programStep (long short : Readers) (nodes : List SyntaxTree) : Reader (List SyntaxTree) := do
  let c ← get
  looking fun c => !c.rest.isEmpty
  let nodes := c.comments.reverse ++ nodes
  let wrong : Reader SyntaxTree := fun c =>
    some (.node "ERROR" c.start c.total true none [], c.advance c.rest.length)
  let t ← chosenStatement long short (commentCounts 0 nodes) <|> wrong
  pure (t :: nodes)

/-- Reads the line that names the program to run a source text, if that comes first. -/
def hashBang : Reader (List SyntaxTree) := do
  let c ← get
  let t ← spanned "hash_bang_line" do
    mark "#!"
    fun c => some ((), c.advanceRaw (c.gap.takeWhile (· != '\n')).length)
  pure (t :: c.comments.reverse)

/-- Reads all nodes of a source text. -/
def program (depth : Nat) : Reader (List SyntaxTree) := do
  let lead ← hashBang <|> pure []
  let nodes ← iterate (programStep (readers false depth) (readers true depth)) lead
  let d ← get
  pure (nodes.reverse ++ d.comments)

/-- The tree of a source text. Nothing in it is nested deeper than it has characters. -/
def readProgram (source : String) : SyntaxTree :=
  let s := source.toList
  let total := Lexeme.byteLength s
  let nodes := ((program (3 * s.length + 8)).run (Cursor.place total 0 s)).map (·.1)
  .node "program" 0 total true none (nodes.getD [])

end TypeAtlas.TypeScript
