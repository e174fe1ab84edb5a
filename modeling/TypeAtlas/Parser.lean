import TypeAtlas.Document
import TypeAtlas.SyntaxTree.Statements
import TypeAtlas.TypeScript.Program

/-! # Parsers (specification §6)

A parser reads source text to statements, and may be unavailable. Main definitions: `Parser`, with
`Parser.typeScript`, `Parser.ofTree`, `Parser.unavailable` and `Parser.fixed`; `generate`, the page of a
source text. -/

namespace TypeAtlas

/-- What is needed to read source text is not there. -/
structure ParserMissing where
  deriving DecidableEq, Repr

/-- The wording of a missing parser. -/
def ParserMissing.message (_ : ParserMissing) : String :=
  "TypeScript parsing requires the tree-sitter and tree-sitter-typescript packages"

/-- A reader of source text. -/
abbrev Parser := List Char → Report ParserMissing (List Statement)

namespace Parser

/-- The parser of TypeScript. -/
def typeScript : Parser := fun source =>
  SyntaxTree.readStatements (Text.Utf8.encode source) (TypeScript.readProgram (String.ofList source))

/-- The parser that takes a given tree for that of every source text. -/
def ofTree (root : SyntaxTree) : Parser := fun source =>
  SyntaxTree.readStatements (Text.Utf8.encode source) root

/-- The parser that finds given statements in every source text. -/
def fixed (statements : List Statement) : Parser := fun _ => .done statements

end Parser

/-- Why there is no page of a source text. -/
inductive GenerateFault where
  /-- There is no parser. -/
  | parser (f : ParserMissing)
  /-- There is no page of its statements. -/
  | document (f : DocumentFault)
  deriving DecidableEq, Repr

/-- The page of the exported declarations in a source text: the `document` of its statements. -/
def generate (parser : Parser) (formatName : String) (inline : List String) (source : List Char) :
    Report GenerateFault String := do
  let statements ← (parser source).mapError .parser
  (document formatName inline statements).mapError .document

end TypeAtlas
