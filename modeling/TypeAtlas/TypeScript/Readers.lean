import TypeAtlas.TypeScript.LineEnd

/-! # The readers that call each other

Types, expressions and statements hold each other, so the readers of their parts take the readers of
the wholes as an argument. Main definitions:

* `Strength`: which operators a type that is read may have at its top.
* `Place`, `Context`: where an expression stands.
* `Readers`: the readers of the wholes.
* `propertyName`, `listed`, `template`, `block`: parts that many others have. -/

namespace TypeAtlas.TypeScript

/-- The weakest operator that a type may have at its top, from the weakest on. -/
inductive Strength where
  /-- Any, also that of a conditional type. -/
  | conditional
  /-- That of a union. -/
  | union
  /-- That of an intersection. -/
  | intersection
  /-- None. -/
  | operand
  deriving DecidableEq, Repr

namespace Strength

/-- The place of a strength among them. -/
def rank : Strength → Nat
  | conditional => 0
  | union => 1
  | intersection => 2
  | operand => 3

/-- Whether a type of strength `s` may have an operator of strength `t` at its top. -/
def admits (s t : Strength) : Bool := s.rank ≤ t.rank

end Strength

/-- What an expression is a part of, as far as that bounds it. -/
inductive Place where
  /-- Nothing that bounds it. -/
  | free
  /-- Something that goes on with a colon, so that the result of a function has no type. -/
  | beforeColon
  /-- The head of a class, which a brace ends. -/
  | classHead
  /-- The head of a loop, which the word `in` may end. -/
  | loopHead
  deriving DecidableEq, Repr

/-- Where an expression stands. -/
structure Context where
  /-- What could continue the statement from the end of the expression. -/
  onward : Onward
  /-- What the expression is a part of. -/
  place : Place
  /-- Whether more expressions may follow behind commas. -/
  sequence : Bool
  deriving DecidableEq, Repr

namespace Context

/-- Between brackets. -/
def enclosed : Context := ⟨.inner, .free, false⟩

/-- Between brackets, in something that bounds the expression. -/
def bounded (p : Place) : Context := ⟨.inner, p, p == .classHead⟩

/-- At the end of a statement. -/
def statement : Context := ⟨.expression, .free, false⟩

end Context

/-- The readers of types, expressions and statements. -/
structure Readers where
  /-- Reads an expression without commas at its top. -/
  expression : Context → Reader Unit
  /-- Reads an expression without operators behind its first operand. -/
  operand : Context → Reader Unit
  /-- Reads a type, from whose end a statement could go on as the second argument says. -/
  type : Strength → Onward → Reader SyntaxTree
  /-- Reads a statement. -/
  statement : Reader SyntaxTree
  /-- Whether a statement ends with type arguments wherever it can. -/
  brief : Bool

namespace Readers

/-- The readers that read nothing. -/
def idle : Readers where
  expression _ := failure
  operand _ := failure
  type _ _ := failure
  statement := failure
  brief := false

/-- Reads an expression between brackets. -/
def value (r : Readers) : Reader Unit := r.expression .enclosed

/-- Reads expressions with commas between them. -/
def values (r : Readers) (x : Context) : Reader Unit := do
  let y := { x with sequence := true }
  r.expression y
  many (do mark ","; r.expression y)

/-- Reads a type that ends within brackets or with a statement. -/
def wholeType (r : Readers) (o : Onward) : Reader Unit := silently (r.type .conditional o)

/-- Reads the name of a property: a word, a literal, or an expression in square brackets. -/
def propertyName (r : Readers) : Reader Unit :=
  anyName <|> lexeme Lexeme.stringLength <|> lexeme Lexeme.numberLength <|>
    lexeme Lexeme.privateNameLength <|> (do mark "["; r.value; mark "]")

/-- Reads expressions with commas between them, any of which may be missing or spread. -/
def listed (r : Readers) : Reader Unit := commas do
  opt (mark "...")
  r.value

/-- Reads the arguments of a call. -/
def arguments (r : Readers) : Reader Unit := do
  mark "("
  r.listed
  mark ")"

/-- Reads a block of statements. -/
def block (r : Readers) : Reader Unit := do
  mark "\x7b"
  many (silently r.statement)
  mark "\x7d"

end Readers

/-- Reads the plain text of a template. -/
def chunk : Reader Unit := fun c => some ((), c.advanceRaw (Lexeme.chunkLength c.gap))

/-- Reads a template whose substitutions are read by `hole`. -/
def template (hole : Reader Unit) : Reader Unit := do
  mark "\x60"
  chunk
  many do
    mark "$\x7b"
    hole
    mark "\x7d"
    chunk
  mark "\x60"

end TypeAtlas.TypeScript
