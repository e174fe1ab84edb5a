import TypeAtlas.TypeScript.Readers

/-! # Signatures

What the declarations of functions, methods and classes have in common: type parameters, parameters,
results, and decorators. Main definitions:

* `typeArguments`, `typeParameters`: lists in angle brackets.
* `parameters`: parameters in round brackets.
* `result`, `signature`: the type of a result, and a whole signature.
* `decorator`: a decorator. -/

namespace TypeAtlas.TypeScript.Readers

/-- Reads type arguments. -/
def typeArguments (r : Readers) : Reader Unit := do
  mark "<"
  commas1 (r.wholeType .enclosed)
  mark ">"

/-- Reads the name of a type parameter, its bound and its default. -/
def typeParameter (r : Readers) : Reader Unit := do
  (do word "const"; anyName) <|> anyName
  opt do
    word "extends" <|> mark ":"
    r.wholeType .enclosed
  opt do
    mark "="
    r.wholeType .enclosed

/-- Reads type parameters. -/
def typeParameters (r : Readers) : Reader Unit := do
  mark "<"
  commas1 r.typeParameter
  mark ">"

/-- Reads a decorator. -/
def decorator (r : Readers) : Reader Unit := do
  let target : Reader Unit := do
    anyName
    many (do mark "."; anyName)
    opt do
      opt r.typeArguments
      r.arguments
  mark "@"
  (do mark "("; target; mark ")") <|> target

/-- The words that may stand before the name of a parameter. -/
def parameterModifiers : List String :=
  ["public", "private", "protected", "override", "readonly"]

/-- Whether a name, a bracket of a pattern or dots come next. -/
def startsPattern (c : Cursor) : Bool :=
  c.name != "" || c.startsWith "\x7b" || c.startsWith "[" || c.startsWith "..."

/-- The words that stand between their operands. -/
def infixWords : List String := ["in", "instanceof", "as", "satisfies"]

/-- Reads a modifier of a parameter, which is a name itself if an operator follows. -/
def parameterModifier : Reader Unit := do
  oneOf parameterModifiers
  looking fun c => startsPattern c && !infixWords.contains c.name

/-- Reads a name, or a pattern that takes a value apart. -/
def pattern (r : Readers) : Reader Unit :=
  anyName <|>
    (do
      looking fun c => c.startsWith "\x7b" || c.startsWith "["
      r.operand .enclosed)

/-- Reads the type and the default behind the name of a parameter. -/
def parameterTail (r : Readers) : Reader Unit := do
  opt (mark "!")
  opt (mark "?")
  opt do
    mark ":"
    r.wholeType .enclosed
  opt do
    mark "="
    r.value

/-- Reads a parameter. -/
def parameter (r : Readers) : Reader Unit := do
  many r.decorator
  many parameterModifier
  opt (mark "...")
  r.pattern
  r.parameterTail

/-- Reads parameters. -/
def parameters (r : Readers) : Reader Unit := do
  mark "("
  commas r.parameter
  mark ")"

/-- The words that are types of their own. -/
def basicTypes : List String :=
  ["any", "number", "boolean", "string", "symbol", "void", "unknown", "never", "object"]

/-- Reads the type of a result: what a call asserts, what it tests, or a type. What is asserted may be
a name alone, but not one of a type that is built in. -/
def result (r : Readers) (o : Onward) : Reader Unit :=
  let basic : Reader Unit := (do word "unique"; word "symbol") <|> oneOf basicTypes
  let test : Reader Unit := do
    word "is"
    r.wholeType o
  let testHere : Reader Unit := do
    unended o
    test
  (do word "asserts"; basic; test) <|> (do word "asserts"; anyName; opt testHere) <|>
    (do basic <|> anyName; testHere) <|> r.wholeType o

/-- Reads type parameters, parameters, and the type of the result. -/
def signature (r : Readers) (o : Onward) : Reader Unit := do
  opt r.typeParameters
  r.parameters
  opt do
    mark ":"
    r.result o

end TypeAtlas.TypeScript.Readers
