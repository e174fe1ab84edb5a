import TypeAtlas.TypeScript.Types

/-! # Functions and classes in TypeScript source text

What functions, classes and objects hold, whether they are declared or stand in an expression. Main
definitions:

* `functionRest`: a function from its keyword.
* `heritage`, `classBody`, `classRest`: what a class extends, its members, and a class from its
  keyword.
* `object`: an object or a pattern that takes one apart. -/

namespace TypeAtlas.TypeScript.Readers

/-- Reads a function with a body, from its keyword. -/
def functionRest (r : Readers) : Reader Unit := do
  word "function"
  opt (mark "*")
  opt anyName
  r.signature .enclosed
  r.block

/-- Reads what a class extends and what it implements. -/
def heritage (r : Readers) : Reader Unit := do
  opt do
    word "extends"
    commas1 (r.expression (.bounded .classHead))
  opt do
    word "implements"
    commas1 (r.wholeType .enclosed)

/-- The words that may stand before the name of a member of a class. -/
def classModifiers : List String := memberModifiers ++ ["declare", "abstract", "accessor"]

/-- Reads a field or a method of a class, its decorators aside. -/
def classElement (r : Readers) : Reader Unit := do
  silently (iterate (memberModifier classModifiers) .plain)
  r.propertyName <|> silently r.indexKey
  opt (mark "?" <|> mark "!")
  (do
    r.signature .signature
    opt r.block) <|>
  (do
    opt do
      mark ":"
      r.wholeType .plain
    opt do
      mark "="
      r.expression .statement)

/-- Reads a member of a class, a decorator, or what separates them. -/
def classMember (r : Readers) : Reader Unit :=
  mark ";" <|> mark "," <|> r.decorator <|> (do word "static"; r.block) <|>
    silently r.indexSignature <|> r.classElement

/-- Reads the members of a class. -/
def classBody (r : Readers) : Reader Unit := do
  mark "\x7b"
  many r.classMember
  mark "\x7d"

/-- Reads the name of a class. -/
def className : Reader Unit := do
  looking fun c => c.name != "extends" && c.name != "implements"
  anyName

/-- Reads what follows the name of a class. -/
def classRest (r : Readers) : Reader Unit := do
  opt r.typeParameters
  r.heritage
  r.classBody

/-- Reads a method of an object. -/
def objectMethod (r : Readers) : Reader Unit := do
  silently (iterate (memberModifier memberModifiers) .enclosed)
  r.propertyName
  opt (mark "?")
  r.signature .enclosed
  r.block

/-- Reads a property of an object. -/
def objectMember (r : Readers) : Reader Unit :=
  (do mark "..."; r.value) <|>
    (do r.propertyName; mark ":"; opt (mark "..."); r.value) <|>
    r.objectMethod <|>
    (do r.pattern; mark "="; r.value) <|>
    anyName

/-- Reads an object. -/
def object (r : Readers) : Reader Unit := do
  mark "\x7b"
  commas r.objectMember
  mark "\x7d"

end TypeAtlas.TypeScript.Readers
