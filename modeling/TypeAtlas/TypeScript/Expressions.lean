import TypeAtlas.TypeScript.Classes

/-! # Expressions in TypeScript source text

Of an expression only its extent matters, so how tightly its operators bind does not: an expression
is an operand and whatever continues it. Where text has two readings, a bracket in angles that holds
types is one of type arguments unless a comparison makes more of the text, and a list in round
brackets before an arrow is one of parameters. Main definitions:

* `readOperand`: an operand.
* `continuation`: a call, a member, an operator with its right operand, and so on.
* `readExpression`: an expression without commas at its top. -/

namespace TypeAtlas.TypeScript.Readers

/-- The words that may follow an expression in a place. -/
def followers : Place → List String
  | .classHead => "implements" :: infixWords
  | .loopHead => "of" :: infixWords
  | _ => infixWords

/-- Succeeds, and reads nothing, if a word read last may have more to it than its name: the statement
does not end there, and no word follows that would continue it. -/
def leading (x : Context) : Reader Unit := do
  unended x.onward
  looking fun c => !(followers x.place).contains c.name

/-- Reads the arrow and the body of a function. -/
def arrow (r : Readers) (x : Context) : Reader Unit := do
  mark "=>"
  r.block <|> r.expression x

/-- Reads what follows the parameters of a function with an arrow. -/
def arrowRest (r : Readers) (x : Context) : Reader Unit :=
  r.arrow x <|>
    (do
      looking fun _ => x.place != .beforeColon
      mark ":"
      r.result .enclosed
      r.arrow x)

/-- Reads an element of a list in round brackets: an expression, or a parameter. -/
def roundElement (r : Readers) : Reader Unit :=
  let rest : Reader Unit := do
    opt (mark "...")
    r.value
    r.parameterTail
  (do many r.decorator; many parameterModifier; rest) <|> rest

/-- Reads a list in round brackets, and the arrow behind it if that makes it a list of
parameters. -/
def round (r : Readers) (x : Context) : Reader Unit := do
  mark "("
  commas r.roundElement
  mark ")"
  opt (r.arrowRest x)

/-- Reads a function with type parameters and an arrow, or an operand behind its type in angle
brackets. -/
def angled (r : Readers) (x : Context) : Reader Unit :=
  (do r.typeParameters; r.parameters; r.arrowRest x) <|> (do r.typeArguments; r.operand x)

/-- Reads a class, its decorators included. -/
def classOperand (r : Readers) : Reader Unit := do
  many r.decorator
  word "class"
  opt className
  r.classRest

/-- Reads what starts with the word for asynchronous functions. -/
def asyncOperand (r : Readers) (x : Context) : Reader Unit := do
  anyName
  (do unended x.onward; r.functionRest) <|>
    (do leading x; anyName; r.arrow x) <|>
    (do opt r.typeParameters; r.parameters; r.arrowRest x) <|>
    opt (r.arrow x)

/-- Reads the property behind a point. -/
def property : Reader Unit := anyName <|> lexeme Lexeme.privateNameLength

/-- Reads an index in square brackets. -/
def index (r : Readers) : Reader Unit := do
  mark "["
  r.values .enclosed
  mark "]"

/-- Reads what may stand between a constructor and its type arguments. -/
def constructorStep (r : Readers) (x : Context) : Reader Unit := do
  unended x.onward
  (do mark "."; property) <|> (do mark "?."; property <|> r.index) <|> r.index <|>
    (do looking fun c => !c.startsWith "!="; mark "!")

/-- Reads what starts with the word for new objects. -/
def newOperand (r : Readers) (x : Context) : Reader Unit := do
  anyName
  (do mark "."; anyName) <|>
    (do
      leading x
      r.operand x
      many (r.constructorStep x)
      opt r.typeArguments) <|>
    opt (r.arrow x)

/-- Reads what starts with the word for namespaces. -/
def namespaceOperand (r : Readers) (x : Context) : Reader Unit := do
  anyName
  (do
    leading x
    lexeme Lexeme.stringLength <|> (do anyName; many (do mark "."; anyName))
    opt do
      unended x.onward
      r.block) <|>
    opt (r.arrow x)

/-- The words that stand before their operand. -/
def operatorWords : List String := ["typeof", "void", "delete", "await"]

/-- Reads an operand that starts with a word. -/
def wordOperand (r : Readers) (x : Context) (w : String) : Reader Unit :=
  if w == "function" then r.functionRest
  else if w == "class" then r.classOperand
  else if w == "async" then r.asyncOperand x
  else if w == "new" then r.newOperand x
  else if w == "namespace" then r.namespaceOperand x
  else if operatorWords.contains w then do
    anyName
    r.operand x
  else if w == "yield" then do
    anyName
    opt do
      leading x
      opt (mark "*")
      r.expression x
  else if w == "using" then (do anyName; r.operand x) <|> anyName
  else do
    anyName
    opt (r.arrow x)

/-- The signs that stand before their operand. -/
def operatorMarks : List String := ["++", "--", "!", "~", "+", "-"]

/-- Whether an operator that stands before its operand comes next. -/
def startsWithOperator (c : Cursor) : Bool :=
  operatorMarks.any c.startsWith || operatorWords.contains c.name

/-- Reads the first of some pieces of text that comes next. -/
def firstMark : List String → Reader Unit
  | [] => failure
  | s :: ss => mark s <|> firstMark ss

/-- Reads an operand. -/
def readOperand (r : Readers) (x : Context) : Reader Unit := do
  let c ← get
  match c.rest with
  | '(' :: _ => r.round x
  | '[' :: _ => do
    mark "["
    r.listed
    mark "]"
  | '\x7b' :: _ => r.object
  | '\x60' :: _ => template (r.values .enclosed)
  | '/' :: _ => lexeme Lexeme.regexLength
  | '<' :: _ => r.angled x
  | '@' :: _ => r.classOperand
  | '#' :: _ => lexeme Lexeme.privateNameLength
  | _ =>
    (do
      firstMark operatorMarks
      r.operand x) <|>
    lexeme Lexeme.stringLength <|> lexeme Lexeme.numberLength <|>
    (do
      looking fun c => c.name != ""
      r.wordOperand x c.name)

/-- The signs of operators between operands, longer ones before their beginnings. -/
def operators : List String :=
  [">>>=", ">>>", ">>=", ">>", ">=", ">", "<<=", "<<", "<=", "===", "==", "=", "!==", "!=",
   "**=", "**", "*=", "*", "/=", "/", "%=", "%", "&&=", "&&", "&=", "&", "||=", "||", "|=", "|",
   "^=", "^", "+=", "+", "-=", "-", "??=", "??"]

/-- The signs of the operators that bind more tightly than comparisons do. -/
def tightOperators : List String := ["**", "*", "/", "%", "+", "-", "<<", ">>>", ">>"]

/-- Reads an operator and its right operand, and tells whether that operand is bound more tightly than
in a comparison. -/
def binary (r : Readers) (x : Context) : Reader Bool := do
  looking fun c => !c.startsWith "=>"
  let c ← get
  firstMark operators
  let d ← get
  r.operand x
  let sign := String.ofList (c.rest.take (d.stop - c.start))
  pure (tightOperators.contains sign || startsWithOperator d)

/-- Whether a question mark that comes next starts a choice between two values: a colon, a comma or a
closing bracket behind it says otherwise, and so does a point that starts no number. -/
def startsChoice (c : Cursor) : Bool :=
  match (c.rest.drop 1).dropWhile LineEnd.isSpace with
  | '.' :: d :: _ => d.isDigit
  | d :: _ => d != ':' && d != ')' && d != ',' && d != '.'
  | [] => true

/-- Reads a choice between two values. -/
def choice (r : Readers) (x : Context) : Reader Unit := do
  looking startsChoice
  mark "?"
  (do r.value; mark ":") <|> (do r.expression (.bounded .beforeColon); mark ":")
  r.expression x

/-- Whether an expression may end at a cursor. -/
def mayEnd (x : Context) (c : Cursor) : Bool :=
  if x.place == .classHead then c.startsWith "\x7b" || c.startsWith "," || c.name == "implements"
  else if x.onward.ends then c.ended x.onward || c.startsWith ";" || c.startsWith ","
  else c.rest.isEmpty || [";", ")", "]", "\x7d", ":", ","].any c.startsWith

/-- The words that start a type and no operand. -/
def typeWords : List String :=
  ["const", "unknown", "never", "keyof", "infer", "unique", "abstract"]

/-- Reads a comparison from its angle bracket, and the expressions behind it. -/
def comparison (r : Readers) (x : Context) : Reader Unit := do
  mark "<"
  looking fun c => !typeWords.contains c.name
  r.expression x
  if x.sequence then many (do mark ","; r.expression x)

/-- Whether something comes next that can continue an expression or end it. -/
def mayFollow (x : Context) (c : Cursor) : Bool :=
  mayEnd x c || infixWords.contains c.name ||
    (c.rest.head?.map fun d => ".?[(\x60<!+-*/%&|^=>".toList.contains d).getD false

/-- What can follow an opening angle bracket behind an operand. -/
inductive Angle where
  /-- Types only. -/
  | types
  /-- Values only. -/
  | values
  /-- Types as well as values. -/
  | either
  deriving DecidableEq, Repr

/-- The words that are names of values and of no types where both could stand. -/
def valueNames : List String :=
  ["async", "let", "type", "get", "set", "static", "export", "declare", "namespace", "module",
   "public", "private", "protected", "override", "import"]

/-- Whether a cursor is where a type among others ends. -/
def endsType (c : Cursor) : Bool :=
  [">", ",", ")", "]", "\x7d"].any c.startsWith ||
    ["|", "&"].any fun s => c.startsWith s && !c.startsWith (s ++ s)

/-- Tells that only types follow if a type ends here. -/
def typesIfEnded : Reader (Option Angle) := do
  let c ← get
  pure (some (if endsType c then .types else .either))

/-- Tells what a type argument or an operand can be by how it starts, and nothing where a single name
or literal was read that can be both. A sign before a number and the word for the type of a value
start types, and in braces a single name or literal cannot be a value, as a line could end behind it. -/
def angleStart (r : Readers) : Nat → Reader (Option Angle)
  | 0 => pure none
  | fuel + 1 => do
    let c ← get
    let inside : Reader (Option Angle) := do
      let k ← angleStart r fuel
      pure (some (k.getD .either))
    if c.startsWith "(" then do
      mark "("
      inside
    else if c.startsWith "[" then do
      mark "["
      (do mark "]"; pure none) <|> inside
    else if c.startsWith "\x7b" then do
      mark "\x7b"
      (do mark "\x7d"; pure none) <|>
        (do
          r.propertyName
          let k ← (do mark ":"; angleStart r fuel) <|> pure none
          let d ← get
          pure (k <|> some (if d.startsWith "\x7d" then .types else .either))) <|>
        pure (some .either)
    else if c.startsWith "-" || c.startsWith "+" then
      (do mark "-" <|> mark "+"; lexeme Lexeme.numberLength; typesIfEnded) <|> pure (some .either)
    else if c.name == "typeof" then
      (do
        word "typeof"
        looking fun d => d.name != "import"
        anyName
        many ((do mark "."; property) <|> r.index)
        typesIfEnded) <|> pure (some .values)
    else if c.name == "new" || c.name == "readonly" then do
      anyName
      let d ← get
      let named := if c.name == "new" then !(d.startsWith "(" || d.startsWith "<")
        else endsType d || d.startsWith "." || d.startsWith "<"
      pure (some (if named then .values else .types))
    else if valueNames.contains c.name then pure (some .values)
    else
      (do anyName <|> lexeme Lexeme.stringLength <|> lexeme Lexeme.numberLength; pure none) <|>
        pure (some .either)

/-- What can follow an opening angle bracket at a cursor. -/
def angle (r : Readers) (c : Cursor) : Angle :=
  match (do mark "<"; angleStart r c.left : Reader (Option Angle)) c with
  | some (k, _) => k.getD .either
  | none => .either

/-- Reads what an opening angle bracket behind an operand starts: type arguments, or a comparison.
The comparison is chosen if there are no type arguments, if they end where an expression cannot, or
if it reads on past them to the end of the expression, unless their start tells otherwise; but type
arguments before the arguments of a call stand and are read with them, and where the shortest
statement is sought those stand that may end it, unless the operand is bound tightly. -/
def angleRest (r : Readers) (x : Context) (tight : Bool) : Reader Unit := fun c =>
  match r.typeArguments c with
  | none => r.comparison x c
  | some (_, d) =>
    let call? := (r.arguments d).filter fun p => !p.2.startsWith "=>"
    let done := d.ended x.onward || (x.place == .classHead && d.startsWith "\x7b")
    let kind := r.angle c
    if call?.isSome then call?
    else if kind == .types || (kind == .either && r.brief && done && !tight) then some ((), d)
    else
      match r.comparison x c with
      | some (_, e) =>
        if !mayFollow x d || ((kind == .values || d.stop < e.stop) && mayEnd x e) then some ((), e)
        else some ((), d)
      | none => some ((), d)

/-- Reads what follows the sign of a chain that stops at missing values. -/
def chainRest (r : Readers) : Reader Unit :=
  property <|> r.index <|> (do opt r.typeArguments; r.arguments)

/-- Reads an operator that is a word, and its right operand, and tells whether that is bound tightly. -/
def wordStep (r : Readers) (x : Context) (w : String) : Reader Bool :=
  if w == "instanceof" || (w == "in" && x.place != .loopHead) then do
    anyName
    let c ← get
    r.operand x
    pure (startsWithOperator c)
  else if w == "as" || w == "satisfies" then do
    anyName
    (do r.wholeType x.onward; looking (mayFollow x)) <|> word "const" <|> r.wholeType x.onward
    pure false
  else failure

/-- Reads a part of an operand behind it: a member, an index, arguments, or a template. -/
def operandRest (r : Readers) : Reader Unit := do
  let c ← get
  match c.rest with
  | '.' :: _ => do
    mark "."
    property
  | '?' :: '.' :: _ => do
    mark "?."
    r.chainRest
  | '[' :: _ => r.index
  | '(' :: _ => r.arguments
  | '\x60' :: _ => template (r.values .enclosed)
  | '+' :: '+' :: _ => mark "++"
  | '-' :: '-' :: _ => mark "--"
  | _ => failure

/-- Reads what continues an expression behind an operand, and tells whether the last operand then is
bound tightly, if the one before is as `tight` says. -/
def continuation (r : Readers) (x : Context) (tight : Bool) : Reader Bool := do
  unended x.onward
  let c ← get
  (do r.operandRest; pure tight) <|>
    match c.rest with
    | '?' :: '?' :: _ => r.binary x
    | '?' :: _ => do
      r.choice x
      pure false
    | '<' :: '<' :: _ => r.binary x
    | '<' :: '=' :: _ => r.binary x
    | '<' :: _ => do
      r.angleRest x tight
      pure tight
    | '!' :: '=' :: _ => r.binary x
    | '!' :: _ => do
      mark "!"
      pure tight
    | _ => r.wordStep x c.name <|> r.binary x

/-- Reads what follows the first operand of expressions with commas between them. -/
def valuesRest (r : Readers) (x : Context) : Reader Unit := do
  let y := { x with sequence := true }
  silently (iterate (r.continuation y) false)
  many (do mark ","; r.expression y)

/-- Reads an expression without commas at its top. -/
def readExpression (r : Readers) (x : Context) : Reader Unit := do
  let c ← get
  r.operand x
  silently (iterate (r.continuation x) (startsWithOperator c))

end TypeAtlas.TypeScript.Readers
