import TypeAtlas.TypeScript.Statements

/-! # Two readings of a statement

An operand with type arguments at the end of a line may end a statement, or be compared with what
follows: then the statement is longer. Which of the two readings is chosen depends on the statements
around, and on the comments between them. Main definitions:

* `Longer`: how the longer reading goes on where the shorter one ends.
* `rejoins`: whether the two readings become one before they end.
* `prefersLonger`: the choice where they end together.
* `chosenStatement`: the reader of the statement that is chosen. -/

namespace TypeAtlas.TypeScript

/-- Reads a part of an operand of a comparison behind it; if `wide`, also an assignment, or a bracket
that could start type arguments. -/
def tightStep (r : Readers) (wide : Bool) : Reader Unit := do
  unended .expression
  r.operandRest <|> (do r.typeArguments; r.arguments) <|>
    (do
      looking fun c => !c.startsWith "<="
      let c ← get
      Readers.firstMark Readers.operators <|> mark "<"
      let d ← get
      let sign := String.ofList (c.rest.take (d.stop - c.start))
      let assigns := sign.endsWith "=" && !([">=", "===", "==", "!==", "!="].contains sign)
      looking fun _ =>
        Readers.tightOperators.contains sign || (wide && (assigns || sign == "<"))
      r.operand .statement)

/-- Reads an operand of a comparison. -/
def tightOperand (r : Readers) (wide : Bool) : Reader Unit := do
  r.operand .statement
  many (tightStep r wide)

/-- Reads labels. -/
def labels : Reader Unit := many (do anyName; mark ":")

/-- Whether a statement from `c` to `e` is an operand with type arguments, labels aside. -/
def isDirect (r : Readers) (c e : Cursor) : Bool :=
  match (do labels; tightOperand r false; r.typeArguments : Reader Unit) c with
  | some (_, d) => d.stop == e.stop
  | none => false

/-- Whether a statement from `c` to `e` has several type arguments at its end, so that no single
expression is longer, but a list of them. -/
def isListed (r : Readers) (c e : Cursor) : Bool :=
  match (do labels; r.expression .statement : Reader Unit) c with
  | some (_, d) => d.stop ≤ e.stop
  | none => false

/-- Whether a reader stops at a cursor at which no statement ends. -/
def stopsInside (p : Reader Unit) (c : Cursor) : Bool :=
  match p c with
  | some (_, d) => !d.ended .expression
  | none => false

/-- Reads an expression and a comma. -/
def beforeComma (r : Readers) : Reader Unit := do r.expression .statement; mark ","

/-- Reads expressions with commas between them, and a semicolon. -/
def endedList (r : Readers) : Reader Unit := do commas1 (r.expression .statement); mark ";"

/-- How the longer of two readings goes on where the shorter one ends. -/
inductive Longer where
  /-- With an operand of a comparison that is the whole statement, labels aside. -/
  | direct
  /-- With the last one of several expressions. -/
  | listed
  /-- With another operand. -/
  | inner
  deriving DecidableEq, Repr

/-- How the longer reading of a statement from `c` goes on where the shorter one ends, at `e`. -/
def Longer.of (r : Readers) (c e : Cursor) : Longer :=
  if isListed r c e then .listed else if isDirect r c e then .direct else .inner

/-- Whether two readings of a text become one before the next statement, if one has a statement at the
cursor and the other an operand. They do if the statement is an expression and a comment follows it, if
it goes on behind a comma or ends with a semicolon, or, where the other reading is direct, if its first
operand goes on with an operator that binds no more tightly than a comparison. A list becomes one with
another list only at the semicolon or behind its second comma. -/
def rejoins (long short : Readers) (longer : Longer) (c : Cursor) : Bool :=
  match long.statement c, short.statement c with
  | some (t, d), some (_, e) =>
    t.kind == "expression_statement" &&
      (!d.comments.isEmpty ||
        if longer = .listed then
          (endedList long c).isSome || ((beforeComma long *> beforeComma long) c).isSome
        else
          stopsInside (long.expression .statement) c ||
            (longer = .direct && d.stop == e.stop && stopsInside (tightOperand long true) c))
  | _, _ => false

/-- The words that are values and no names. -/
def valueWords : List String := ["this", "super", "true", "false", "null", "undefined"]

/-- The words that stand in front of an operand. -/
def operandWords : List String := ["typeof", "void", "delete", "yield"]

/-- Whether a statement starts at the cursor that is no expression, or one whose first operand is a
mere name. For a list the operand has only to start with a name or a brace, and the expression must be
no list. -/
def startsPlainly (r : Readers) (longer : Longer) (c : Cursor) : Bool :=
  let bare :=
    match tightOperand r true c, anyName c with
    | some (_, d), some (_, e) => d.stop == e.stop && !valueWords.contains c.name
    | _, _ => false
  let loose :=
    c.startsWith "\x7b" ||
      ((anyName c).isSome && !(valueWords ++ operandWords ++ ["await"]).contains c.name)
  match r.statement c with
  | some (t, _) =>
    t.kind != "expression_statement" ||
      if longer = .listed then (bare || loose) && (beforeComma r c).isNone else bare
  | none => false

/-- The kinds of nodes that stand between statements. -/
def betweenKinds : List String := ["comment", "html_comment"]

/-- The numbers of comments before each statement but the first, from the last statement on; `nodes`
are what was read so far, from the last on, and `n` comments were read since. -/
def commentCounts (n : Nat) : (nodes : List SyntaxTree) → List Nat
  | [] => []
  | t :: nodes =>
    if betweenKinds.contains t.kind then commentCounts (n + 1) nodes
    else if t.kind == "hash_bang_line" then []
    else n :: commentCounts 0 nodes

/-- Whether the longer of two readings is chosen that end together. There are `n` comments before the
rest of the shorter reading, and `counts` of them before the statement and before those that precede
it: the first of these numbers to differ from the one before it decides, by being less, for the longer
reading, which is also chosen if all are the same. -/
def prefersLonger (n : Nat) : (counts : List Nat) → Bool
  | [] => true
  | m :: counts => m < n || (m == n && prefersLonger m counts)

/-- How many comments precede the last statement of the shorter of two readings that go on from `e` to
`d`. It is the rest of the longer one, or a semicolon behind a rest that needs none. -/
def lastComments (r : Readers) (d e : Cursor) : Nat :=
  match r.statement e with
  | some (_, f) => (if f.stop < d.stop then f else e).comments.length
  | none => e.comments.length

/-- Whether the statement at a cursor `c` takes in a comment that stands behind another reading, which
ends at the cursor `d`. -/
def takesComment (r : Readers) (c d : Cursor) : Bool :=
  match r.statement c with
  | some (_, e) => d.stop ≤ e.stop && e.comments.length < d.comments.length
  | none => false

/-- Whether the longer of two readings of a statement is chosen; it is of a kind and starts at `c`, and
ends at `d`, the shorter one at `e`. The longer one is chosen for the first statement. Otherwise, if
the text ends with the two or they become one before, the numbers of comments before the statements
decide; else the shorter one is chosen unless more comments precede its rest than itself. A label
counts for the longer reading if these are as many and the rest starts plainly. -/
def choosesLonger (long short : Readers) (counts : List Nat) (kind : String) (c d e : Cursor) :
    Bool :=
  let n := lastComments long d e
  let longer := Longer.of long c e
  let label := kind == "labeled_statement" && startsPlainly long longer e
  match counts with
  | [] => true
  | m :: _ =>
    if d.rest.isEmpty ||
        ((kind == "expression_statement" || label) && rejoins long short longer e) then
      prefersLonger n counts
    else m < n || (m == n && label)

/-- Reads a statement that `counts` comments precede. The shorter of two readings is chosen also if its
rest takes in a comment behind both, or if there is no longer one. -/
def chosenStatement (long short : Readers) (counts : List Nat) : Reader SyntaxTree := fun c =>
  match long.statement c, short.statement c with
  | some (t, d), some (u, e) =>
    if d.stop ≤ e.stop ||
        (choosesLonger long short counts t.kind c d e && !takesComment long e d) then
      some (t, d)
    else some (u, e)
  | some found, none => some found
  | none, found => found

end TypeAtlas.TypeScript
