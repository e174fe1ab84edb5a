import TypeAtlas.TypeScript.Cursor

/-! # Statements that end with their line

A statement or a member of a type may end without a semicolon: before a closing brace, at the end of
the text, or with its line if what follows cannot continue it. Main definitions:

* `Onward`: what could continue a statement from where it may end.
* `Cursor.lineEnd?`: the end of a statement without a semicolon.
* `lineEnd`, `semicolon`, `unended`: readers of such an end, of any end, and of none. -/

namespace TypeAtlas.TypeScript

/-- What could continue a statement from where it may end. -/
structure Onward where
  /-- The statement may end at all. -/
  ends : Bool
  /-- Binary operators could, so that a round or square bracket on the next line does. -/
  operators : Bool
  /-- A body could, so that a brace on the next line does. -/
  body : Bool
  deriving DecidableEq, Repr

namespace Onward

/-- Between brackets nothing ends. -/
def enclosed : Onward := ⟨false, false, false⟩

/-- In an expression between brackets, operators. -/
def inner : Onward := ⟨false, true, false⟩

/-- Neither operators nor a body. -/
def plain : Onward := ⟨true, false, false⟩

/-- From the end of an expression, operators. -/
def expression : Onward := ⟨true, true, false⟩

/-- From the end of a signature, a body. -/
def signature : Onward := ⟨true, false, true⟩

end Onward

namespace LineEnd

/-- The ranges of the characters that are white space where the end of a line is sought. -/
def spaces : List (Nat × Nat) :=
  [(9, 13), (0x20, 0x20), (0x1680, 0x1680), (0x2000, 0x2006), (0x2008, 0x200A), (0x2028, 0x2029),
   (0x205F, 0x205F), (0x3000, 0x3000)]

/-- Whether a character is white space where the end of a line is sought. -/
def isSpace (c : Char) : Bool := spaces.any fun (first, last) => first ≤ c.toNat && c.toNat ≤ last

/-- Whether a character is a letter that continues a word. -/
def isLetter (c : Char) : Bool := c.isAlpha || (128 ≤ c.toNat && Lexeme.isNameChar c)

/-- A text without the white space and the comments at its front. -/
def skip (s : List Char) : List Char :=
  match s with
  | [] => []
  | '/' :: '/' :: r => skip (r.drop (r.takeWhile (· != '\n')).length)
  | '/' :: '*' :: r => skip (r.drop ((Lexeme.blockLength? r).getD r.length))
  | c :: r => if isSpace c then skip r else c :: r
termination_by s.length
decreasing_by all_goals simp only [List.length_cons, List.length_drop]; omega

/-- Whether a text starts with a word that stands between two operands. -/
def startsOperator (s : List Char) : Bool :=
  let follows (w : String) : Bool :=
    w.toList.isPrefixOf s && !((s.drop w.length).head?.map isLetter).getD false
  follows "in" || follows "instanceof"

/-- The characters that continue a statement from the line before in any case. -/
def continuing : List Char :=
  ['\x60', ',', '.', ';', '*', '%', '>', '<', '=', '?', '^', '|', '&', '/', ':']

/-- Whether the next line, from its first character that is not in a comment, starts afresh. -/
def startsAfresh (o : Onward) : List Char → Bool
  | [] => true
  | c :: r =>
    if continuing.contains c then false
    else if c == '\x7b' then !o.body
    else if c == '(' || c == '[' then !o.operators
    else if c == '+' || c == '-' then r.head? == some c
    else if c == '!' then r.head? != some '='
    else !startsOperator (c :: r)

/-- Whether a statement ends right at the front of a text. -/
def endsHere (o : Onward) (s : List Char) : Bool :=
  match s.dropWhile fun c => isSpace c && c != '\n' with
  | [] => true
  | '\n' :: r => startsAfresh o (skip r)
  | '\x7d' :: r => (r.dropWhile isSpace).head? != some ':'
  | _ => false

/-- Where a statement ends, if it ends before the next token: there, or behind one of the comments
that come first. -/
def find? (o : Onward) (stop : Nat) (gap : List Char) : Option (Nat × List Char) :=
  if endsHere o gap then some (stop, gap)
  else
    let blanks := gap.takeWhile Lexeme.isSpace
    let s := gap.dropWhile Lexeme.isSpace
    match h : Lexeme.commentLength s with
    | 0 => none
    | n + 1 =>
      find? o (stop + Lexeme.byteLength blanks + Lexeme.byteLength (s.take (n + 1))) (s.drop (n + 1))
termination_by gap.length
decreasing_by
  have hs : s ≠ [] := by
    intro hnil
    rw [hnil] at h
    simp [Lexeme.commentLength] at h
  have hpos : 0 < s.length := List.length_pos_iff.mpr hs
  have hle : s.length ≤ gap.length := (List.dropWhile_suffix _).length_le
  have hlt : (s.drop (n + 1)).length < gap.length := by
    rw [List.length_drop]
    omega
  exact hlt

end LineEnd

/-- The cursor at the end of a statement, if one ends before the next token. -/
def Cursor.lineEnd? (o : Onward) (c : Cursor) : Option Cursor :=
  (LineEnd.find? o c.stop c.gap).map fun (stop, gap) => { c with stop := stop, gap := gap }

/-- Reads the end of a statement without a semicolon. -/
def lineEnd (o : Onward) : Reader Unit := fun c => (c.lineEnd? o).map fun d => ((), d)

/-- Reads the end of a statement. -/
def semicolon (o : Onward) : Reader Unit := lineEnd o <|> mark ";"

/-- Whether a statement that could go on as `o` says ends before the next token. -/
def Cursor.ended (o : Onward) (c : Cursor) : Bool := o.ends && (c.lineEnd? o).isSome

/-- Succeeds, and reads nothing, where no statement ends. -/
def unended (o : Onward) : Reader Unit := looking fun c => !c.ended o

@[simp] theorem ended_enclosed (c : Cursor) : c.ended .enclosed = false := rfl

@[simp] theorem ended_inner (c : Cursor) : c.ended .inner = false := rfl

end TypeAtlas.TypeScript
