import TypeAtlas.SyntaxTree
import TypeAtlas.TypeScript.Lexeme

/-! # Reading from a source text

A cursor stands between the token read last and the next one, and knows the white space and the
comments between them. A reader moves a cursor on or fails, and a failure leaves nothing behind, so
readings can be tried in turn. Main definitions:

* `Cursor`: a place in a source text.
* `Reader`: what reads from a cursor.
* `iterate`, `many`: reading over and over, as long as that gets on.
* `mark`, `word`, `lexeme`: reading one token.
* `spanned`: reading to a node. -/

namespace TypeAtlas.TypeScript

/-- A place in a source text. -/
structure Cursor where
  /-- The number of bytes of the source text. -/
  total : Nat
  /-- The byte after the token read last. -/
  stop : Nat
  /-- The text from there. -/
  gap : List Char
  /-- The first byte of the next token. -/
  start : Nat
  /-- The text from there. -/
  rest : List Char
  deriving Repr

namespace Cursor

/-- The cursor at byte `stop`, from which the text is `gap`. -/
def place (total stop : Nat) (gap : List Char) : Cursor :=
  let (start, rest) := Lexeme.skipTrivia stop gap
  ⟨total, stop, gap, start, rest⟩

/-- The number of bytes from the token read last. -/
def left (c : Cursor) : Nat := c.total - c.stop

/-- The cursor behind the first `n` characters of the next token. -/
def advance (n : Nat) (c : Cursor) : Cursor :=
  place c.total (c.start + Lexeme.byteLength (c.rest.take n)) (c.rest.drop n)

/-- The cursor behind the next `n` characters, white space and comments taken for what they are in a
template: plain text. -/
def advanceRaw (n : Nat) (c : Cursor) : Cursor :=
  place c.total (c.stop + Lexeme.byteLength (c.gap.take n)) (c.gap.drop n)

/-- The comments before the next token. -/
def comments (c : Cursor) : List SyntaxTree :=
  (Lexeme.commentRanges c.stop c.gap).map fun (a, b) => .node "comment" a b true none []

/-- Whether the next token starts with a piece of text. -/
def startsWith (s : String) (c : Cursor) : Bool := s.toList.isPrefixOf c.rest

/-- The name that comes next; empty if none does. -/
def name (c : Cursor) : String := String.ofList (c.rest.take (Lexeme.nameLength c.rest))

end Cursor

/-- What reads from a cursor and moves it on, or fails. -/
abbrev Reader (α : Type) := StateT Cursor Option α

/-- Reads by `step` over and over, until it fails or reads nothing. -/
def iterate {α : Type} (step : α → Reader α) (a : α) (c : Cursor) : Option (α × Cursor) :=
  match step a c with
  | none => some (a, c)
  | some (b, d) => if d.left < c.left then iterate step b d else some (b, d)
termination_by c.left

/-- Reads over and over, until nothing more is read. -/
def many (p : Reader Unit) : Reader Unit := iterate (fun _ => p) ()

/-- Reads if that succeeds, and tells whether it did. -/
def tried (p : Reader Unit) : Reader Bool := fun c =>
  match p c with
  | some (_, d) => some (true, d)
  | none => some (false, c)

/-- Reads if that succeeds. -/
def opt (p : Reader Unit) : Reader Unit := fun c => some ((), ((p c).map (·.2)).getD c)

/-- Reads to a value that nobody needs. -/
def silently {α : Type} (p : Reader α) : Reader Unit := do let _ ← p; pure ()

/-- Succeeds, and reads nothing, if the cursor is as `p` says. -/
def looking (p : Cursor → Bool) : Reader Unit := fun c => if p c then some ((), c) else none

/-- Reads a piece of text. -/
def mark (s : String) : Reader Unit := fun c =>
  if c.startsWith s then some ((), c.advance s.length) else none

/-- Reads a lexeme of the length that is given for the rest of the text, unless that is zero. -/
def lexeme (length : List Char → Nat) : Reader Unit := fun c =>
  match length c.rest with
  | 0 => none
  | n + 1 => some ((), c.advance (n + 1))

/-- Reads a name. -/
def anyName : Reader Unit := lexeme Lexeme.nameLength

/-- Reads a given word. -/
def word (w : String) : Reader Unit := fun c =>
  if c.startsWith w && Lexeme.nameTail (c.rest.drop w.length) == 0 then
    some ((), c.advance w.length)
  else none

/-- Reads one of some words. -/
def oneOf (ws : List String) : Reader Unit := do
  looking fun c => ws.contains c.name
  anyName

/-- Reads parts with commas between them; any of the parts may be missing. -/
def commas (p : Reader Unit) : Reader Unit := do
  opt p
  many (do mark ","; opt p)

/-- Reads a part and then more of them behind commas. -/
def commas1 (p : Reader Unit) : Reader Unit := do
  p
  many (do mark ","; opt p)

/-- Reads to a node of a kind. -/
def spanned (kind : String) (p : Reader Unit) : Reader SyntaxTree := fun c =>
  (p c).map fun (_, d) => (.node kind c.start d.stop true none [], d)

/-- A node in a role. -/
def inField (role : String) : SyntaxTree → SyntaxTree
  | .node kind start stop named _ children => .node kind start stop named (some role) children

@[simp] theorem iterate_of_none {α : Type} {step : α → Reader α} {a : α} {c : Cursor}
    (h : step a c = none) : iterate step a c = some (a, c) := by
  rw [iterate, h]

end TypeAtlas.TypeScript
