/-! # Cursors

A place in a text that is being read: what is still to come, and the line and column that indentation
rules speak about. Line breaks of the text are unified before, so no carriage return occurs. Main
definitions:

* `Cursor.next`, `Cursor.skip`, `Cursor.skipWhile`: going on.
* `isBreak`, `isGap`: line breaks, and what can follow an indicator; the end of the text counts too
  where it says so. -/

namespace TypeAtlas.Yaml

/-- Whether a line ends with this character. -/
def isBreak (c : Char) : Bool :=
  c == '\n' || c == '\u0085' || c == '\u2028' || c == '\u2029'

/-- Whether nothing, a space, or a line break comes. -/
def isSpaceOrEnd : Option Char → Bool
  | none => true
  | some c => c == ' ' || isBreak c

/-- Whether nothing, a space, a tab, or a line break comes. -/
def isGap : Option Char → Bool
  | some '\t' => true
  | c => isSpaceOrEnd c

/-- Whether nothing or a line break comes. -/
def isLineEnd : Option Char → Bool
  | none => true
  | some c => isBreak c

/-- Whether a name of an anchor, a directive or a tag handle can hold this character. -/
def isNameChar (c : Char) : Bool := c.isAlphanum || c == '-' || c == '_'

/-- A place in a text. -/
structure Cursor where
  /-- What is still to come. -/
  rest : List Char
  /-- How many characters came before. -/
  index : Nat
  /-- How many lines came before. -/
  line : Nat
  /-- How many characters of the line came before; byte order marks do not count. -/
  column : Nat
  deriving Repr

namespace Cursor

/-- The start of a text. -/
def start (text : List Char) : Cursor := ⟨text, 0, 0, 0⟩

/-- The character that comes. -/
def peek (c : Cursor) : Option Char := c.rest.head?

/-- The character after `n` others. -/
def peekAt (c : Cursor) (n : Nat) : Option Char := c.rest[n]?

/-- Behind the next character. -/
def next (c : Cursor) : Cursor :=
  match c.rest with
  | [] => c
  | ch :: r =>
    if isBreak ch then ⟨r, c.index + 1, c.line + 1, 0⟩
    else ⟨r, c.index + 1, c.line, if ch = '\ufeff' then c.column else c.column + 1⟩

/-- Behind the next `n` characters. -/
def skip (c : Cursor) : Nat → Cursor
  | 0 => c
  | n + 1 => skip c.next n

/-- The characters that come and satisfy `p`. -/
def run (c : Cursor) (p : Char → Bool) : List Char := c.rest.takeWhile p

/-- Behind the characters that satisfy `p`. -/
def skipWhile (c : Cursor) (p : Char → Bool) : Cursor := c.skip (c.run p).length

/-- Behind spaces. -/
def skipSpaces (c : Cursor) : Cursor := c.skipWhile (· == ' ')

/-- At the end of the line. -/
def skipLine (c : Cursor) : Cursor := c.skipWhile fun ch => !isBreak ch

/-- Behind a comment, if one comes: it ends with the line. -/
def skipComment (c : Cursor) : Cursor := if c.peek = some '#' then c.skipLine else c

/-- The line break that comes, as it counts in a text, and the place behind it. -/
def lineBreak? (c : Cursor) : Option (Char × Cursor) :=
  match c.peek with
  | some ch =>
    if isBreak ch then some (if ch = '\u0085' then '\n' else ch, c.next) else none
  | none => none

/-- Whether three given characters come, and a gap behind them. -/
def atMarker (c : Cursor) (ch : Char) : Bool :=
  c.rest.take 3 == [ch, ch, ch] && isGap (c.peekAt 3)

/-- Whether a document ends or starts here, if it is the start of a line. -/
def atSeparator (c : Cursor) : Bool := c.atMarker '-' || c.atMarker '.'

end Cursor

end TypeAtlas.Yaml
