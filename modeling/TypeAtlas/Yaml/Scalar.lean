import TypeAtlas.Yaml.Cursor
import TypeAtlas.Yaml.Fault

/-! # Scalar texts

The four ways to write a scalar, each read from a cursor to its text and the place behind it. Main
definitions:

* `readQuoted`: between single or double quotes; lines are folded.
* `readPlain`: without quotes; ends at a comment, at a colon before a gap, at a line with too little
  indentation, and in a flow collection at its indicators.
* `readBlock`: the indented lines after a header, kept or folded. -/

namespace TypeAtlas.Yaml

/-- Folding of a line break and the breaks after it: a single line feed is a space, and of several
the first is left out. -/
def fold (first : Char) (others : List Char) : List Char :=
  if first ≠ '\n' then first :: others
  else if others.isEmpty then [' '] else others

/-- The line breaks in front of a continuation line of a quoted scalar; no document may end or start
in between. -/
def quotedBreaks : Nat → Cursor → Except Fault (List Char × Cursor)
  | 0, c => .ok ([], c)
  | fuel + 1, c =>
    if c.atSeparator then .error .malformed
    else
      let c := c.skipWhile fun ch => ch == ' ' || ch == '\t'
      match c.lineBreak? with
      | none => .ok ([], c)
      | some (b, c) => do
        let (bs, c) ← quotedBreaks fuel c
        return (b :: bs, c)

/-- The character of a one-letter escape. -/
def escape? : Char → Option Char
  | '0' => some '\x00'
  | 'a' => some '\x07'
  | 'b' => some '\x08'
  | 't' => some '\t'
  | '\t' => some '\t'
  | 'n' => some '\n'
  | 'v' => some '\x0b'
  | 'f' => some '\x0c'
  | 'r' => some '\r'
  | 'e' => some '\x1b'
  | ' ' => some ' '
  | '"' => some '"'
  | '\\' => some '\\'
  | '/' => some '/'
  | 'N' => some '\u0085'
  | '_' => some '\u00a0'
  | 'L' => some '\u2028'
  | 'P' => some '\u2029'
  | _ => none

/-- How many hexadecimal digits a numeric escape has. -/
def escapeWidth? : Char → Option Nat
  | 'x' => some 2
  | 'u' => some 4
  | 'U' => some 8
  | _ => none

/-- The value of a hexadecimal digit. -/
def hexValue? (c : Char) : Option Nat :=
  if c.isDigit then some (c.toNat - 48)
  else if 'a' ≤ c && c ≤ 'f' then some (c.toNat - 87)
  else if 'A' ≤ c && c ≤ 'F' then some (c.toNat - 55)
  else none

/-- The number that exactly `width` hexadecimal digits write. -/
def hexNumber? (width : Nat) (cs : List Char) : Option Nat :=
  let ds := cs.take width
  if ds.length < width then none
  else ds.foldlM (fun n c => (hexValue? c).map (n * 16 + ·)) 0

/-- The character of a code. Half of a pair has a code and can be in no text here, so it is refused. -/
def charOfCode (code : Nat) : Except Fault Char :=
  if 0x10FFFF < code then .error (.charCode code)
  else if 0xD800 ≤ code && code ≤ 0xDFFF then .error (.halfPair code)
  else .ok (Char.ofNat code)

/-- The rest of an escape, behind its backslash. -/
def readEscape (c : Cursor) : Except Fault (List Char × Cursor) :=
  match c.peek with
  | none => .error .malformed
  | some ch =>
    match escape? ch, escapeWidth? ch with
    | some r, _ => .ok ([r], c.next)
    | none, some width =>
      match hexNumber? width c.next.rest with
      | none => .error .malformed
      | some code => do return ([← charOfCode code], c.next.skip width)
    | none, none =>
      if isBreak ch then quotedBreaks (c.rest.length + 1) c.next else .error .malformed

/-- What stands between spaces in a quoted scalar. -/
def quotedWord (double : Bool) : Nat → Cursor → Except Fault (List Char × Cursor)
  | 0, c => .ok ([], c)
  | fuel + 1, c => do
    let plain ch :=
      !(ch == '\x27' || ch == '"' || ch == '\\' || ch == ' ' || ch == '\t' || isBreak ch)
    let word := c.run plain
    let c := c.skipWhile plain
    let more (piece : List Char) (c : Cursor) : Except Fault (List Char × Cursor) := do
      let (others, c) ← quotedWord double fuel c
      return (word ++ piece ++ others, c)
    match c.peek with
    | some '\x27' =>
      if double then more ['\x27'] c.next
      else if c.peekAt 1 = some '\x27' then more ['\x27'] (c.skip 2)
      else return (word, c)
    | some '"' => if double then return (word, c) else more ['"'] c.next
    | some '\\' =>
      if double then
        let (piece, c) ← readEscape c.next
        more piece c
      else more ['\\'] c.next
    | _ => return (word, c)

/-- Spaces in a quoted scalar: kept inside of a line, and folded around its end. -/
def quotedSpaces (c : Cursor) : Except Fault (List Char × Cursor) :=
  let blank ch := ch == ' ' || ch == '\t'
  let spaces := c.run blank
  let c := c.skipWhile blank
  if c.rest.isEmpty then .error .malformed
  else
    match c.lineBreak? with
    | none => .ok (spaces, c)
    | some (b, c) => do
      let (bs, c) ← quotedBreaks (c.rest.length + 1) c
      return (fold b bs, c)

/-- The words and spaces of a quoted scalar up to the closing quote. -/
def quotedRest (double : Bool) : Nat → Cursor → Except Fault (List Char × Cursor)
  | 0, _ => .error .malformed
  | fuel + 1, c => do
    let (word, c) ← quotedWord double (c.rest.length + 1) c
    if c.peek = some (if double then '"' else '\x27') then return (word, c.next)
    let (spaces, c) ← quotedSpaces c
    let (others, c) ← quotedRest double fuel c
    return (word ++ spaces ++ others, c)

/-- A scalar between quotes, from the opening quote on. -/
def readQuoted (double : Bool) (c : Cursor) : Except Fault (List Char × Cursor) :=
  quotedRest double (c.rest.length + 1) c.next

/-- The line breaks and spaces in front of a continuation line of a plain scalar; nothing if a
document ends or starts there. -/
def plainBreaks : Nat → Cursor → Option (List Char) × Cursor
  | 0, c => (some [], c)
  | fuel + 1, c =>
    let c := c.skipSpaces
    match c.lineBreak? with
    | none => (some [], c)
    | some (b, c) =>
      if c.atSeparator then (none, c)
      else
        let (bs, c) := plainBreaks fuel c
        (bs.map (b :: ·), c)

/-- What comes after a word of a plain scalar: the text that joins it to the next word, empty if there
is none, whether a line ended, and the place. -/
def plainSpaces (c : Cursor) : List Char × Bool × Cursor :=
  let spaces := c.run (· == ' ')
  let c := c.skipSpaces
  match c.lineBreak? with
  | none => (spaces, false, c)
  | some (b, c) =>
    if c.atSeparator then ([], true, c)
    else
      let (bs, c) := plainBreaks (c.rest.length + 1) c
      (match bs with
      | none => []
      | some bs => fold b bs, true, c)

/-- Whether a plain scalar pauses or ends before the given characters. -/
def plainStops (flow : Bool) : List Char → Bool
  | [] => true
  | ':' :: r => isGap r.head? || (flow && (r.head?.any fun c => ",[]\x7b\x7d".toList.contains c))
  | c :: _ => isGap (some c) || (flow && ",?[]\x7b\x7d".toList.contains c)

/-- The length of the word that comes in a plain scalar. -/
def plainLength (flow : Bool) : List Char → Nat
  | [] => 0
  | c :: r => if plainStops flow (c :: r) then 0 else plainLength flow r + 1

/-- The words of a plain scalar, joined, whether the last thing read was the end of a line, and the
place. -/
def plainWords (flow : Bool) (indent : Nat) (joint : List Char) (ended : Bool) :
    Nat → Cursor → List Char × Bool × Cursor
  | 0, c => ([], ended, c)
  | fuel + 1, c =>
    let length := if c.peek = some '#' then 0 else plainLength flow c.rest
    if length = 0 then ([], ended, c)
    else
      let word := joint ++ c.rest.take length
      let (spaces, ended, c) := plainSpaces (c.skip length)
      if spaces.isEmpty || c.peek = some '#' || (!flow && c.column < indent) then (word, ended, c)
      else
        let (others, ended, c) := plainWords flow indent spaces ended fuel c
        (word ++ others, ended, c)

/-- A plain scalar whose continuation lines are indented by `indent` at least; with it, whether a
line ended behind its last word. -/
def readPlain (flow : Bool) (indent : Nat) (c : Cursor) : List Char × Bool × Cursor :=
  plainWords flow indent [] false (c.rest.length + 1) c

/-- What happens to the line breaks at the end of a block scalar. -/
inductive Chomping where
  /-- One is kept. -/
  | clip
  /-- None is kept. -/
  | strip
  /-- All are kept. -/
  | keep
  deriving DecidableEq, Repr

/-- The chomping that a sign asks for. -/
def chomping? : Option Char → Option Chomping
  | some '+' => some .keep
  | some '-' => some .strip
  | _ => none

/-- The digit that comes. -/
def digit? : Option Char → Option Nat
  | some c => if c.isDigit then some (c.toNat - 48) else none
  | none => none

/-- The header of a block scalar behind its first character: chomping and indentation in either
order, each or both left out, then nothing but a comment up to the end of the line. -/
def blockHeader (c : Cursor) : Except Fault (Chomping × Option Nat × Cursor) := do
  let (chomp, increment, c) :=
    match chomping? c.peek with
    | some chomp =>
      match digit? c.next.peek with
      | some n => (chomp, some n, c.skip 2)
      | none => (chomp, none, c.next)
    | none =>
      match digit? c.peek with
      | some n =>
        match chomping? c.next.peek with
        | some chomp => (chomp, some n, c.skip 2)
        | none => (.clip, some n, c.next)
      | none => (.clip, none, c)
  if increment = some 0 || !isSpaceOrEnd c.peek then throw .malformed
  let c := c.skipSpaces.skipComment
  if !isLineEnd c.peek then throw .malformed
  return (chomp, increment, c.next)

/-- The blank lines before a block scalar: their breaks, the place, and the widest column seen. -/
def blockLead (widest : Nat) : Nat → Cursor → List Char × Nat × Cursor
  | 0, c => ([], widest, c)
  | fuel + 1, c =>
    let c := c.skipSpaces
    let widest := max widest c.column
    match c.lineBreak? with
    | none => ([], widest, c)
    | some (b, c) =>
      let (bs, widest, c) := blockLead widest fuel c
      (b :: bs, widest, c)

/-- Behind spaces up to a column. -/
def indentTo (indent : Nat) (c : Cursor) : Cursor :=
  c.skip (min (indent - c.column) (c.run (· == ' ')).length)

/-- The blank lines inside of a block scalar, and the place at its indentation or before. -/
def blockBreaks (indent : Nat) : Nat → Cursor → List Char × Cursor
  | 0, c => ([], c)
  | fuel + 1, c =>
    let c := indentTo indent c
    match c.lineBreak? with
    | none => ([], c)
    | some (b, c) =>
      let (bs, c) := blockBreaks indent fuel c
      (b :: bs, c)

/-- Whether a line starts with a space or a tab. -/
def startsBlank (c : Cursor) : Bool := c.peek = some ' ' || c.peek = some '\t'

/-- The lines of a block scalar after some blank lines: their text, the last line break, the blank
lines at the end, and the place. -/
def blockLines (folded : Bool) (indent : Nat) (breaks : List Char) :
    Nat → Cursor → List Char × List Char × List Char × Cursor
  | 0, c => ([], [], breaks, c)
  | fuel + 1, c =>
    if c.column ≠ indent || c.rest.isEmpty then ([], [], breaks, c)
    else
      let line := breaks ++ c.run fun ch => !isBreak ch
      let indented := startsBlank c
      let c := c.skipLine
      let (last, c) :=
        match c.lineBreak? with
        | some (b, c) => ([b], c)
        | none => ([], c)
      let (breaks, c) := blockBreaks indent (c.rest.length + 1) c
      if c.column ≠ indent || c.rest.isEmpty then (line, last, breaks, c)
      else
        let joint :=
          if folded && last = ['\n'] && !indented && !startsBlank c then
            if breaks.isEmpty then [' '] else []
          else last
        let (others, last, breaks, c) := blockLines folded indent breaks fuel c
        (line ++ joint ++ others, last, breaks, c)

/-- A block scalar inside of a block that is indented by less than `least`, from its indicator on. -/
def readBlock (folded : Bool) (least : Nat) (c : Cursor) : Except Fault (List Char × Cursor) := do
  let (chomp, increment, c) ← blockHeader c.next
  let fuel := c.rest.length + 1
  let least := max 1 least
  let (indent, breaks, c) :=
    match increment with
    | none =>
      let (breaks, widest, c) := blockLead 0 fuel c
      (max least widest, breaks, c)
    | some n =>
      let (breaks, c) := blockBreaks (least + n - 1) fuel c
      (least + n - 1, breaks, c)
  let (text, last, breaks, c) := blockLines folded indent breaks fuel c
  return (text ++ (if chomp = .strip then [] else last) ++ (if chomp = .keep then breaks else []), c)

end TypeAtlas.Yaml
