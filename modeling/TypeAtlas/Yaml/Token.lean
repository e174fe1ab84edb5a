import TypeAtlas.Number.Decimal
import TypeAtlas.Text.Utf8
import TypeAtlas.Yaml.Scalar

/-! # Tokens

A text as a list of tokens, with block structure made explicit by tokens that open and close
collections. Whether a scalar is a key shows only at the colon behind it, so its key token is put in
front of it later. Main definitions:

* `Token`: the tokens.
* `PossibleKey`: a place where a key may have started. A key stays on one line and is at most 1024
  characters long; one that starts a line of the enclosing block has to be a key.
* `Scan`, `Scan.step`: the state between two tokens, and the next token.
* `Scan.settled`: the tokens that no key token can come in front of any more.
* `tokenize`: all tokens, and why they end early if they do. -/

namespace TypeAtlas.Yaml

/-- A token. -/
inductive Token where
  /-- A version directive with the major number. -/
  | version (major : Nat)
  /-- A directive that gives a short form for tags. -/
  | tagHandle (handle start : String)
  /-- Any other directive. -/
  | directive
  /-- A document starts. -/
  | documentStart
  /-- A document ends. -/
  | documentEnd
  /-- The text ends. -/
  | streamEnd
  /-- A block sequence starts. -/
  | blockSequence
  /-- A block mapping starts. -/
  | blockMapping
  /-- A block collection ends. -/
  | blockEnd
  /-- A flow sequence starts. -/
  | flowSequence
  /-- A flow sequence ends. -/
  | flowSequenceEnd
  /-- A flow mapping starts. -/
  | flowMapping
  /-- A flow mapping ends. -/
  | flowMappingEnd
  /-- An entry of a block sequence starts. -/
  | blockEntry
  /-- An entry of a flow collection ends. -/
  | flowEntry
  /-- A key starts. -/
  | key
  /-- A value starts. -/
  | value
  /-- A node that was named before. -/
  | aliased (name : String)
  /-- The name of the node that follows. -/
  | anchor (name : String)
  /-- The tag of the node that follows, in a short form or in full. -/
  | tag (handle : Option String) (rest : String)
  /-- A scalar, and whether it has neither quotes nor an indicator. -/
  | scalar (text : String) (plain : Bool)
  deriving DecidableEq, Repr

/-- A place where a key may have started. -/
structure PossibleKey where
  /-- How many tokens are in front of it. -/
  position : Nat
  /-- Whether a key has to be here. -/
  required : Bool
  /-- The offset. -/
  index : Nat
  /-- The line. -/
  line : Nat
  /-- The column. -/
  column : Nat

/-- The state between two tokens. -/
structure Scan where
  /-- The place in the text. -/
  cursor : Cursor
  /-- The tokens so far. -/
  tokens : Array Token
  /-- How many flow collections are open. -/
  flow : Nat
  /-- The columns of the open block collections, innermost first. -/
  indents : List Nat
  /-- Whether a key may start here. -/
  keyAllowed : Bool
  /-- The places where a key may have started, by the number of flow collections open there. -/
  keys : List (Nat × PossibleKey)

namespace Scan

/-- The state at the start of a text. -/
def start (text : List Char) : Scan := ⟨Cursor.start text, #[], 0, [], true, []⟩

/-- The state after one more token. -/
def push (s : Scan) (t : Token) : Scan := { s with tokens := s.tokens.push t }

/-- The state with a token in front of the token at a position. -/
def insertAt (s : Scan) (position : Nat) (t : Token) : Scan :=
  { s with tokens := (s.tokens.extract 0 position).push t ++ s.tokens.extract position }

/-- The state further on in the text. -/
def moveTo (s : Scan) (c : Cursor) : Scan := { s with cursor := c }

/-- The least indentation of what belongs to the innermost block collection. -/
def contentIndent (s : Scan) : Nat :=
  match s.indents with
  | [] => 0
  | n :: _ => n + 1

/-- Comments, spaces and line breaks skipped; a key may start on a new line of a block. -/
def skipBlank : Nat → Scan → Scan
  | 0, s => s
  | fuel + 1, s =>
    let c := s.cursor.skipSpaces.skipComment
    match c.lineBreak? with
    | none => s.moveTo c
    | some (_, c) => skipBlank fuel { s with cursor := c, keyAllowed := s.keyAllowed || s.flow = 0 }

/-- The state at the next token. A byte order mark may start the text. -/
def toNextToken (s : Scan) : Scan :=
  let c := s.cursor
  let c := if c.index = 0 && c.peek = some '\ufeff' then c.next else c
  skipBlank (c.rest.length + 1) (s.moveTo c)

/-- The state without the places that can no longer be keys; one that has to be a key must not be
among them. -/
def dropStaleKeys (s : Scan) : Except Fault Scan :=
  let stale (k : PossibleKey) : Bool :=
    k.line ≠ s.cursor.line || s.cursor.index - k.index > 1024
  if s.keys.any fun p => stale p.2 && p.2.required then .error .malformed
  else .ok { s with keys := s.keys.filter fun p => !stale p.2 }

/-- The possible key among the tokens of the innermost open flow collection. -/
def possibleKey? (s : Scan) : Option PossibleKey := (s.keys.find? fun p => p.1 = s.flow).map (·.2)

/-- The state without that possible key. -/
def forgetKey (s : Scan) : Scan := { s with keys := s.keys.filter fun p => p.1 ≠ s.flow }

/-- The state without that possible key, which must not have to be one. -/
def giveUpKey (s : Scan) : Except Fault Scan :=
  if s.possibleKey?.any (·.required) then .error .malformed else .ok s.forgetKey

/-- The state with the next token noted as a possible key. -/
def noteKey (s : Scan) : Except Fault Scan :=
  if s.keyAllowed then do
    let s ← s.giveUpKey
    let c := s.cursor
    let k : PossibleKey :=
      ⟨s.tokens.size, s.flow = 0 && s.indents.head? = some c.column, c.index, c.line, c.column⟩
    return { s with keys := (s.flow, k) :: s.keys }
  else .ok s

/-- The state with all block collections closed for which `p` holds, innermost first. -/
def closeBlocks (p : Nat → Bool) (s : Scan) : Scan :=
  let closed := s.indents.takeWhile p
  { s with
    tokens := s.tokens ++ (closed.map fun _ => Token.blockEnd).toArray
    indents := s.indents.drop closed.length }

/-- The state with the block collections closed that are indented more than the next token. -/
def unindent (s : Scan) : Scan :=
  if s.flow = 0 then s.closeBlocks fun n => s.cursor.column < n else s

/-- The state with all block collections closed, as at the end of a document. -/
def closeAll (s : Scan) : Scan := if s.flow = 0 then s.closeBlocks fun _ => true else s

/-- Whether a column is inside of the innermost block collection. -/
def deeper (s : Scan) (column : Nat) : Bool := s.indents.head?.all fun n => n < column

/-- The state with a block collection opened at the next token, if that is indented more. -/
def openBlock (s : Scan) (t : Token) : Scan :=
  if s.deeper s.cursor.column then
    { s.push t with indents := s.cursor.column :: s.indents }
  else s

/-- The state behind an indicator of `n` characters. -/
def indicator (s : Scan) (t : Token) (n : Nat) : Scan := (s.moveTo (s.cursor.skip n)).push t

/-- The marker between documents. -/
def marker (s : Scan) (t : Token) : Except Fault Scan := do
  let s ← s.closeAll.giveUpKey
  return { s with keyAllowed := false }.indicator t 3

/-- The start of a flow collection. -/
def flowStart (s : Scan) (t : Token) : Except Fault Scan := do
  let s ← s.noteKey
  return { s with flow := s.flow + 1, keyAllowed := true }.indicator t 1

/-- The end of a flow collection; outside of any, it is for the reader of nodes to refuse. -/
def flowStop (s : Scan) (t : Token) : Except Fault Scan := do
  let s ← s.giveUpKey
  return { s with flow := s.flow - 1, keyAllowed := false }.indicator t 1

/-- The end of an entry of a flow collection. -/
def flowNext (s : Scan) : Except Fault Scan := do
  let s ← s.giveUpKey
  return { s with keyAllowed := true }.indicator .flowEntry 1

/-- An entry of a block sequence. -/
def entry (s : Scan) : Except Fault Scan := do
  if s.flow = 0 && !s.keyAllowed then throw .malformed
  let s := if s.flow = 0 then s.openBlock .blockSequence else s
  let s ← s.giveUpKey
  return { s with keyAllowed := true }.indicator .blockEntry 1

/-- An explicit key. -/
def explicitKey (s : Scan) : Except Fault Scan := do
  if s.flow = 0 && !s.keyAllowed then throw .malformed
  let s := if s.flow = 0 then s.openBlock .blockMapping else s
  let s ← s.giveUpKey
  return { s with keyAllowed := s.flow = 0 }.indicator .key 1

/-- A value: what may have been a key in front of it is one. -/
def valueOf (s : Scan) : Except Fault Scan := do
  match s.possibleKey? with
  | some k =>
    let s := s.forgetKey.insertAt k.position .key
    let s :=
      if s.flow = 0 && s.deeper k.column then
        { s.insertAt k.position .blockMapping with indents := k.column :: s.indents }
      else s
    return { s with keyAllowed := false }.indicator .value 1
  | none =>
    if s.flow = 0 && !s.keyAllowed then throw .malformed
    let s := if s.flow = 0 then s.openBlock .blockMapping else s
    let s ← s.giveUpKey
    return { s with keyAllowed := s.flow = 0 }.indicator .value 1

/-- The state behind a token that may start a key, read by `read`. -/
def content (s : Scan) (read : Cursor → Except Fault (Token × Cursor)) : Except Fault Scan := do
  let s ← s.noteKey
  let (t, c) ← read s.cursor
  return { s with cursor := c, keyAllowed := false }.push t

/-- A name behind an indicator, and the place behind it. -/
def nameAfter (c : Cursor) : Except Fault (String × Cursor) :=
  let name := c.next.run isNameChar
  let c := c.next.skip name.length
  let stops :=
    isGap c.peek || (c.peek.any fun ch => "?:,]\x7d%@\x60".toList.contains ch)
  if name.isEmpty || !stops then .error .malformed else .ok (String.ofList name, c)

/-- Bytes written with percent signs. -/
def percentBytes : Nat → Cursor → Except Fault (List UInt8 × Cursor)
  | 0, c => .ok ([], c)
  | fuel + 1, c =>
    if c.peek = some '%' then
      match hexNumber? 2 c.next.rest with
      | none => .error .malformed
      | some n => do
        let (bs, c) ← percentBytes fuel (c.next.skip 2)
        return (n.toUInt8 :: bs, c)
    else .ok ([], c)

/-- Whether a tag can hold this character. -/
def isTagChar (c : Char) : Bool :=
  c.isAlphanum || "-;/?:@&=+$,_.!~*\x27()[]%".toList.contains c

/-- The characters of a tag, with percent signs decoded. -/
def tagText : Nat → Cursor → Except Fault (List Char × Cursor)
  | 0, c => .ok ([], c)
  | fuel + 1, c => do
    let plain := c.run fun ch => isTagChar ch && ch ≠ '%'
    let c := c.skip plain.length
    if c.peek = some '%' then
      let (bytes, c) ← percentBytes (c.rest.length + 1) c
      match Text.Utf8.decode bytes with
      | .error _ => throw .malformed
      | .ok decoded =>
        let (others, c) ← tagText fuel c
        return (plain ++ decoded ++ others, c)
    else return (plain, c)

/-- The characters of a tag, of which there has to be one. -/
def tagRest (c : Cursor) : Except Fault (String × Cursor) := do
  let first := c.peek
  let (text, c) ← tagText (c.rest.length + 1) c
  if first.all fun ch => !isTagChar ch then throw .malformed
  return (String.ofList text, c)

/-- The short form at the start of a tag: one exclamation mark, or a name between two. -/
def tagHandleAt (c : Cursor) : Except Fault (String × Cursor) :=
  if c.peek ≠ some '!' then .error .malformed
  else if c.peekAt 1 = some ' ' then .ok ("!", c.next)
  else
    let name := c.next.run isNameChar
    let c := c.skip (name.length + 1)
    if c.peek = some '!' then .ok ("!" ++ String.ofList name ++ "!", c.next)
    else .error .malformed

/-- A tag: in full between angle brackets, alone, or in a short form. -/
def readTag (c : Cursor) : Except Fault (Token × Cursor) := do
  let (t, c) ← do
    if c.peekAt 1 = some '<' then
      let (rest, c) ← tagRest (c.skip 2)
      if c.peek ≠ some '>' then throw .malformed
      pure (Token.tag none rest, c.next)
    else if isGap (c.peekAt 1) then pure (Token.tag none "!", c.next)
    else
      let (handle, c) ←
        if (c.next.run fun ch => !isSpaceOrEnd (some ch)).contains '!' then tagHandleAt c
        else pure ("!", c.next)
      let (rest, c) ← tagRest c
      pure (Token.tag (some handle) rest, c)
  if isSpaceOrEnd c.peek then return (t, c) else throw .malformed

/-- The digits that come, of which there has to be one, and not too many. -/
def digits (c : Cursor) : Except Fault (List Char × Cursor) :=
  let ds := c.run Char.isDigit
  if ds.isEmpty then .error .malformed
  else if digitLimit < ds.length then .error (.digitsRead ds.length)
  else .ok (ds, c.skip ds.length)

/-- A directive, from its percent sign to the end of its line. -/
def readDirective (c : Cursor) : Except Fault (Token × Cursor) := do
  let name := c.next.run isNameChar
  let c := c.next.skip name.length
  if name.isEmpty || !isSpaceOrEnd c.peek then throw .malformed
  let (t, c) ← do
    if name = "YAML".toList then
      let (major, c) ← digits c.skipSpaces
      if c.peek ≠ some '.' then throw .malformed
      let (_, c) ← digits c.next
      if !isSpaceOrEnd c.peek then throw .malformed
      pure (Token.version (Decimal.natural major), c)
    else if name = "TAG".toList then
      let (handle, c) ← tagHandleAt c.skipSpaces
      if c.peek ≠ some ' ' then throw .malformed
      let (start, c) ← tagRest c.skipSpaces
      if !isSpaceOrEnd c.peek then throw .malformed
      pure (Token.tagHandle handle start, c)
    else pure (Token.directive, c.skipLine)
  let c := c.skipSpaces.skipComment
  if isLineEnd c.peek then return (t, c.next) else throw .malformed

/-- A plain scalar; if a line ended behind it, a key may start there. -/
def plain (s : Scan) : Except Fault Scan := do
  let s ← s.noteKey
  let (text, ended, c) := readPlain (s.flow ≠ 0) s.contentIndent s.cursor
  return { s with cursor := c, keyAllowed := ended }.push (.scalar (String.ofList text) true)

/-- A block scalar. -/
def block (s : Scan) (folded : Bool) : Except Fault Scan := do
  let s ← s.giveUpKey
  let (text, c) ← readBlock folded s.contentIndent s.cursor
  return { s with cursor := c, keyAllowed := true }.push (.scalar (String.ofList text) false)

/-- A scalar between quotes. -/
def quoted (s : Scan) (double : Bool) : Except Fault Scan :=
  s.content fun c => do
    let (text, c) ← readQuoted double c
    return (.scalar (String.ofList text) false, c)

/-- Whether a plain scalar can start with this character before that one. -/
def startsPlain (flow : Bool) (c : Char) (next : Option Char) : Bool :=
  !(isGap (some c) || "-?:,[]\x7b\x7d#&*!|>\x27\"%@\x60".toList.contains c) ||
    (!isGap next && (c == '-' || (!flow && (c == '?' || c == ':'))))

/-- The directive that comes. -/
def directive (s : Scan) : Except Fault Scan := do
  let s ← s.closeAll.giveUpKey
  let (t, c) ← readDirective s.cursor
  return { s with cursor := c, keyAllowed := false }.push t

/-- The state behind the token that starts with a given character. -/
def token (s : Scan) (ch : Char) : Except Fault Scan :=
  let next := s.cursor.peekAt 1
  let first := s.cursor.column = 0
  let flow : Bool := s.flow ≠ 0
  if ch = '%' && first then s.directive
  else if ch = '-' && first && s.cursor.atMarker '-' then s.marker .documentStart
  else if ch = '.' && first && s.cursor.atMarker '.' then s.marker .documentEnd
  else if ch = '[' then s.flowStart .flowSequence
  else if ch = '\x7b' then s.flowStart .flowMapping
  else if ch = ']' then s.flowStop .flowSequenceEnd
  else if ch = '\x7d' then s.flowStop .flowMappingEnd
  else if ch = ',' then s.flowNext
  else if ch = '-' && isGap next then s.entry
  else if ch = '?' && (flow || isGap next) then s.explicitKey
  else if ch = ':' && (flow || isGap next) then s.valueOf
  else if ch = '*' then s.content fun c => do
    let (name, c) ← nameAfter c
    return (.aliased name, c)
  else if ch = '&' then s.content fun c => do
    let (name, c) ← nameAfter c
    return (.anchor name, c)
  else if ch = '!' then s.content readTag
  else if ch = '|' && !flow then s.block false
  else if ch = '>' && !flow then s.block true
  else if ch = '\x27' then s.quoted false
  else if ch = '"' then s.quoted true
  else if startsPlain flow ch next then s.plain
  else .error .malformed

/-- The state behind the next token; nothing at the end of the text, where open blocks are closed. -/
def step (s : Scan) : Except Fault (Scan × Bool) := do
  let s ← s.toNextToken.dropStaleKeys
  let s := s.unindent
  match s.cursor.peek with
  | none =>
    let s ← s.closeAll.giveUpKey
    return (s.push .streamEnd, true)
  | some ch => return (← s.token ch, false)

/-- The tokens that can be given away: those in front of every place where a key may still have
started. -/
def settled (s : Scan) : Array Token :=
  match s.dropStaleKeys with
  | .error _ => s.tokens
  | .ok s => s.tokens.extract 0 ((s.keys.map (·.2.position)).foldl min s.tokens.size)

/-- All tokens from a state on, and why they end early. -/
def run : Nat → Scan → Array Token × Option Fault
  | 0, s => (s.tokens, some .malformed)
  | fuel + 1, s =>
    match s.step with
    | .error e => (s.settled, some e)
    | .ok (s, true) => (s.tokens, none)
    | .ok (s, false) => run fuel s

end Scan

/-- Whether a text may hold this character. -/
def isAllowed (c : Char) : Bool :=
  let n := c.toNat
  n == 9 || n == 10 || n == 13 || (0x20 ≤ n && n ≤ 0x7E) || n == 0x85 ||
    (0xA0 ≤ n && n ≤ 0xD7FF) || (0xE000 ≤ n && n ≤ 0xFFFD) || 0x10000 ≤ n

/-- The tokens of a text, and why they end early if they do. -/
def tokenize (text : List Char) : Array Token × Option Fault :=
  if text.all isAllowed then Scan.run (text.length + 2) (Scan.start text)
  else (#[], some .malformed)

end TypeAtlas.Yaml
