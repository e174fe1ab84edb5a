import TypeAtlas.Text.Utf8

/-! # Lexemes of TypeScript source text

For each kind of lexeme, the number of characters of a text that belong to the lexeme at its front;
zero if the text starts with no lexeme of that kind. Main definitions:

* `nameLength`, `numberLength`, `stringLength`, `regexLength`: names and literals.
* `chunkLength`: the plain text of a template.
* `commentLength`, `markupCommentLength`: comments.
* `skipTrivia`: a text from its first character that is neither white space nor in a comment. -/

namespace TypeAtlas.TypeScript.Lexeme

/-- The ranges of the characters that are white space between lexemes. -/
def spaces : List (Nat × Nat) :=
  [(9, 13), (0x20, 0x20), (0xA0, 0xA0), (0x1680, 0x1680), (0x2000, 0x200B), (0x2028, 0x2029),
   (0x202F, 0x202F), (0x205F, 0x2060), (0x3000, 0x3000), (0xFEFF, 0xFEFF)]

/-- Whether a character is white space between lexemes. -/
def isSpace (c : Char) : Bool := spaces.any fun (first, last) => first ≤ c.toNat && c.toNat ≤ last

/-- Whether a character ends the line of a comment. -/
def isLineBreak (c : Char) : Bool :=
  c == '\n' || c == '\r' || c == '\u2028' || c == '\u2029'

/-- The characters that are punctuation and so belong to no name. -/
def punctuation : List Char :=
  [':', ';', '\x60', '"', '\x27', '@', '#', '.', ',', '|', '^', '&', '<', '=', '>', '+', '-', '*', '/',
   '\\', '%', '?', '!', '~', '(', ')', '[', ']', '\x7b', '\x7d']

/-- Whether a character may stand inside a name. -/
def isNameChar (c : Char) : Bool := 32 ≤ c.toNat && !isSpace c && !punctuation.contains c

/-- Whether a character may start a name. -/
def isNameStart (c : Char) : Bool := isNameChar c && !c.isDigit

/-- Whether a character is a hexadecimal digit. -/
def isHexDigit (c : Char) : Bool :=
  c.isDigit || ('a' ≤ c && c ≤ 'f') || ('A' ≤ c && c ≤ 'F')

/-- The length of a character that a name spells by its number. -/
def escapeLength : List Char → Nat
  | '\\' :: 'u' :: '\x7b' :: r =>
    let n := (r.takeWhile isHexDigit).length
    if 0 < n && (r.drop n).head? == some '\x7d' then n + 4 else 0
  | '\\' :: 'u' :: r =>
    if (r.take 4).length == 4 && (r.take 4).all isHexDigit then 6 else 0
  | _ => 0

/-- The length of what continues a name. -/
def nameTail (s : List Char) : Nat :=
  match s with
  | [] => 0
  | c :: r =>
    if isNameChar c then nameTail r + 1
    else
      let n := escapeLength (c :: r)
      if n = 0 then 0 else nameTail (r.drop (n - 1)) + n
termination_by s.length
decreasing_by all_goals simp only [List.length_cons, List.length_drop]; omega

/-- The length of a name. -/
def nameLength : List Char → Nat
  | [] => 0
  | c :: r => if isNameStart c || 0 < escapeLength (c :: r) then nameTail (c :: r) else 0

/-- The length of a name behind a number sign. -/
def privateNameLength : List Char → Nat
  | '#' :: r => if 0 < nameLength r then nameLength r + 1 else 0
  | _ => 0

/-- The length of digits, with low lines between them. -/
def digitsLength (isDigit : Char → Bool) (s : List Char) : Nat :=
  (s.takeWhile fun c => isDigit c || c == '_').length

/-- The length of the exponent of a number. -/
def exponentLength : List Char → Nat
  | e :: r =>
    if e == 'e' || e == 'E' then
      let sign := if r.head? == some '+' || r.head? == some '-' then 1 else 0
      if ((r.drop sign).head?.map Char.isDigit).getD false then
        1 + sign + digitsLength Char.isDigit (r.drop sign)
      else 0
    else 0
  | [] => 0

/-- The length of the mark of a big number. -/
def bigMarkLength (s : List Char) : Nat := if s.head? == some 'n' then 1 else 0

/-- The length of a decimal number, from its first digit or its point. -/
def decimalLength (s : List Char) : Nat :=
  let whole := digitsLength Char.isDigit s
  match s.drop whole with
  | '.' :: r =>
    let part := digitsLength Char.isDigit r
    whole + 1 + part + exponentLength (r.drop part)
  | r => whole + max (exponentLength r) (bigMarkLength r)

/-- The length of a number. -/
def numberLength : List Char → Nat
  | '0' :: x :: r =>
    let digits : Option (Char → Bool) :=
      if x == 'x' || x == 'X' then some isHexDigit
      else if x == 'b' || x == 'B' || x == 'o' || x == 'O' then some Char.isDigit
      else none
    match digits with
    | some isDigit =>
      let n := digitsLength isDigit r
      2 + n + bigMarkLength (r.drop n)
    | none => decimalLength ('0' :: x :: r)
  | '.' :: d :: r => if d.isDigit then decimalLength ('.' :: d :: r) else 0
  | d :: r => if d.isDigit then decimalLength (d :: r) else 0
  | [] => 0

/-- The length of what is left of a string, its closing quote included. -/
def quotedLength (quote : Char) : List Char → Nat
  | [] => 0
  | '\\' :: _ :: r => quotedLength quote r + 2
  | c :: r => if c == quote then 1 else quotedLength quote r + 1

/-- The length of a string. -/
def stringLength : List Char → Nat
  | c :: r => if c == '"' || c == '\x27' then quotedLength c r + 1 else 0
  | [] => 0

/-- The length of what is left of the pattern of a regular expression, its closing slash included;
none if the line ends first. Inside square brackets a slash is plain. -/
def patternLength? (bracketed : Bool) : List Char → Option Nat
  | [] => none
  | '\\' :: c :: r => if c == '\n' then none else (patternLength? bracketed r).map (· + 2)
  | c :: r =>
    if c == '\n' then none
    else if c == '/' && !bracketed then some 1
    else (patternLength? ((bracketed || c == '[') && c != ']') r).map (· + 1)

/-- The length of a regular expression, its flags included. -/
def regexLength : List Char → Nat
  | '/' :: r =>
    match patternLength? false r with
    | none => 0
    | some n => 1 + n + ((r.drop n).takeWhile Char.isLower).length
  | _ => 0

/-- The length of the text of a template up to the next substitution or the closing mark. -/
def chunkLength : List Char → Nat
  | [] => 0
  | '\\' :: _ :: r => chunkLength r + 2
  | '$' :: '\x7b' :: _ => 0
  | c :: r => if c == '\x60' then 0 else chunkLength r + 1

/-- The length of what is left of a block comment, its closing mark included; none if that is
missing. -/
def blockLength? : List Char → Option Nat
  | [] => none
  | '*' :: '/' :: _ => some 2
  | _ :: r => (blockLength? r).map (· + 1)

/-- The length of what is left of a line. -/
def lineLength (s : List Char) : Nat := (s.takeWhile fun c => !isLineBreak c).length

/-- The length of a comment. -/
def commentLength : List Char → Nat
  | '/' :: '/' :: r => lineLength r + 2
  | '/' :: '*' :: r => ((blockLength? r).map (· + 2)).getD 0
  | _ => 0

/-- The length of a line that is a comment in markup. -/
def markupCommentLength (s : List Char) : Nat :=
  if "<!--".toList.isPrefixOf s || "-->".toList.isPrefixOf s then
    (s.takeWhile fun c => c != '\n' && c != '\u2028' && c != '\u2029').length
  else 0

/-- The number of bytes of a text. -/
def byteLength (s : List Char) : Nat := s.foldr (fun c n => c.utf8Size + n) 0

/-- A text from its first character that is neither white space nor in a comment, and the byte of
that character, when the text starts at byte `offset`. -/
def skipTrivia (offset : Nat) (s : List Char) : Nat × List Char :=
  match s with
  | [] => (offset, [])
  | c :: r =>
    if isSpace c then skipTrivia (offset + c.utf8Size) r
    else
      let n := commentLength (c :: r)
      if n = 0 then (offset, c :: r)
      else skipTrivia (offset + byteLength ((c :: r).take n)) (r.drop (n - 1))
termination_by s.length
decreasing_by all_goals simp only [List.length_cons, List.length_drop]; omega

/-- The ranges of the comments at the front of a text that starts at byte `offset`, white space
between them aside. -/
def commentRanges (offset : Nat) (s : List Char) : List (Nat × Nat) :=
  match s with
  | [] => []
  | c :: r =>
    if isSpace c then commentRanges (offset + c.utf8Size) r
    else
      let n := commentLength (c :: r)
      let stop := offset + byteLength ((c :: r).take n)
      if n = 0 then [] else (offset, stop) :: commentRanges stop (r.drop (n - 1))
termination_by s.length
decreasing_by all_goals simp only [List.length_cons, List.length_drop]; omega

@[simp] theorem skipTrivia_nil (offset : Nat) : skipTrivia offset [] = (offset, []) := by
  rw [skipTrivia]

@[simp] theorem commentRanges_nil (offset : Nat) : commentRanges offset [] = [] := by
  rw [commentRanges]

end TypeAtlas.TypeScript.Lexeme
