import TypeAtlas.Text.Printable

/-! # Quoted text

Messages show a text in quotes. The quote is single, unless the text holds a single quote and no
double one. The reverse solidus and the chosen quote are escaped, line feed, carriage return and tab
have short escapes, any other character that is not printable is written by its code in two, four or
eight hexadecimal digits. Main definitions:

* `quoted`: one text in quotes.
* `quotedList`: texts in quotes, in brackets, with commas between. -/

namespace TypeAtlas.Text

/-- The digits of `n` in base sixteen, at least `width` of them. -/
def hexDigits (width n : Nat) : List Char :=
  let ds := Nat.toDigits 16 n
  List.replicate (width - ds.length) '0' ++ ds

/-- A code in the shortest of the three escape forms that holds it. -/
def escapeCode (n : Nat) : List Char :=
  if n < 0x100 then '\\' :: 'x' :: hexDigits 2 n
  else if n < 0x10000 then '\\' :: 'u' :: hexDigits 4 n
  else '\\' :: 'U' :: hexDigits 8 n

/-- One character inside quotes of the kind `quote`. -/
def escapeChar (quote c : Char) : List Char :=
  if c = quote || c = '\\' then ['\\', c]
  else if c = '\n' then ['\\', 'n']
  else if c = '\r' then ['\\', 'r']
  else if c = '\t' then ['\\', 't']
  else if isPrintable c then [c]
  else escapeCode c.toNat

/-- The quote for a text: double only if that avoids an escape. -/
def quoteFor (s : List Char) : Char :=
  if s.contains '\'' && !s.contains '"' then '"' else '\''

/-- A text in quotes. -/
def quoted (s : String) : String :=
  let q := quoteFor s.toList
  String.ofList (q :: s.toList.flatMap (escapeChar q) ++ [q])

/-- Texts in quotes, in brackets. -/
def quotedList (ss : List String) : String :=
  "[" ++ String.intercalate ", " (ss.map quoted) ++ "]"

end TypeAtlas.Text
