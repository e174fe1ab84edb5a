import TypeAtlas.Number.Decimal
import TypeAtlas.Text.Digit
import TypeAtlas.Text.Lines
import TypeAtlas.Text.Lowercase
import TypeAtlas.Yaml.Scalar

/-! # Numerals

The numbers that scalars write. A tag may ask for a number in a text that does not look like one, so
more texts are numbers than those that are taken for one without a tag: digits of all scripts, blanks
around them, and a second sign count. Main definitions:

* `whole`: a whole number in a base.
* `integer`: the whole number of a scalar, which shows its base.
* `decimal`: the decimal number of a scalar. -/

namespace TypeAtlas.Yaml

/-- The value of a digit in a base. -/
def digitIn? (base : Nat) (c : Char) : Option Nat := (hexValue? c).filter (· < base)

/-- Whether a text is negative, and what follows its sign. -/
def cutSign : List Char → Bool × List Char
  | '-' :: r => (true, r)
  | '+' :: r => (false, r)
  | r => (false, r)

/-- The letter that marks a base behind a zero. -/
def baseMark? : Nat → Option Char
  | 2 => some 'b'
  | 8 => some 'o'
  | 16 => some 'x'
  | _ => none

/-- A text behind the mark of a base, if it has one. -/
def unmarked (base : Nat) : List Char → List Char
  | '0' :: c :: r => if baseMark? base = some c.toLower then r else '0' :: c :: r
  | r => r

/-- The whole number that a text writes in a base: a sign or none, the mark of the base or none, and
digits. In base 10 the number of digits is limited, whatever comes behind them. -/
def whole (base : Nat) (s : List Char) : Except Fault Int :=
  let (negative, r) := cutSign (Text.numeral s)
  let r := unmarked base r
  let ds := ((r.map (digitIn? base)).takeWhile (·.isSome)).filterMap id
  if base = 10 && digitLimit < ds.length then .error (.digitsRead ds.length)
  else if ds.isEmpty || ds.length < r.length then .error (.notInteger base (String.ofList s))
  else
    let n := ds.foldl (fun n d => n * base + d) 0
    .ok (if negative then -(n : Int) else n)

/-- The parts of a number in base 60 put together, the first the most significant. -/
def sixtieths (parts : List Int) : Int := parts.foldl (fun n p => n * 60 + p) 0

/-- A text without underscores, cut into whether it is negative and what follows its sign. -/
def signed (text : List Char) : Except Fault (Bool × List Char) :=
  match text.filter (· ≠ '_') with
  | [] => .error .emptyNumber
  | r => .ok (cutSign r)

/-- The size of a whole number: in base 2, 8 or 16 behind a mark, in parts of base 60, or in
base 10. -/
def integerSize : List Char → Except Fault Int
  | [] => .error .emptyNumber
  | ['0'] => .ok 0
  | '0' :: 'b' :: r => whole 2 r
  | '0' :: 'x' :: r => whole 16 r
  | '0' :: r => whole 8 ('0' :: r)
  | s => if s.contains ':' then sixtieths <$> (Text.splitAt ':' s).mapM (whole 10) else whole 10 s

/-- The whole number that a scalar writes. -/
def integer (text : String) : Except Fault Int := do
  let (negative, s) ← signed text.toList
  let n ← integerSize s
  return if negative then -n else n

/-- The decimal number that a part of a scalar writes. -/
def decimalPart (s : List Char) : Except Fault Float :=
  match Decimal.read? (String.ofList (Text.numeral s)) with
  | some x => .ok x
  | none => .error (.notDecimal (String.ofList s))

/-- The sum of parts in base 60, the last of weight one; the weights have to be in the range of
decimal numbers. -/
def floatSixtieths (parts : List Float) : Except Fault Float := do
  let (sum, _) ← parts.reverse.foldlM (fun (sum, weight) x => do
    if Nat.pow 2 1024 ≤ weight then throw .tooManyParts
    return (sum + x * Decimal.nearest weight 1, weight * 60)) (0.0, 1)
  return sum

/-- The decimal number that a scalar writes, infinities and no number included. -/
def decimal (text : String) : Except Fault Float := do
  let (negative, s) ← signed (Text.lower text.toList)
  let sign : Float := if negative then -1.0 else 1.0
  if s = ".inf".toList then return sign * (1.0 / 0.0)
  else if s = ".nan".toList then return 0.0 / 0.0
  else if s.contains ':' then
    return sign * (← floatSixtieths (← (Text.splitAt ':' s).mapM decimalPart))
  else return sign * (← decimalPart s)

end TypeAtlas.Yaml
