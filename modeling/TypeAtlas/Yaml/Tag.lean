import TypeAtlas.Number.Decimal
import TypeAtlas.Text.Lines

/-! # Tags

The tag of a node says what kind of value it writes. A scalar without quotes and without a tag gets
one from its text. Main definitions:

* `Tag`, `Tag.ofName`: the tags with a meaning.
* `Moment`, `Moment.parse?`: points in time as they are written.
* `Tag.ofText`: the tag that a text stands for. -/

namespace TypeAtlas.Yaml

/-- What a node writes. -/
inductive Tag where
  /-- Nothing. -/
  | null
  /-- A truth value. -/
  | truth
  /-- A whole number. -/
  | int
  /-- A decimal number. -/
  | float
  /-- Bytes in base 64. -/
  | binary
  /-- A point in time. -/
  | timestamp
  /-- A list of pairs, keys distinct. -/
  | omap
  /-- A list of pairs. -/
  | pairs
  /-- A set. -/
  | set
  /-- A text. -/
  | str
  /-- A list. -/
  | seq
  /-- A mapping. -/
  | map
  /-- The key under which other mappings are merged in. -/
  | merge
  /-- The key of the default value of a mapping. -/
  | value
  /-- Nothing known. -/
  | unknown
  deriving DecidableEq, Repr

/-- Where the names of the known tags start. -/
def coreTags : String := "tag:yaml.org,2002:"

/-- The tag of a name. -/
def Tag.ofName (name : String) : Tag :=
  match ([("null", .null), ("bool", .truth), ("int", .int), ("float", .float), ("binary", .binary),
      ("timestamp", .timestamp), ("omap", .omap), ("pairs", .pairs), ("set", .set), ("str", .str),
      ("seq", .seq), ("map", .map), ("merge", .merge), ("value", .value)] :
      List (String × Tag)).find? fun p => coreTags ++ p.1 == name with
  | some p => p.2
  | none => .unknown

/-- A point in time as it is written: a date, and if a time follows, its parts. -/
structure Moment where
  /-- The year. -/
  year : Nat
  /-- The month. -/
  month : Nat
  /-- The day. -/
  day : Nat
  /-- Whether month and day have two digits. -/
  padded : Bool
  /-- Hour, minute and second. -/
  time : Option (Nat × Nat × Nat)
  /-- The minutes that a signed offset from universal time gives. -/
  offset : Option Int
  deriving Repr

namespace Moment

/-- Between `least` and `most` digits, as many as there are. -/
def number? (least most : Nat) (s : List Char) : Option (Nat × Nat × List Char) :=
  let ds := (s.take most).takeWhile Char.isDigit
  if ds.length < least then none else some (Decimal.natural ds, ds.length, s.drop ds.length)

/-- The rest after a given character. -/
def after? (c : Char) : List Char → Option (List Char)
  | d :: r => if d = c then some r else none
  | [] => none

/-- Whether a character is a space or a tab. -/
def isSpace (c : Char) : Bool := c == ' ' || c == '\t'

/-- The zone at the end of a time: nothing, the letter of universal time, or a signed offset. -/
def zone? (s : List Char) : Option (Option Int) :=
  match s, s.dropWhile isSpace with
  | [], _ => some none
  | _, ['Z'] => some none
  | _, sign :: r =>
    if sign = '+' || sign = '-' then do
      let (hours, _, r) ← number? 1 2 r
      let minutes ←
        match r with
        | [] => some 0
        | ':' :: r =>
          match number? 2 2 r with
          | some (m, _, []) => some m
          | _ => none
        | _ => none
      let total : Int := (hours * 60 + minutes : Nat)
      return some (if sign = '-' then -total else total)
    else none
  | _, [] => none

/-- The time after a date: separated by a letter or by spaces, with a fraction that does not count
and a zone. -/
def time? (s : List Char) : Option ((Nat × Nat × Nat) × Option Int) := do
  let r ←
    match s with
    | c :: r =>
      if c = 'T' || c = 't' then some r
      else if isSpace c then some (r.dropWhile isSpace) else none
    | [] => none
  let (hour, _, r) ← number? 1 2 r
  let (minute, _, r) ← number? 2 2 (← after? ':' r)
  let (second, _, r) ← number? 2 2 (← after? ':' r)
  let r :=
    match r with
    | '.' :: r => r.dropWhile Char.isDigit
    | r => r
  return ((hour, minute, second), ← zone? r)

/-- The point in time that a text writes. -/
def parse? (s : List Char) : Option Moment := do
  let (year, _, r) ← number? 4 4 s
  let (month, m, r) ← number? 1 2 (← after? '-' r)
  let (day, d, r) ← number? 1 2 (← after? '-' r)
  let padded := m = 2 && d = 2
  if r.isEmpty then return ⟨year, month, day, padded, none, none⟩
  let (time, offset) ← time? r
  return ⟨year, month, day, padded, some time, offset⟩

end Moment

/-- A text without its sign. -/
def unsigned : List Char → List Char
  | '+' :: r => r
  | '-' :: r => r
  | r => r

/-- A text behind digits and underscores that start with a digit. -/
def afterDigits? : List Char → Option (List Char)
  | [] => none
  | c :: r => if c.isDigit then some (r.dropWhile fun d => d.isDigit || d == '_') else none

/-- Whether a text is nothing or an exponent with a sign. -/
def isExponent : List Char → Bool
  | [] => true
  | e :: s :: d :: r =>
    (e == 'e' || e == 'E') && (s == '+' || s == '-') && (d :: r).all Char.isDigit
  | _ => false

/-- A text behind the parts of a number in base 60: each a colon and one or two digits, below 60.
With it, whether there was a part. -/
def afterSixtieths : List Char → Bool × List Char
  | ':' :: a :: b :: r =>
    if a.isDigit && b.isDigit && a ≤ '5' then (true, (afterSixtieths r).2)
    else if a.isDigit then (true, (afterSixtieths (b :: r)).2)
    else (false, ':' :: a :: b :: r)
  | [':', a] => if a.isDigit then (true, []) else (false, [':', a])
  | r => (false, r)

/-- Whether a text writes a decimal number: with a point, and an exponent only with a sign. -/
def isFloat (s : List Char) : Bool :=
  let r := unsigned s
  let fraction (r : List Char) : List Char := r.dropWhile fun d => d.isDigit || d == '_'
  r ∈ [".inf".toList, ".Inf".toList, ".INF".toList] ||
  s ∈ [".nan".toList, ".NaN".toList, ".NAN".toList] ||
  (match s with
    | '.' :: r => (match afterDigits? r with | some r => isExponent r | none => false)
    | _ => false) ||
  (match afterDigits? r with
    | some ('.' :: r) => isExponent (fraction r)
    | some r =>
      match afterSixtieths r with
      | (true, '.' :: r) => (fraction r).isEmpty
      | _ => false
    | none => false)

/-- Whether a text writes a whole number: in base 2, 8, 10, 16, or in parts of base 60. -/
def isInt (s : List Char) : Bool :=
  match unsigned s with
  | ['0'] => true
  | '0' :: 'b' :: d :: r => (d :: r).all fun c => c == '0' || c == '1' || c == '_'
  | '0' :: 'x' :: d :: r =>
    (d :: r).all fun c =>
      c.isDigit || ('a' ≤ c && c ≤ 'f') || ('A' ≤ c && c ≤ 'F') || c == '_'
  | '0' :: r => r.all fun c => ('0' ≤ c && c ≤ '7') || c == '_'
  | r =>
    match afterDigits? r with
    | some r => (afterSixtieths r).2.isEmpty
    | none => false

/-- The words for a truth value, in lower case. -/
def truths : List (String × Bool) :=
  [("yes", true), ("no", false), ("true", true), ("false", false), ("on", true), ("off", false)]

/-- Whether a text is a word in lower case, in upper case, or with a capital. -/
def isCased (word s : String) : Bool := s == word || s == word.toUpper || s == word.capitalize

/-- The tag that a text stands for. -/
def Tag.ofText (text : String) : Tag :=
  let s := Text.withoutBreak text.toList
  let word := String.ofList s
  if truths.any fun p => isCased p.1 word then .truth
  else if isFloat s then .float
  else if isInt s then .int
  else if word = "<<" then .merge
  else if word = "" || word = "~" || isCased "null" word then .null
  else if (Moment.parse? s).any fun m => m.padded || m.time.isSome then .timestamp
  else if word = "=" then .value
  else if word = "!" || word = "&" || word = "*" then .unknown
  else .str

end TypeAtlas.Yaml
