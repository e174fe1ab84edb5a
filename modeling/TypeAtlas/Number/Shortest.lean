/-! # Shortest decimal text of a binary number

A finite binary number is a whole number times a power of two. Of all decimals that are nearer to it
than to any other such number, the text takes one with the fewest digits, and of those the nearest.
Main definitions:

* `Shortest.digits`: the digits and the power of ten.
* `Shortest.layout`: digits as text, positional for numbers of usual size.
* `Shortest.text`: the text of a floating-point number. -/

namespace TypeAtlas.Shortest

/-- A positive fraction. -/
structure Ratio where
  /-- The numerator. -/
  num : Nat
  /-- The denominator. -/
  den : Nat

/-- `n` times two to the power `e`. -/
def Ratio.scale2 (n : Nat) (e : Int) : Ratio :=
  if 0 ≤ e then ⟨n * Nat.pow 2 e.toNat, 1⟩ else ⟨n, Nat.pow 2 (-e).toNat⟩

/-- `r` divided by ten to the power `e`. -/
def Ratio.shift10 (r : Ratio) (e : Int) : Ratio :=
  if 0 ≤ e then ⟨r.num, r.den * Nat.pow 10 e.toNat⟩
  else ⟨r.num * Nat.pow 10 (-e).toNat, r.den⟩

/-- The place of the leading digit: the power of ten that `r` reaches and the next it does not. -/
def leading (r : Ratio) : Int :=
  if r.den ≤ r.num then (Nat.toDigits 10 (r.num / r.den)).length - 1
  else - ((Nat.toDigits 10 ((r.den - 1) / r.num)).length : Int)

/-- The numbers that round to `m · 2 ^ q`: all between two bounds, which belong to them when `m` is
even. Below a power of two the distance to the next number is half of that above. -/
structure Interval where
  /-- Four times the number, in units of `2 ^ (q - 2)`. -/
  mid : Nat
  /-- The lower bound in the same units. -/
  low : Nat
  /-- The upper bound in the same units. -/
  high : Nat
  /-- The exponent of the unit. -/
  unit : Int
  /-- Whether the bounds belong to the interval. -/
  closed : Bool

/-- The numbers that round to `m · 2 ^ q`. -/
def interval (m : Nat) (q : Int) : Interval where
  mid := 4 * m
  low := if m = Nat.pow 2 52 && q > -1074 then 4 * m - 1 else 4 * m - 2
  high := 4 * m + 2
  unit := q - 2
  closed := m % 2 = 0

/-- Whether the decimal `d · 10 ^ e` rounds to the number of an interval. -/
def Interval.holds (i : Interval) (d : Nat) (e : Int) : Bool :=
  -- both sides multiplied out: `d · 10 ^ e` against `bound · 2 ^ unit`
  let scaled := Ratio.shift10 ⟨d, 1⟩ (-e)
  let low := Ratio.scale2 i.low i.unit
  let high := Ratio.scale2 i.high i.unit
  let l := low.num * scaled.den
  let h := high.num * scaled.den
  let a := scaled.num * low.den
  if i.closed then l ≤ a && a ≤ h else l < a && a < h

/-- The digits of the shortest decimal and its power of ten, trying `n` digits and more, `left` times
at most. -/
def search (i : Interval) (value : Ratio) (place : Int) : (left n : Nat) → Nat × Int
  | 0, _ => (0, 0)
  | left + 1, n =>
    let e := place - n + 1
    let r := value.shift10 e
    let below := r.num / r.den
    let rest := r.num % r.den
    let lowHit := below ≠ 0 && i.holds below e
    let highHit := i.holds (below + 1) e
    if lowHit && highHit then
      if 2 * rest < r.den || (2 * rest = r.den && below % 2 = 0) then (below, e)
      else (below + 1, e)
    else if lowHit then (below, e)
    else if highHit then (below + 1, e)
    else search i value place left (n + 1)

/-- The digits of the shortest decimal for `m · 2 ^ q`, `m` positive, and its power of ten. -/
def digits (m : Nat) (q : Int) : Nat × Int :=
  let value := Ratio.scale2 m q
  search (interval m q) value (leading value) 17 1

/-- Digits without the zeros at their end, and how many those were. -/
def dropZeros (ds : List Char) : List Char × Nat :=
  let kept := (ds.reverse.dropWhile (· == '0')).reverse
  (kept, ds.length - kept.length)

/-- Digits with a point before the last `-e` of them, filled up with zeros; an exponent is written
when the leading digit stands below the fourth place after the point or above the sixteenth before
it. -/
def layout (d : Nat) (e : Int) : String :=
  let (ds, zeros) := dropZeros (Nat.toDigits 10 d)
  let e := e + zeros
  let lead := e + ds.length - 1
  if -4 ≤ lead && lead < 16 then
    if 0 ≤ e then String.ofList (ds ++ List.replicate e.toNat '0') ++ ".0"
    else if 0 ≤ lead then
      String.ofList (ds.take (lead + 1).toNat) ++ "." ++ String.ofList (ds.drop (lead + 1).toNat)
    else "0." ++ String.ofList (List.replicate (-lead - 1).toNat '0' ++ ds)
  else
    let power := Nat.toDigits 10 lead.natAbs
    String.ofList (ds.take 1) ++ (if ds.length ≤ 1 then "" else "." ++ String.ofList (ds.drop 1)) ++
      "e" ++ (if lead < 0 then "-" else "+") ++
      String.ofList (List.replicate (2 - power.length) '0' ++ power)

/-- The text of a floating-point number, taken from its bits. -/
def text (x : Float) : String :=
  let bits := x.toBits.toNat
  let sign := if bits / Nat.pow 2 63 = 1 then "-" else ""
  let power : Nat := bits / Nat.pow 2 52 % 2048
  let fraction : Nat := bits % Nat.pow 2 52
  if power = 2047 then if fraction = 0 then sign ++ "inf" else "nan"
  else if power = 0 && fraction = 0 then sign ++ "0.0"
  else
    let (d, e) :=
      if power = 0 then digits fraction (-1074)
      else digits (Nat.pow 2 52 + fraction) ((power : Int) - 1075)
    sign ++ layout d e

end TypeAtlas.Shortest
