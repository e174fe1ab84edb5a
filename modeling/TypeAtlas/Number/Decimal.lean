/-! # Reading decimals

Decimal texts as floating-point numbers, rounded to nearest. Main definitions:

* `Decimal.nearest`: the number nearest to a fraction, of two the one with an even last bit.
* `Decimal.scaled`: a whole number times a power of ten.
* `Decimal.read?`: digits with a point and an exponent, or the name of an infinity or of no number. -/

namespace TypeAtlas.Decimal

/-- The whole number that some digits write. -/
def natural (ds : List Char) : Nat := ds.foldl (fun n c => n * 10 + (c.toNat - 48)) 0

/-- `num / den` divided by two to the power `e`, as a quotient and a rest over a denominator. -/
def divided (num den : Nat) (e : Int) : Nat × Nat × Nat :=
  let n := if 0 ≤ e then num else num * Nat.pow 2 (-e).toNat
  let d := if 0 ≤ e then den * Nat.pow 2 e.toNat else den
  (n / d, n % d, d)

/-- A quotient rounded to nearest by its rest, to even if the rest is a half. -/
def rounded : Nat × Nat × Nat → Nat
  | (q, r, d) => if 2 * r < d || (2 * r = d && q % 2 = 0) then q else q + 1

/-- The floating-point number nearest to `num / den`. It has 53 bits in front of its power of two, and
fewer only with the least power there is. -/
def nearest (num den : Nat) : Float :=
  if num = 0 then 0.0
  else
    let e : Int := (num.log2 : Int) - den.log2 - 53
    let e := if (divided num den e).1 < Nat.pow 2 53 then e else e + 1
    let e := max e (-1074)
    (rounded (divided num den e)).toFloat.scaleB e

/-- `n` times ten to the power `e`, rounded; far outside of the range it is infinite or zero. -/
def scaled (n : Nat) (e : Int) : Float :=
  let size : Int := (Nat.toDigits 10 n).length
  if n = 0 || e + size < -400 then 0.0
  else if e + size > 400 then 1.0 / 0.0
  else if 0 ≤ e then nearest (n * Nat.pow 10 e.toNat) 1
  else nearest n (Nat.pow 10 (-e).toNat)

/-- Digits, a point or none, digits, and an exponent with or without sign; at least one digit is
there before the exponent. -/
def unsigned? (s : List Char) : Option Float :=
  let whole := s.takeWhile Char.isDigit
  let rest := s.dropWhile Char.isDigit
  let (fraction, rest) :=
    match rest with
    | '.' :: r => (r.takeWhile Char.isDigit, r.dropWhile Char.isDigit)
    | r => ([], r)
  if whole.isEmpty && fraction.isEmpty then none
  else
    let value (e : Int) : Float := scaled (natural (whole ++ fraction)) (e - fraction.length)
    match rest with
    | [] => some (value 0)
    | c :: r =>
      if c = 'e' || c = 'E' then
        let (negative, ds) :=
          match r with
          | '-' :: ds => (true, ds)
          | '+' :: ds => (false, ds)
          | ds => (false, ds)
        if ds.isEmpty || !ds.all Char.isDigit then none
        else some (value (if negative then -(natural ds : Int) else natural ds))
      else none

/-- The number that a text writes. -/
def read? (s : String) : Option Float :=
  let (negative, r) :=
    match s.toList with
    | '-' :: r => (true, r)
    | '+' :: r => (false, r)
    | r => (false, r)
  let size :=
    if r = "inf".toList || r = "infinity".toList then some (1.0 / 0.0)
    else if r = "nan".toList then some (0.0 / 0.0)
    else unsigned? r
  size.map fun x => if negative then -x else x

end TypeAtlas.Decimal
