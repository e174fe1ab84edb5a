/-! # Time stamps

The point in time in front of a record, to the millisecond, in universal time. Main definitions:

* `Stamp.civil`: the date of a day.
* `Stamp.text`: the text of a point in time. -/

namespace TypeAtlas.Stamp

/-- Year, month and day of a day, counted from the first of January 1970. Years are taken to start in
March, so that a leap day is the last of its year, and to repeat after 400 years of 146097 days. -/
def civil (day : Nat) : Nat × Nat × Nat :=
  let shifted := day + 719468
  let era := shifted / 146097
  let inEra := shifted % 146097
  let year := (inEra - inEra / 1460 + inEra / 36524 - inEra / 146096) / 365
  let inYear := inEra - (365 * year + year / 4 - year / 100)
  let month := (5 * inYear + 2) / 153
  let date := inYear - (153 * month + 2) / 5 + 1
  if month < 10 then (era * 400 + year, month + 3, date) else (era * 400 + year + 1, month - 9, date)

/-- A number with zeros in front, up to a width. -/
def padded (width n : Nat) : String :=
  let ds := Nat.toDigits 10 n
  String.ofList (List.replicate (width - ds.length) '0' ++ ds)

/-- The text of a point in time, counted in milliseconds from the start of 1970. -/
def text (ms : Nat) : String :=
  let (year, month, date) := civil (ms / 86400000)
  let rest := ms % 86400000
  padded 4 year ++ "-" ++ padded 2 month ++ "-" ++ padded 2 date ++ " " ++
    padded 2 (rest / 3600000) ++ ":" ++ padded 2 (rest / 60000 % 60) ++ ":" ++
    padded 2 (rest / 1000 % 60) ++ "," ++ padded 3 (rest % 1000)

end TypeAtlas.Stamp
