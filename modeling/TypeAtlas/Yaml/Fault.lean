import TypeAtlas.Text.Quoted

/-! # Faults of YAML texts

Why a text gives no value. A malformed text is one fault, whatever the rule; the other faults come from
scalars that have the form of a number, a date or a character code without being one. Main
definitions:

* `Yaml.Fault`: the faults.
* `Yaml.Fault.message`: their wording; a text that is no whole number is shown in part if it is long. -/

namespace TypeAtlas.Yaml

/-- What is wrong with a point in time. -/
inductive MomentFault where
  /-- The year is zero. -/
  | year
  /-- There is no such month. -/
  | month
  /-- The month has no such day. -/
  | day
  /-- There is no such hour. -/
  | hour
  /-- There is no such minute. -/
  | minute
  /-- There is no such second. -/
  | second
  /-- The offset from universal time, in minutes, is a day or more. -/
  | offset (minutes : Int)
  deriving DecidableEq, Repr

/-- The most digits in base 10 with which a whole number is read or written. -/
def digitLimit : Nat := 4300

/-- Why a text gives no value. -/
inductive Fault where
  /-- It breaks a rule of the language. -/
  | malformed
  /-- A character code above the last character. -/
  | charCode (code : Nat)
  /-- A character code of half a pair. -/
  | halfPair (code : Nat)
  /-- A number without digits and sign. -/
  | emptyNumber
  /-- No whole number in the base. -/
  | notInteger (base : Nat) (text : String)
  /-- A whole number with more digits than are read. -/
  | digitsRead (count : Nat)
  /-- A whole number with more digits than are written. -/
  | digitsWritten
  /-- A decimal number with more parts in base 60 than a power of it can weigh. -/
  | tooManyParts
  /-- No decimal number. -/
  | notDecimal (text : String)
  /-- No truth value. -/
  | notTruth (text : String)
  /-- Not in the form of a point in time. -/
  | notMoment
  /-- A collection where a point in time has to be. -/
  | momentInCollection
  /-- No point in time. -/
  | moment (fault : MomentFault)
  deriving DecidableEq, Repr

/-- A number of minutes as days and seconds, the seconds not negative and left out if zero. -/
def offsetText (minutes : Int) : String :=
  let days := minutes.fdiv 1440
  let seconds := minutes.fmod 1440 * 60
  "datetime.timedelta(days=" ++ toString days ++
    (if seconds = 0 then "" else ", seconds=" ++ toString seconds) ++ ")"

/-- The wording of a fault in a point in time. -/
def MomentFault.message : MomentFault → String
  | .year => "year 0 is out of range"
  | .month => "month must be in 1..12"
  | .day => "day is out of range for month"
  | .hour => "hour must be in 0..23"
  | .minute => "minute must be in 0..59"
  | .second => "second must be in 0..59"
  | .offset minutes =>
    "offset must be a timedelta strictly between -timedelta(hours=24) and timedelta(hours=24), not " ++
      offsetText minutes ++ "."

/-- That a number has too many digits. -/
def digitLimitText : String :=
  "Exceeds the limit (" ++ toString digitLimit ++ " digits) for integer string conversion"

/-- What to do about a number with too many digits. -/
def digitLimitAdvice : String := "; use sys.set_int_max_str_digits() to increase the limit"

/-- The wording of a fault. -/
def Fault.message : Fault → String
  | .malformed => "malformed"
  | .charCode code =>
    if code < Nat.pow 2 31 then "chr() arg not in range(0x110000)"
    else "Python int too large to convert to C int"
  | .halfPair code => "half of a pair: " ++ String.ofList (Text.escapeCode code)
  | .emptyNumber => "string index out of range"
  | .notInteger base text =>
    "invalid literal for int() with base " ++ toString base ++ ": " ++
      String.ofList ((Text.quoted text).toList.take 200)
  | .digitsRead count =>
    digitLimitText ++ ": value has " ++ toString count ++ " digits" ++ digitLimitAdvice
  | .digitsWritten => digitLimitText ++ digitLimitAdvice
  | .tooManyParts => "int too large to convert to float"
  | .notDecimal text => "could not convert string to float: " ++ Text.quoted text
  | .notTruth text => Text.quoted text
  | .notMoment => "'NoneType' object has no attribute 'groupdict'"
  | .momentInCollection => "expected string or bytes-like object, got 'list'"
  | .moment fault => fault.message

end TypeAtlas.Yaml
