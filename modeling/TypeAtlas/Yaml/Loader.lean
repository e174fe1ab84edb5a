import TypeAtlas.Yaml.Fault

/-! # Values and loaders

Settings are written in YAML. What is made of a settings file depends on the values in it, and not on how
the text of the file was read, so the reader of such texts is a parameter wherever settings are read. Main
definitions:

* `Yaml.Value`: the values.
* `Yaml.Loader`: a reader of texts, which gives a value or says why there is none (`Yaml.LoadFault`).

`Yaml.load` is the loader that the program is run with. -/

namespace TypeAtlas.Yaml

/-- A value. -/
inductive Value where
  /-- Nothing. -/
  | null
  /-- A truth value. -/
  | truth (b : Bool)
  /-- A whole number. -/
  | int (n : Int)
  /-- A decimal number. -/
  | float (x : Float)
  /-- A text. -/
  | text (s : String)
  /-- Bytes. -/
  | binary (bytes : List UInt8)
  /-- A point in time. -/
  | moment
  /-- A list. -/
  | list (items : List Value)
  /-- A mapping; of two entries with the same key the last counts. -/
  | map (entries : List (Value × Value))
  /-- A set. -/
  | set (items : List Value)
  deriving Repr, Inhabited

/-- Why a loader gives no value. -/
inductive LoadFault where
  /-- The text breaks a rule of the language, as the loader says. -/
  | malformed (wording : String)
  /-- Something else went wrong. -/
  | other (fault : Fault)
  deriving DecidableEq, Repr

/-- A reader of texts. -/
abbrev Loader := String → Except LoadFault Value

end TypeAtlas.Yaml
