import TypeAtlas.FileTree
import TypeAtlas.Number.Shortest
import TypeAtlas.Text.Utf8
import TypeAtlas.Yaml.Loader

/-! # Settings (specification §6)

Settings of a directory, kept in a file there. Values of an unexpected kind are ignored. The reader of
the file's text is a `Yaml.Loader`, and `Homes` says where users have their home directories. Main
definitions:

* `Settings`: what can be set.
* `Settings.text?`, `Settings.truth?`, `Settings.texts`: values taken as a text, as a truth value, as
  a list of texts.
* `Settings.parse`: the settings that a text gives.
* `Settings.load`: the settings in a file, or in the settings file of a directory. -/

namespace TypeAtlas

/-- Why there are no settings. -/
inductive SettingsFault where
  /-- The file cannot be opened. -/
  | unreadable (path : String) (fault : FileFault)
  /-- The file is malformed, as the loader says. -/
  | malformed (name wording : String)
  /-- The file holds something else than a mapping. -/
  | notMapping (name : String)
  /-- The file is not in UTF-8. -/
  | undecodable (fault : Text.Utf8.Fault)
  /-- A scalar in the file has no value. -/
  | scalar (fault : Yaml.Fault)
  /-- No file can have such a name. -/
  | place (fault : FileFault)
  /-- The file is in a home directory that there is not. -/
  | home (fault : NoHome)
  deriving DecidableEq, Repr

/-- The wording of a settings fault. -/
def SettingsFault.message : SettingsFault → String
  | .unreadable path fault => "Failed to read " ++ path ++ ": " ++ fault.message
  | .malformed name wording => "Failed to parse " ++ name ++ ": " ++ wording
  | .notMapping name => name ++ " must contain a mapping at the root"
  | .undecodable fault => fault.message
  | .scalar fault => fault.message
  | .place fault => fault.message
  | .home fault => fault.message

/-- Whether a fault is one of the settings file, to be reported as such. -/
def SettingsFault.isOfFile : SettingsFault → Bool
  | .unreadable .. => true
  | .malformed .. => true
  | .notMapping _ => true
  | _ => false

/-- What can be set. -/
structure Settings where
  /-- The directory of the settings. -/
  root : Path
  /-- The name of the format. -/
  format : Option String
  /-- Whether existing output is replaced. -/
  force : Option Bool
  /-- More types that are shown as they are. -/
  inlineTypes : List String
  /-- Where records are kept. -/
  logFile : Option Path
  deriving DecidableEq, Repr

namespace Settings

open Yaml (Value)

/-- The name of the settings file of a directory. -/
def fileName : String := ".interface-docs.yml"

/-- Nothing set. -/
def none (root : Path) : Settings := ⟨root, .none, .none, [], .none⟩

/-- A value as a text: texts and numbers. -/
def text? : Value → Option String
  | .text s => some s
  | .int n => some (toString n)
  | .float x => some (Shortest.text x)
  | _ => .none

/-- A value as a truth value: the words for it count, blanks and case do not. No character but the
letters of those words has one of them as its lower case. -/
def truth? : Value → Option Bool
  | .truth b => some b
  | .text s =>
    let word := String.ofList ((Text.trim s.toList).map Char.toLower)
    if word = "true" || word = "yes" || word = "1" then some true
    else if word = "false" || word = "no" || word = "0" then some false
    else .none
  | _ => .none

/-- An item of a list as a text: texts, numbers and truth values. -/
def item? : Value → Option String
  | .truth b => some (if b then "True" else "False")
  | v => text? v

/-- A value as a list of texts. -/
def texts : Value → List String
  | .text s => [s]
  | .list items => items.filterMap item?
  | .binary bytes => bytes.map fun b => toString b.toNat
  | _ => []

/-- The value under a key; the last one counts. -/
def lookup (key : String) (entries : List (Value × Value)) : Value :=
  match entries.reverse.find? fun p =>
      match p.1 with
      | .text s => s = key
      | _ => false with
  | some p => p.2
  | .none => .null

/-- The settings that the entries of a mapping give. -/
def ofEntries (root : Path) (entries : List (Value × Value)) : Settings where
  root := root
  format := text? (lookup "format" entries)
  force := truth? (lookup "force" entries)
  inlineTypes := texts (lookup "inline_types" entries)
  logFile :=
    match text? (lookup "log_file" entries) with
    | some s => if s = "" then .none else some (root.join (Path.ofString s))
    | .none => .none

/-- Whether a value is a whole number with more digits than are written. -/
def isOverlong : Value → Bool
  | .int n => Nat.pow 10 Yaml.digitLimit ≤ n.natAbs
  | _ => false

/-- Whether a text would have to be made from such a number. -/
def hasOverlong (entries : List (Value × Value)) : Bool :=
  isOverlong (lookup "format" entries) || isOverlong (lookup "log_file" entries) ||
    match lookup "inline_types" entries with
    | .list items => items.any isOverlong
    | _ => false

/-- The settings that the text of a file gives; an empty text sets nothing. -/
def parse (yaml : Yaml.Loader) (root : Path) (name : String) (source : List Char) :
    Except SettingsFault Settings :=
  if Text.allBlank source then .ok (none root)
  else
    match yaml (String.ofList source) with
    | .error (.malformed wording) => .error (.malformed name wording)
    | .error (.other e) => .error (.scalar e)
    | .ok .null => .ok (none root)
    | .ok (.map entries) =>
      if hasOverlong entries then .error (.scalar .digitsWritten) else .ok (ofEntries root entries)
    | .ok _ => .error (.notMapping name)

/-- The settings in a file, or in the settings file of a directory; without the file nothing is set. -/
def load (homes : Homes) (yaml : Yaml.Loader) (files : FileTree) (cwd : Location) (path : Path) :
    Except SettingsFault Settings := do
  let path ← (path.expandHome homes).mapError .home
  let inside ← (files.isDirectory cwd path).mapError .place
  let file := if inside then path.join (Path.ofString fileName) else path
  if file.parent.hasNul then throw (.place .nulInName)
  let root := Path.absolute (file.parent.normal cwd)
  let there ← (files.exists? cwd file).mapError .place
  if !there then return none root
  let bytes ← (files.read cwd file).mapError (.unreadable file.text)
  let source ← (Text.Utf8.decode bytes).mapError .undecodable
  parse yaml root file.name (Text.unifyBreaks source)

end Settings

end TypeAtlas
