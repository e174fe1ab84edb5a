import TypeAtlas.Text.Digit
import TypeAtlas.Text.Lines
import TypeAtlas.Text.Quoted

/-! # Options (specification §6)

The words of a command line. Each word is an option, perhaps with a value in the same word, or no
option; this is decided for all words first. Then options are taken in order, each with the value that
belongs to it, and what belongs to no option is left over. Main definitions:

* `Switch`: the options that there are.
* `Word.classify`: what a word is. Long options may be shortened, short ones written together.
* `Options.parse`: the options of a command line, or why the program stops. -/

namespace TypeAtlas.CommandLine

/-- An option. -/
inductive Switch where
  /-- Show the help text. -/
  | help
  /-- The source file. -/
  | input
  /-- Where the page goes. -/
  | output
  /-- The format. -/
  | format
  /-- Replace an existing page. -/
  | force
  /-- Show everything. -/
  | verbose
  /-- The settings. -/
  | config
  /-- The log file. -/
  | logFile
  deriving DecidableEq, Repr

namespace Switch

/-- All options in order. -/
def all : List Switch := [.help, .input, .output, .format, .force, .verbose, .config, .logFile]

/-- The spellings of an option. -/
def spellings : Switch → List String
  | .help => ["-h", "--help"]
  | .input => ["-i", "--input"]
  | .output => ["-o", "--output"]
  | .format => ["--format"]
  | .force => ["-f", "--force"]
  | .verbose => ["-v", "--verbose"]
  | .config => ["-c", "--config"]
  | .logFile => ["--log-file"]

/-- Whether an option has a value. -/
def hasValue : Switch → Bool
  | .help => false
  | .force => false
  | .verbose => false
  | _ => true

/-- The values that an option can have; nothing if all are allowed. -/
def choices? : Switch → Option (List String)
  | .format => some ["tables", "json"]
  | _ => none

/-- All spellings in order, with their options. -/
def table : List (String × Switch) := all.flatMap fun s => s.spellings.map fun n => (n, s)

/-- The option with a spelling. -/
def ofSpelling? (spelling : String) : Option Switch := table.lookup spelling

/-- How an option is called in messages. -/
def label (s : Switch) : String := String.intercalate "/" s.spellings

end Switch

/-- Why the options are refused. -/
inductive OptionFault where
  /-- A shortened option could be several. -/
  | ambiguous (word : String) (spellings : List String)
  /-- An option has no value. -/
  | valueMissing (s : Switch)
  /-- An option without value has one. -/
  | valueIgnored (s : Switch) (value : String)
  /-- An option has a value that is not allowed. -/
  | badChoice (s : Switch) (value : String) (choices : List String)
  /-- There is no source file. -/
  | inputMissing
  /-- Words belong to no option. -/
  | unrecognized (words : List String)
  deriving DecidableEq, Repr

/-- The wording of an option fault. -/
def OptionFault.message : OptionFault → String
  | .ambiguous word spellings =>
    "ambiguous option: " ++ word ++ " could match " ++ String.intercalate ", " spellings
  | .valueMissing s => "argument " ++ s.label ++ ": expected one argument"
  | .valueIgnored s value =>
    "argument " ++ s.label ++ ": ignored explicit argument " ++ Text.quoted value
  | .badChoice s value choices =>
    "argument " ++ s.label ++ ": invalid choice: " ++ Text.quoted value ++ " (choose from " ++
      String.intercalate ", " (choices.map Text.quoted) ++ ")"
  | .inputMissing => "the following arguments are required: " ++ Switch.input.label
  | .unrecognized words => "unrecognized arguments: " ++ String.intercalate " " words

/-- Why the program stops at its options. -/
inductive Stop where
  /-- The help text was asked for. -/
  | help
  /-- The options are refused. -/
  | refused (f : OptionFault)
  deriving DecidableEq, Repr

/-- A word of a command line. -/
inductive Word where
  /-- An option and the rest of its word, which may be its value; `joined` when no equals sign is
  between them, as behind a single letter. -/
  | option (s : Switch) (joined : Bool) (value : Option String)
  /-- An option that does not exist. -/
  | unknown (word : String)
  /-- No option. -/
  | plain (word : String)
  /-- The mark after which no word is an option. -/
  | endMark
  deriving DecidableEq, Repr

namespace Word

/-- A word cut at its first equals sign. -/
def cutValue (word : List Char) : List Char × Option (List Char) :=
  match word.dropWhile (· ≠ '=') with
  | [] => (word, none)
  | _ :: value => (word.takeWhile (· ≠ '='), some value)

/-- Whether a word is a dash and a number, in digits of any script; a line feed may end it. -/
def isNegativeNumber (word : List Char) : Bool :=
  match Text.withoutBreak word with
  | '-' :: r =>
    match r.dropWhile Text.isDecimal with
    | [] => !r.isEmpty
    | '.' :: d :: ds => (d :: ds).all Text.isDecimal
    | _ => false
  | _ => false

/-- Whether a spelling has one dash. -/
def isShort (spelling : List Char) : Bool := spelling[1]? ≠ some '-'

/-- The options that a word with two dashes can be short for, with their spellings. -/
def completions (start : List Char) : List (String × Switch) :=
  Switch.table.filter fun p => start.isPrefixOf p.1.toList

/-- What a word in front of the mark is, when it is no spelling of an option as it stands. -/
def classifyOther (word : String) : Except OptionFault Word :=
  let cs := word.toList
  let other : Word :=
    if isNegativeNumber cs || cs.contains ' ' then .plain word else .unknown word
  if isShort cs then
    match Switch.ofSpelling? (String.ofList (cs.take 2)) with
    | some s => .ok (.option s true (some (String.ofList (cs.drop 2))))
    | none => .ok other
  else
    let (start, value) := cutValue cs
    match completions start with
    | [] => .ok other
    | [(_, s)] => .ok (.option s false (value.map String.ofList))
    | several => .error (.ambiguous word (several.map (·.1)))

/-- What a word in front of the mark is. -/
def classify (word : String) : Except OptionFault Word :=
  let cs := word.toList
  if cs.length < 2 || cs.head? ≠ some '-' then .ok (.plain word)
  else
    match Switch.ofSpelling? word with
    | some s => .ok (.option s false none)
    | none =>
      let (spelling, value) := cutValue cs
      match Switch.ofSpelling? (String.ofList spelling), value with
      | some s, some v => .ok (.option s false (some (String.ofList v)))
      | _, _ => classifyOther word

/-- What the words of a command line are. -/
def classifyAll : List String → Except OptionFault (List Word)
  | [] => .ok []
  | w :: r =>
    if w = "--" then .ok (.endMark :: r.map .plain)
    else do
      let w ← classify w
      return w :: (← classifyAll r)

end Word

/-- The options of a command line. -/
structure Options where
  /-- The source file. -/
  input : String
  /-- Where the page goes. -/
  output : Option String
  /-- The format. -/
  format : Option String
  /-- Whether an existing page is replaced. -/
  force : Bool
  /-- Whether everything is shown. -/
  verbose : Bool
  /-- The settings. -/
  config : Option String
  /-- The log file. -/
  logFile : Option String
  deriving DecidableEq, Repr

namespace Options

/-- What was found so far: options, whether a source file is among them, and words that are left
over, last first. -/
structure Found where
  /-- The options. -/
  options : Options
  /-- Whether there is a source file. -/
  hasInput : Bool
  /-- The words that are left over. -/
  extras : List String

/-- Nothing found. -/
def Found.none : Found := ⟨⟨"", .none, .none, false, false, .none, .none⟩, false, []⟩

/-- An option without value is taken. -/
def Found.flag (f : Found) : Switch → Except Stop Found
  | .help => .error .help
  | .force => .ok { f with options := { f.options with force := true } }
  | .verbose => .ok { f with options := { f.options with verbose := true } }
  | _ => .ok f

/-- An option with its value is taken. -/
def Found.set (f : Found) (s : Switch) (value : String) : Except Stop Found :=
  let o := f.options
  match s with
  | .input => .ok { f with options := { o with input := value }, hasInput := true }
  | .output => .ok { f with options := { o with output := some value } }
  | .format => .ok { f with options := { o with format := some value } }
  | .config => .ok { f with options := { o with config := some value } }
  | .logFile => .ok { f with options := { o with logFile := some value } }
  | _ => .ok f

/-- An option is taken with its value, which has to be allowed. -/
def Found.take (f : Found) (s : Switch) (value : String) : Except Stop Found :=
  match s.choices? with
  | some choices =>
    if choices.contains value then f.set s value
    else .error (.refused (.badChoice s value choices))
  | .none => f.set s value

/-- A word left over. -/
def Found.extra (f : Found) (word : String) : Found := { f with extras := word :: f.extras }

/-- The options in one word. -/
structure Cluster where
  /-- Those without value, in order. -/
  flags : List Switch
  /-- The one with a value behind them, and that value if it is in the word. -/
  last : Option (Switch × Option String)
  /-- What of the word is no option, with a dash of its own. -/
  leftover : Option String

/-- An option with nothing else in its word. -/
def Cluster.alone (s : Switch) : Cluster :=
  if s.hasValue then ⟨[], some (s, .none), .none⟩ else ⟨[s], .none, .none⟩

/-- An option without value in front of others. -/
def Cluster.after (s : Switch) (c : Cluster) : Cluster := { c with flags := s :: c.flags }

/-- The options written together behind a dash, from an option `s` without value on: those without
value, and the first one with a value, which takes the rest of the word. -/
def cluster (s : Switch) : List Char → Except OptionFault Cluster
  | [] => .error (.valueIgnored s "")
  | c :: r =>
    if c = '-' then .error (.valueIgnored s (String.ofList (c :: r)))
    else
      match Switch.ofSpelling? (String.ofList ['-', c]) with
      | .none => .ok ⟨[s], .none, some (String.ofList ('-' :: c :: r))⟩
      | some t =>
        match r with
        | [] => .ok ((Cluster.alone t).after s)
        | d :: v =>
          if t.hasValue then
            .ok ⟨[s], some (t, some (String.ofList (if d = '=' then v else d :: v))), .none⟩
          else if d = '=' then .error (.valueIgnored t (String.ofList v))
          else (cluster t (d :: v)).map (·.after s)

/-- The options in a word, as in `cluster`. An option with two dashes stands alone. -/
def inWord (s : Switch) (joined : Bool) : Option String → Except OptionFault Cluster
  | .none => .ok (Cluster.alone s)
  | some v =>
    if s.hasValue then .ok ⟨[], some (s, some v), .none⟩
    else if joined then cluster s v.toList
    else .error (.valueIgnored s v)

/-- The options of a word are taken, the last one with a value if it has one. -/
def Found.takeAll (f : Found) (c : Cluster) (last : Option (Switch × String)) : Except Stop Found := do
  let f := (c.leftover.map f.extra).getD f
  let f ← c.flags.foldlM Found.flag f
  match last with
  | .none => return f
  | some (s, v) => f.take s v

/-- The options among some words, taken in order. A value that is not in the word of its option is the
word behind it, which has to be plain. -/
def collect (f : Found) : List Word → Except Stop Found
  | [] => .ok f
  | .plain w :: r => collect (f.extra w) r
  | .unknown w :: r => collect (f.extra w) r
  | .endMark :: r => collect (f.extra "--") r
  | .option s joined value :: r =>
    match inWord s joined value with
    | .error e => .error (.refused e)
    | .ok c =>
      match c.last with
      | .none => (f.takeAll c .none).bind fun f => collect f r
      | some (t, some v) => (f.takeAll c (some (t, v))).bind fun f => collect f r
      | some (t, .none) =>
        match r with
        | .plain v :: r => (f.takeAll c (some (t, v))).bind fun f => collect f r
        | _ => .error (.refused (.valueMissing t))

/-- The options of a command line. A missing source file is noticed before words that are left
over. -/
def parse (argv : List String) : Except Stop Options := do
  let words ← (Word.classifyAll argv).mapError .refused
  let found ← collect Found.none words
  if !found.hasInput then throw (.refused .inputMissing)
  if !found.extras.isEmpty then throw (.refused (.unrecognized found.extras.reverse))
  return found.options

end Options

end TypeAtlas.CommandLine
