import TypeAtlas.CommandLine.Help
import TypeAtlas.CommandLine.Options
import TypeAtlas.Job
import TypeAtlas.Settings

/-! # Command line (specification §6 and §7)

A run of the program: options (`Options.parse`), settings (`Settings.load`), journal
(`Action.setUpJournal`), job (`Job.run`). What the user can mend ends in an exit code and a message; other
faults end the run as they are. Home directories, the reader of settings files and the parser of source
texts are parameters. Main definitions:

* `CommandLine.Escape`: the faults that end a run as they are.
* `CommandLine.settingsPath`: where the settings of a run are.
* `CommandLine.job`: the job that options and settings ask for.
* `CommandLine.settingsFiles`, `CommandLine.workFiles`: the files that a run looks at.
* `CommandLine.run`: a whole run. -/

namespace TypeAtlas.CommandLine

/-- A fault that ends a run as it is. -/
inductive Escape where
  /-- No file can have such a name. -/
  | place (f : FileFault)
  /-- The source file is in a home directory that there is not. -/
  | home (f : NoHome)
  /-- The settings cannot be read. -/
  | settings (f : SettingsFault)
  /-- The job fails. -/
  | job (f : JobFault)
  deriving DecidableEq, Repr

/-- The job that options and settings ask for. Options win over settings, and the types that are shown
as they are come from both. -/
def job (o : Options) (s : Settings) : Job where
  input := Path.ofString o.input
  output := o.output
  format := ((o.format.filter (· ≠ "")) <|> (s.format.filter (· ≠ ""))).getD Format.tables.name
  force := o.force || s.force.getD false
  inlineTypes :=
    defaultInlineTypes ++ s.inlineTypes.filter fun n => !defaultInlineTypes.contains n

/-- Where the settings of a run are: where an option says, or in the directory of the source file. Only
here is a home directory in the path of the source file written out; `job` takes the path as it is. -/
def settingsPath (homes : Homes) (cwd : Location) (o : Options) : Except Escape Path :=
  match o.config with
  | some c => .ok (Path.ofString c)
  | none => do
    let input ← ((Path.ofString o.input).expandHome homes).mapError .home
    if input.hasNul then .error (.place .nulInName)
    else .ok (Path.absolute (input.normal cwd)).parent

/-- The wording of a fault that ends a run. -/
def Escape.message : Escape → String
  | .place f => f.message
  | .home f => f.message
  | .settings f => f.message
  | .job f => f.message

/-- The files that are looked at for settings. -/
def settingsFiles (homes : Homes) (cwd : Location) (o : Options) : List Path :=
  match settingsPath homes cwd o with
  | .ok p =>
    match p.expandHome homes with
    | .ok p => [p, p.join (Path.ofString Settings.fileName)]
    | .error _ => []
  | .error _ => []

/-- The log file of a run. -/
def logFile? (o : Options) (s : Settings) : Option Path :=
  (o.logFile.map Path.ofString) <|> s.logFile

/-- The files that are looked at once the settings are known. -/
def workFiles (o : Options) (s : Settings) : List Path :=
  let job := job o s
  let output :=
    match Job.resolveOutput job.input job.output with
    | .ok (some p) => [p]
    | _ => []
  job.input :: output ++ (logFile? o s).toList

/-- A message on the console and an exit code. -/
def leave (code : Nat) (message : String) : Action Escape Nat := do
  Action.change (World.printError message)
  return code

/-- The end of a run whose job failed: a fault of usage, a file that cannot be opened or a missing
parser is reported. -/
def leaveJob (f : JobFault) : Action Escape Nat :=
  match f with
  | .usage u => leave 1 (u.message ++ "\nUse --help for usage.\n")
  | .file .nulInName => throw (.job f)
  | .file e => leave 1 ("interface-docs failed: " ++ e.message ++ "\n")
  | .parser e => leave 1 ("interface-docs failed: " ++ e.message ++ "\n")
  | _ => throw (.job f)

/-- The journal set up (`Action.setUpJournal`) and the job run (`Job.run`). -/
def work (parser : Parser) (o : Options) (s : Settings) : Action JobFault Outcome := do
  (Action.setUpJournal o.verbose (logFile? o s)).adapt .file
  (job o s).run parser

/-- The job of a run, once the settings are known. -/
def finish (parser : Parser) (o : Options) (s : Settings) : Action Escape Nat := fun w =>
  match work parser o s w with
  | (.ok _, w) => (.ok 0, w)
  | (.error f, w) => leaveJob f w

/-- A run of the program: `Options.parse`, `settingsPath`, `Settings.load` and `finish`. It gives the exit
code, or the fault that ends it. -/
def run (homes : Homes) (yaml : Yaml.Loader) (parser : Parser) (argv : List String) :
    Action Escape Nat :=
  match Options.parse argv with
  | .error .help => do
    Action.change (World.print help)
    return 0
  | .error (.refused f) => leave 2 (usage ++ "interface-docs: error: " ++ f.message ++ "\n")
  | .ok o => do
    let path ← Action.look fun w => settingsPath homes w.cwd o
    let settings ← Action.look fun w => .ok (Settings.load homes yaml w.files w.cwd path)
    match settings with
    | .ok s => finish parser o s
    | .error f => if f.isOfFile then leave 1 (f.message ++ "\n") else throw (.settings f)

end TypeAtlas.CommandLine
