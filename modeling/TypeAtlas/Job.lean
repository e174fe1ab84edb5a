import TypeAtlas.Parser
import TypeAtlas.World

/-! # Jobs (specification §6 and §7)

One source file to document, and where to put the page. A `Job` is checked first (`Job.check`), then the
file is read (`Job.source`) and documented (`Job.report`), and only then the page is written. Main
definitions:

* `Job`, `Outcome`, `JobFault`.
* `Job.resolveOutput`: where the page goes.
* `Job.check`: all that is known before the job starts.
* `Job.report`: the page of a source text, with notes on the progress.
* `Job.run`: the whole job. -/

namespace TypeAtlas

/-- One source file to document. -/
structure Job where
  /-- The source file. -/
  input : Path
  /-- Where to put the page; a dash is the output of the program. -/
  output : Option String
  /-- The name of the format. -/
  format : String
  /-- Whether an existing page is replaced. -/
  force : Bool
  /-- The types that are shown as they are. -/
  inlineTypes : List String
  deriving DecidableEq, Repr

/-- What a job gives. -/
structure Outcome where
  /-- The file of the page, or nothing for the output of the program. -/
  output : Option Path
  /-- The page. -/
  markdown : String
  /-- What the user should know. -/
  diagnostics : List String
  deriving DecidableEq, Repr

/-- What is wrong with a job as it was given. -/
inductive UsageFault where
  /-- No format has the given name. -/
  | format (f : FormatFault)
  /-- The source file has another suffix. -/
  | inputSuffix
  /-- There is no such source file. -/
  | inputMissing (path : String)
  /-- The file of the page has another suffix. -/
  | outputSuffix
  /-- The page would replace a file. -/
  | outputExists
  deriving DecidableEq, Repr

/-- The wording of a usage fault. -/
def UsageFault.message : UsageFault → String
  | .format f => f.message
  | .inputSuffix => "Input file must be a .ts file"
  | .inputMissing path => "Input file not found: " ++ path
  | .outputSuffix => "Output file must be a .md file or stdout (-)"
  | .outputExists => "Output file already exists. Use -f to overwrite"

/-- Why a job fails. -/
inductive JobFault where
  /-- It is given wrongly. -/
  | usage (f : UsageFault)
  /-- The source file has no name from which to make another. -/
  | name (f : EmptyName)
  /-- A file cannot be opened. -/
  | file (f : FileFault)
  /-- The source file is not in UTF-8. -/
  | decoding (f : Text.Utf8.Fault)
  /-- There is no parser. -/
  | parser (f : ParserMissing)
  /-- There is no page. -/
  | document (f : DocumentFault)
  deriving DecidableEq, Repr

/-- The wording of a job fault. -/
def JobFault.message : JobFault → String
  | .usage f => f.message
  | .name f => f.message
  | .file f => f.message
  | .decoding f => f.message
  | .parser f => f.message
  | .document f => f.message

namespace Job

/-- What stands for the output of the program in place of a file. -/
def dash : String := "-"

/-- The file of the page, next to the source file if none is given; nothing for the output of the
program. -/
def resolveOutput (input : Path) (output : Option String) : Except JobFault (Option Path) :=
  match output with
  | none => beside
  | some o =>
    if o = dash then .ok none
    else if o = "" then beside
    else if ".md".toList.isSuffixOf o.toList then .ok (some (Path.ofString o))
    else .error (.usage .outputSuffix)
where
  /-- The file next to the source file. -/
  beside : Except JobFault (Option Path) :=
    match input.withSuffix ".md" with
    | .ok p => .ok (some p)
    | .error e => .error (.name e)

/-- The source file has the right suffix and is there. -/
def checkInput (files : FileTree) (cwd : Location) (input : Path) : Except JobFault Unit := do
  if input.suffix ≠ ".ts" then throw (.usage .inputSuffix)
  let there ← (files.isFile cwd input).mapError .file
  if !there then throw (.usage (.inputMissing input.text))

/-- Everything about a job that is known before it starts: its format (`Format.parse`), its source file
(`checkInput`), and the file of its page (`resolveOutput`), which is given. -/
def check (files : FileTree) (cwd : Location) (job : Job) : Except JobFault (Option Path) := do
  let _ ← (Format.parse job.format).mapError (.usage ∘ .format)
  checkInput files cwd job.input
  let output ← resolveOutput job.input job.output
  match output with
  | none => return none
  | some p =>
    let there ← (files.exists? cwd p).mapError .file
    if there && !job.force then throw (.usage .outputExists)
    return some p

/-- The text of a source file (`Text.Utf8.decode`), line breaks unified (`Text.unifyBreaks`). -/
def source (files : FileTree) (cwd : Location) (job : Job) : Except JobFault (List Char) := do
  let bytes ← (files.read cwd job.input).mapError .file
  let text ← (Text.Utf8.decode bytes).mapError .decoding
  return Text.unifyBreaks text

/-- The name under which the format of a job is passed on: its proper name, if it is one of a format. -/
def formatName (job : Job) : String :=
  match Format.parse job.format with
  | .ok format => format.name
  | .error _ => job.format

/-- The page of a source text, in the stages of `generate` and with notes on the progress. -/
def report (parser : Parser) (job : Job) (source : List Char) : Report JobFault String := do
  Report.note .pipeline "Parsing file"
  let statements ← (parser source).mapError .parser
  Report.note .pipeline "Extracting documentation"
  let ds ← (Declaration.extract statements).mapError (.document ∘ .malformedType)
  Report.note .pipeline "Resolving links"
  let docs ← (linkDeclarations job.inlineTypes ds).mapError .document
  Report.note .pipeline "Generating markdown"
  let page ← (renderPage job.formatName docs).mapError .document
  Report.note .pipeline "Writing documentation"
  return page

/-- A record of how far a job is. -/
def progress (level : Level) (text : String) : Record := ⟨level, Stage.pipeline.loggerName, text⟩

/-- A job from start to end: its `check`, its `source` text, the `report` on it, and the page put where
it belongs. -/
def run (parser : Parser) (job : Job) : Action JobFault Outcome := do
  let output ← Action.look fun w => check w.files w.cwd job
  Action.record (progress .info ("Reading file " ++ job.input.text))
  let text ← Action.look fun w => source w.files w.cwd job
  let r := report parser job text
  let page ← Action.tell r
  match output with
  | none => Action.change (World.print page)
  | some p =>
    (Action.writeFile p page).adapt .file
    Action.record (progress .info ("Wrote documentation to " ++ p.text))
  Action.record (progress .debug ("Emitted " ++ toString r.messages.length ++ " diagnostics"))
  return ⟨output, page, r.messages⟩

end Job

end TypeAtlas
