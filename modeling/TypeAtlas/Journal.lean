import TypeAtlas.FileTree
import TypeAtlas.Report
import TypeAtlas.Text.Utf8

/-! # Journals (specification §6)

Where records of the work go. Before it is set up, a journal writes warnings and worse to the console
as they are. Once set up, the console shows everything or only errors, and a log file, if there is
one, takes everything down to debugging records. Main definitions:

* `Level`, `Level.name`: how important a record is.
* `Record`: a level, the name of a logger, a message.
* `Journal.consoleText`, `Journal.fileText`: what a record adds to the console and to the log file. -/

namespace TypeAtlas

/-- How important a record is. -/
abbrev Level := Int

namespace Level

/-- For debugging. -/
def debug : Level := 10

/-- For information. -/
def info : Level := 20

/-- A warning. -/
def warning : Level := 30

/-- An error. -/
def error : Level := 40

/-- The name of a level; only five have one of their own. -/
def name (level : Level) : String :=
  if level = 10 then "DEBUG"
  else if level = 20 then "INFO"
  else if level = 30 then "WARNING"
  else if level = 40 then "ERROR"
  else if level = 50 then "CRITICAL"
  else "Level " ++ toString level

end Level

/-- The full name of a logger; without a name of its own it is the logger of the whole program. -/
def loggerName (name : Option String) : String :=
  match name with
  | none => "interface_docs"
  | some n => if n = "" then "interface_docs" else "interface_docs." ++ n

/-- A record. -/
structure Record where
  /-- How important it is. -/
  level : Level
  /-- The full name of the logger. -/
  logger : String
  /-- What it says. -/
  message : String
  deriving DecidableEq, Repr

/-- The name of the logger of a stage. -/
def Stage.loggerName : Stage → String
  | .parsing => TypeAtlas.loggerName (some "parsing")
  | .extract => TypeAtlas.loggerName (some "extract")
  | .linking => TypeAtlas.loggerName (some "linking")
  | .render => TypeAtlas.loggerName (some "render")
  | .pipeline => TypeAtlas.loggerName (some "pipeline")

/-- How important the notes of a stage are: those of a job inform, those of its parts are for
debugging. -/
def Stage.level : Stage → Level
  | .pipeline => .info
  | _ => .debug

/-- The record of an event; a diagnostic is a warning. -/
def Event.record : Event → Record
  | .note stage text => ⟨stage.level, stage.loggerName, text⟩
  | .diagnostic d => ⟨.warning, loggerName (some "diagnostics"), d.message⟩

/-- Where records go. -/
inductive Journal where
  /-- It is not set up. -/
  | plain
  /-- It is set up; the log file is at a location. -/
  | setUp (verbose : Bool) (logFile : Option Location)
  deriving DecidableEq, Repr

namespace Journal

/-- The least level that the console shows. -/
def consoleLevel (verbose : Bool) : Level := if verbose then .debug else .error

/-- The least level that a journal takes. -/
def level : Journal → Level
  | .plain => .warning
  | .setUp _ (some _) => .debug
  | .setUp verbose none => consoleLevel verbose

/-- The least levels of the console and of the log file. -/
def outlets : Journal → List Level
  | .plain => []
  | .setUp verbose none => [consoleLevel verbose]
  | .setUp verbose (some _) => [consoleLevel verbose, .debug]

/-- What a record adds to the console. -/
def consoleText (j : Journal) (r : Record) : String :=
  match j with
  | .plain => if Level.warning ≤ r.level then r.message ++ "\n" else ""
  | .setUp verbose _ =>
    if consoleLevel verbose ≤ r.level then
      "[interface-docs] " ++ r.level.name ++ " " ++ r.message ++ "\n"
    else ""

/-- What a record adds to the log file at a point in time, and where that is. -/
def fileText (j : Journal) (stamp : String) (r : Record) : Option (Location × String) :=
  match j with
  | .setUp _ (some place) =>
    if Level.debug ≤ r.level then
      some (place, stamp ++ " " ++ r.level.name ++ " " ++ r.logger ++ ": " ++ r.message ++ "\n")
    else none
  | _ => none

/-- The journal after a location and all below it were deleted: a log file there is lost. -/
def forget (place : Location) : Journal → Journal
  | .plain => .plain
  | .setUp verbose logFile => .setUp verbose (logFile.filter fun l => !place.isPrefixOf l)

end Journal

end TypeAtlas
