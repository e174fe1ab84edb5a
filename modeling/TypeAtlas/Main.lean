import Std.Time.DateTime.Timestamp
import TypeAtlas.CommandLine
import TypeAtlas.Journal.Stamp
import TypeAtlas.Yaml.Value

/-! # The program

The files that a run looks at are read first, the run itself is computed (`CommandLine.run`), and then
what it changed is written. The parameters of a run are filled in here: `Yaml.load` reads settings
files, `Parser.typeScript` reads source texts, and home directories come from the environment and the
table of users. -/

namespace TypeAtlas.Program

/-- What stands at a location of the file system. A directory shows in the way in which it cannot be
read. -/
def entryAt (place : Location) : IO (Option Entry) := do
  try
    let bytes ← IO.FS.readBinFile (Path.absolute place).text
    return some (.file bytes.toList)
  catch
    | .inappropriateType _ 21 _ => return some .directory
    | _ => return none

/-- A tree with what stands at a path and on the way to it. -/
def gather (cwd : Location) (files : FileTree) (p : Path) : IO FileTree := do
  let parts := if p.anchor = .none then cwd ++ p.parts else p.parts
  (List.range parts.length).foldlM (fun files n => do
    let place := Path.collapse [] (parts.take (n + 1))
    match ← entryAt place with
    | some e => return Catalogue.insert place e files
    | none => return files) files

/-- The home directory of a user in a line of the table of users. -/
def homeIn? (user : String) (line : List Char) : Option Path :=
  match (Text.splitAt ':' line).map String.ofList with
  | name :: _ :: _ :: _ :: _ :: home :: _ => if name = user then some (Path.ofString home) else none
  | _ => none

/-- The home directories that the table of users has, and the own one. -/
def homesOf (own : Option String) (table : List Char) : Homes := fun user =>
  if user = "" then own.map Path.ofString else (Text.lines table).findSome? (homeIn? user)

/-- The home directories on this system. -/
def findHomes : IO Homes := do
  let table ←
    try IO.FS.readBinFile "/etc/passwd"
    catch _ => pure ⟨#[]⟩
  return homesOf (← IO.getEnv "HOME") (Text.Utf8.decodeSound table.toList)

/-- The files that a run looks at. -/
def snapshot (homes : Homes) (cwd : Location) (argv : List String) : IO FileTree := do
  let files ← gather cwd [] (Path.ofString ".")
  match CommandLine.Options.parse argv with
  | .error _ => return files
  | .ok o =>
    let files ← (CommandLine.settingsFiles homes cwd o).foldlM (gather cwd) files
    let settings :=
      match CommandLine.settingsPath homes cwd o with
      | .ok p => (Settings.load homes Yaml.load files cwd p).toOption
      | .error _ => none
    match settings with
    | some s => (CommandLine.workFiles o s).foldlM (gather cwd) files
    | none => return files

/-- What a run did to the files and to the console. -/
def commit (before : FileTree) (w : World) : IO Unit := do
  for (place, bytes) in FileTree.changes before w.files do
    IO.FS.writeBinFile (Path.absolute place).text ⟨bytes.toArray⟩
  IO.print w.stdout
  IO.eprint w.stderr

end TypeAtlas.Program

/-- One run of the program with the words of its command line. -/
def main (argv : List String) : IO UInt32 := do
  let cwd := (TypeAtlas.Path.ofString (← IO.currentDir).toString).parts
  let now ← Std.Time.Timestamp.now
  let stamp := TypeAtlas.Stamp.text now.toMillisecondsSinceUnixEpoch.val.toNat
  let homes ← TypeAtlas.Program.findHomes
  let files ← TypeAtlas.Program.snapshot homes cwd argv
  let world : TypeAtlas.World := ⟨files, cwd, .plain, stamp, "", ""⟩
  let parser := TypeAtlas.Parser.typeScript
  match TypeAtlas.CommandLine.run homes TypeAtlas.Yaml.load parser argv world with
  | (.ok code, w) =>
    TypeAtlas.Program.commit files w
    return code.toUInt32
  | (.error e, w) =>
    TypeAtlas.Program.commit files w
    IO.eprintln e.message
    return 1
