import TypeAtlas.Linked
import TypeAtlas.Report
import TypeAtlas.Table
import TypeAtlas.Text.Lines

/-! # Pages (specification §4.5)

Linked declarations as markdown: one section each. An interface shows its properties as a table or
as an object in a preformatted block. Main definitions:

* `Format`, `Format.parse`: the two forms of a page and their names.
* `Page.table`, `Page.object`: the properties of an interface in either form.
* `Page.render`: a whole page. -/

namespace TypeAtlas

/-- How the properties of an interface are shown. -/
inductive Format where
  /-- As a table. -/
  | tables
  /-- As an object in a preformatted block. -/
  | json
  deriving DecidableEq, Repr

/-- No format has this name. -/
structure FormatFault where
  /-- The name as it was given. -/
  text : String
  deriving DecidableEq, Repr

/-- The wording of a format fault. -/
def FormatFault.message (f : FormatFault) : String := "Invalid format: " ++ f.text

namespace Format

/-- The name of a format. -/
def name : Format → String
  | .tables => "tables"
  | .json => "json"

/-- The format of a name, outer blanks and case aside. Only the letters A to Z can matter for case:
no other character has a letter of a format name as its lower case. -/
def parse (text : String) : Except FormatFault Format :=
  let lowered := String.ofList ((Text.trim text.toList).map Char.toLower)
  if lowered = "tables" || lowered = "table" then .ok .tables
  else if lowered = "json" then .ok .json
  else .error ⟨text⟩

end Format

namespace Page

/-- The columns of a table of properties. -/
def headers : List String := ["Property", "Type", "Optional", "Default", "Description", "Example"]

/-- The cells of a property. -/
def cells (p : Property LinkedShape) : List String :=
  [p.name, p.shape.markdown, if p.optional then "Yes" else "No", p.defaultText.getD "-",
    p.description.getD "", p.exampleText.getD ""]

/-- Properties as a table. -/
def table (ps : List (Property LinkedShape)) : Except Table.RowFault String :=
  Table.render headers (ps.map cells)

/-- A text that is there and not empty. -/
def given (text : Option String) : Option String := text.filter fun s => !s.isEmpty

/-- The lines of a text as comment lines. -/
def commentLines (text : String) : List String :=
  (Text.lines text.toList).map fun l => "  // " ++ String.ofList l

/-- The lines that show a property in an object. -/
def objectLines (p : Property LinkedShape) : List String :=
  ((given p.description).map commentLines).getD [] ++
    ((given p.defaultText).map fun s => "  // Defaults to: " ++ s).toList ++
    ((given p.exampleText).map fun s => "  // Example: " ++ s).toList ++
    ["  <strong>" ++ p.name ++ "</strong>" ++ (if p.optional then "?" else "") ++ ": " ++
      p.shape.html ++ ","]

/-- Properties as an object in a preformatted block. -/
def object (ps : List (Property LinkedShape)) : String :=
  String.join ((["<pre>", "\x7b"] ++ ps.flatMap objectLines ++ ["\x7d", "</pre>"]).map (· ++ "\n"))

/-- What stands in a section between its description and its example. -/
def content (format : Format) (key : String) :
    Declaration LinkedShape → Report Table.RowFault String
  | .typeAlias _ shape _ _ => pure ("Type: " ++ shape.markdown ++ "\n")
  | .interface _ ps _ _ =>
    match format with
    | .tables => do
      Report.note .render ("Generating table for " ++ key)
      .ofExcept (table ps)
    | .json => do
      Report.note .render ("Generating JSON for " ++ key)
      pure (object ps)

/-- One section: heading, description, content, example. -/
def entry (format : Format) (key : String) (d : Declaration LinkedShape) :
    Report Table.RowFault String := do
  let shown ← content format key d
  pure ("\n## " ++ key ++ "\n" ++
    ((given d.description).map (· ++ "  \n")).getD "" ++ shown ++
    ((given d.exampleText).map ("\nExample: \n" ++ ·)).getD "")

/-- The sections of a page, joined; each of them is an `entry`. -/
def render (format : Format) : LinkedDocs → Report Table.RowFault String
  | [] => pure ""
  | (key, d) :: rest => do
    let s ← entry format key d
    let ss ← render format rest
    pure (s ++ ss)

end Page

end TypeAtlas
