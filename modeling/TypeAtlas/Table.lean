/-! # Tables (specification §4.5)

Tables with bars between the columns. Each column is as wide as its widest cell, counted in
characters, and cells are filled up with spaces on the right. Main definitions: `Table.text`,
`Table.render`. -/

namespace TypeAtlas.Table

/-- A row has another number of cells than there are headers. -/
structure RowFault where
  /-- The number of headers. -/
  expected : Nat
  /-- The number of cells. -/
  found : Nat
  deriving DecidableEq, Repr

/-- The wording of a row fault. -/
def RowFault.message (f : RowFault) : String :=
  "Expected " ++ toString f.expected ++ " cells, got " ++ toString f.found

/-- The widths of the columns of rows, each at least what is given. -/
def widths (least : List Nat) (rows : List (List String)) : List Nat :=
  rows.foldl (fun ws row => List.zipWith (fun w cell => max w cell.length) ws row) least

/-- A cell filled up with spaces. -/
def pad (cell : String) (width : Nat) : String :=
  cell ++ String.ofList (List.replicate (width - cell.length) ' ')

/-- A row as a line of text. -/
def line (ws : List Nat) (row : List String) : String :=
  "| " ++ String.intercalate " | " (List.zipWith pad row ws) ++ " |\n"

/-- The first row that does not have as many cells as there are headers. -/
def fault? (headers : List String) (rows : List (List String)) : Option RowFault :=
  (rows.find? fun row => row.length ≠ headers.length).map fun row => ⟨headers.length, row.length⟩

/-- The lines of a table: the headers, a line of dashes under them, the rows. -/
def text (headers : List String) (rows : List (List String)) : String :=
  let ws := widths (headers.map String.length) rows
  let dashes := ws.map fun w => String.ofList (List.replicate w '-')
  String.join (line ws headers :: line ws dashes :: rows.map (line ws))

/-- A table, refused when a row does not have as many cells as there are headers. -/
def render (headers : List String) (rows : List (List String)) : Except RowFault String :=
  match fault? headers rows with
  | some f => .error f
  | none => .ok (text headers rows)

end TypeAtlas.Table
