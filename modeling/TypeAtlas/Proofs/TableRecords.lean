import Mathlib.Data.List.DropRight
import Mathlib.Data.List.Forall2
import TypeAtlas.Table

/-! # Tables as records

The lines of a table (`Table.text`) are records of one length, and a column starts at the same place in
each of them. So a table can be read back by counting alone, whatever its cells hold: bars, dashes and
line feeds in them are not looked at.

* `Table.columnWidth`, `Table.columnStart`, `Table.recordLength`: where the cells of a table are.
* `Table.IsRecords`: texts that are the records of a table.
* `Table.read`: the rows of a table with given headers. The widths of its columns are read from the
  first record, where the headers are known.

Main statements: `Table.read_text`, `Table.records_exact`. -/

namespace TypeAtlas.Table

/-! ## Where cells are -/

/-- The length of the longest cell of a column, its header included. -/
def columnWidth (headers : List String) (rows : List (List String)) (j : Nat) : Nat :=
  (rows.map fun row => (row.getD j "").length).foldr max (headers.getD j "").length

/-- The widths of all columns. -/
def columnWidths (headers : List String) (rows : List (List String)) : List Nat :=
  (List.range headers.length).map (columnWidth headers rows)

/-- The place in a record where a column starts. Two characters stand before the first column, and
three between a column and the next. -/
def columnStart : List Nat → Nat → Nat
  | w :: ws, j + 1 => w + 3 + columnStart ws j
  | _, _ => 2

/-- The length of a record. Without columns there are still the bars. -/
def recordLength (ws : List Nat) : Nat := max 5 (columnStart ws ws.length)

/-- A row has a cell for each column, and no cell is wider than its column. -/
def Fits (ws : List Nat) (row : List String) : Prop :=
  List.Forall₂ (fun cell w => cell.length ≤ w) row ws

/-- The rows of a table in the order of its records: the headers, the dashes, the rows. -/
def grid (headers : List String) (rows : List (List String)) : List (List String) :=
  headers :: (columnWidths headers rows).map (fun w => String.ofList (List.replicate w '-')) :: rows

/-- Texts that are the records of a table. -/
structure IsRecords (headers : List String) (rows : List (List String)) (records : List String) :
    Prop where
  /-- There are two more than rows. -/
  count : records.length = 2 + rows.length
  /-- They have the same length. -/
  length_eq : ∀ r ∈ records, r.length = recordLength (columnWidths headers rows)
  /-- Every cell stands where its column starts, filled up with spaces to the width of the column. -/
  cell : ∀ (i j : Nat) (r : String) (row : List String) (cell : String), records[i]? = some r →
    (grid headers rows)[i]? = some row → row[j]? = some cell →
      (r.toList.drop (columnStart (columnWidths headers rows) j)).take (columnWidth headers rows j) =
        cell.toList ++ List.replicate (columnWidth headers rows j - cell.length) ' '

/-! ## Widths -/

/-- The greatest of some numbers, by what it is at most. -/
theorem foldr_max_le_iff {l : List Nat} {b n : Nat} :
    l.foldr max b ≤ n ↔ b ≤ n ∧ ∀ x ∈ l, x ≤ n := by
  induction l with
  | nil => simp
  | cons x l ih =>
    rw [List.foldr_cons, Nat.max_le, ih, List.forall_mem_cons]
    exact and_left_comm

/-- A number that takes part from the start can take part later. -/
theorem foldr_max_max (l : List Nat) (b x : Nat) : l.foldr max (max b x) = max x (l.foldr max b) := by
  induction l with
  | nil => exact Nat.max_comm b x
  | cons y l ih =>
    rw [List.foldr_cons, List.foldr_cons, ih]
    omega

section

variable {headers row : List String} {rows : List (List String)}

/-- The widths after all rows, by column. -/
theorem getElem?_widths {least : List Nat} (hrows : ∀ row ∈ rows, row.length = least.length) (j : Nat) :
    (widths least rows)[j]? =
      least[j]?.map ((rows.map fun row => (row.getD j "").length).foldr max) := by
  induction rows generalizing least with
  | nil => simp [widths]
  | cons row rows ih =>
    have hrow : row.length = least.length := hrows row List.mem_cons_self
    have hstep : widths least (row :: rows) =
        widths (List.zipWith (fun w cell => max w cell.length) least row) rows := rfl
    have hrest : ∀ row' ∈ rows, row'.length =
        (List.zipWith (fun w cell => max w cell.length) least row).length := by
      intro row' hrow'
      rw [hrows row' (List.mem_cons_of_mem row hrow'), List.length_zipWith, hrow, Nat.min_self]
    -- the width so far takes the cell of this row in, and the other rows come after it
    rw [hstep, ih hrest, List.getElem?_zipWith]
    by_cases hj : j < least.length
    · have hj' : j < row.length := by omega
      simp [hj, hj', foldr_max_max]
    · simp [hj]

/-- The widths that are computed row by row are the widths of the columns. -/
theorem widths_eq_columnWidths (hrows : ∀ row ∈ rows, row.length = headers.length) :
    widths (headers.map String.length) rows = columnWidths headers rows := by
  apply List.ext_getElem?
  intro j
  rw [getElem?_widths (by simpa using hrows), columnWidths]
  by_cases hj : j < headers.length
  · simp [hj, columnWidth]
  · simp [hj]

/-- No cell is wider than its column. -/
theorem length_le_columnWidth (hrow : row ∈ headers :: rows) (j : Nat) :
    (row.getD j "").length ≤ columnWidth headers rows j := by
  have hmax := foldr_max_le_iff.1 (Nat.le_refl (columnWidth headers rows j))
  rcases List.mem_cons.1 hrow with rfl | hrow
  · exact hmax.1
  · exact hmax.2 _ (List.mem_map.2 ⟨row, hrow, rfl⟩)

/-- The headers and the rows fit. -/
theorem fits_of_mem (hrow : row ∈ headers :: rows) (hlength : row.length = headers.length) :
    Fits (columnWidths headers rows) row := by
  rw [Fits, List.forall₂_iff_get]
  refine ⟨by simp [columnWidths, hlength], ?_⟩
  intro j hj hj'
  simpa [columnWidths, hj] using length_le_columnWidth hrow j

/-- The dashes fit. -/
theorem fits_dashes (ws : List Nat) :
    Fits ws (ws.map fun w => String.ofList (List.replicate w '-')) := by
  induction ws with
  | nil => exact .nil
  | cons w ws ih => exact .cons (by simp) ih

end

/-! ## Records -/

section

variable {ws : List Nat} {row : List String}

/-- The characters of a cell that is filled up. -/
theorem toList_pad (cell : String) (w : Nat) :
    (pad cell w).toList = cell.toList ++ List.replicate (w - cell.length) ' ' := by
  rw [pad, String.toList_append, String.toList_ofList]

/-- Filled up, a cell is as wide as its column. -/
theorem length_toList_pad {cell : String} {w : Nat} (h : cell.length ≤ w) :
    (pad cell w).toList.length = w := by
  rw [toList_pad, List.length_append, List.length_replicate, String.length_toList]
  omega

/-- What stands in a record behind the first bar: every cell with a space before it, a space after it
and a bar. -/
def boxes (ws : List Nat) (row : List String) : List Char :=
  (List.zipWith pad row ws).flatMap fun cell => ' ' :: cell.toList ++ [' ', '|']

/-- The box of the first cell stands before the others. -/
theorem boxes_cons (w : Nat) (ws : List Nat) (cell : String) (row : List String) :
    boxes (w :: ws) (cell :: row) = ' ' :: (pad cell w).toList ++ ' ' :: '|' :: boxes ws row := by
  simp [boxes]

/-- Bars between texts are bars behind each of them, but for the last. -/
theorem intercalate_eq_flatMap {ps : List (List Char)} (hne : ps ≠ []) :
    ' ' :: [' ', '|', ' '].intercalate ps ++ [' ', '|'] =
      ps.flatMap fun p => ' ' :: p ++ [' ', '|'] := by
  induction ps with
  | nil => exact absurd rfl hne
  | cons p ps ih =>
    cases ps with
    | nil => simp
    | cons q ps =>
      rw [List.intercalate_cons_cons, List.flatMap_cons, ← ih (by simp)]
      simp

/-- The characters of a record with columns. -/
theorem toList_line (hlength : row.length = ws.length) (hne : row ≠ []) :
    (line ws row).toList = '|' :: boxes ws row ++ ['\n'] := by
  have hpadded : (List.zipWith pad row ws).map String.toList ≠ [] := by
    rw [← List.length_pos_iff_ne_nil, List.length_map, List.length_zipWith, ← hlength, Nat.min_self]
    exact List.length_pos_iff_ne_nil.2 hne
  have hboxes : boxes ws row = ' ' :: [' ', '|', ' '].intercalate
      ((List.zipWith pad row ws).map String.toList) ++ [' ', '|'] := by
    rw [intercalate_eq_flatMap hpadded, List.flatMap_map, boxes]
  rw [hboxes, line, String.toList_append, String.toList_append, String.toList_intercalate]
  simp

/-- Two characters stand before every column. -/
theorem two_le_columnStart (ws : List Nat) (j : Nat) : 2 ≤ columnStart ws j := by
  fun_cases columnStart ws j <;> omega

/-- The boxes of a row are as long as the widths say. -/
theorem length_boxes (h : Fits ws row) : (boxes ws row).length + 2 = columnStart ws ws.length := by
  induction h with
  | nil => rfl
  | cons hcell _ ih =>
    rw [boxes_cons, List.length_cons, columnStart]
    simp only [List.length_cons, List.length_append, length_toList_pad hcell]
    omega

/-- **Records have the same length**, which only depends on the widths. -/
theorem length_line (h : Fits ws row) : (line ws row).length = recordLength ws := by
  by_cases hne : row = []
  · -- without columns the bars of both ends stand alone
    subst hne
    cases h
    rfl
  · have hboxes := length_boxes h
    have hbars : 5 ≤ columnStart ws ws.length := by
      cases h with
      | nil => exact absurd rfl hne
      | @cons _ w _ ws =>
        have htwo := two_le_columnStart ws ws.length
        rw [List.length_cons, columnStart]
        omega
    rw [← String.length_toList, toList_line h.length_eq hne, recordLength]
    simp only [List.length_cons, List.length_append, List.length_nil]
    omega

/-- A column starts at the same place among the boxes of every row. The character before them plays no
part; for all boxes but the first it is the bar of the box before. -/
theorem take_drop_boxes (h : Fits ws row) {j w : Nat} {cell : String} (hcell : row[j]? = some cell)
    (hw : ws[j]? = some w) (bar : Char) (rest : List Char) :
    ((bar :: boxes ws row ++ rest).drop (columnStart ws j)).take w = (pad cell w).toList := by
  induction h generalizing j bar with
  | nil => cases hcell
  | @cons first w' row ws hle hrest ih =>
    have hlength := length_toList_pad hle
    rw [boxes_cons]
    cases j with
    | zero =>
      obtain rfl := Option.some.inj hcell
      obtain rfl := Option.some.inj hw
      simp [columnStart, hlength]
    | succ j =>
      have hnext : (bar :: (' ' :: (pad first w').toList ++ ' ' :: '|' :: boxes ws row) ++ rest).drop
          (w' + 3) = '|' :: boxes ws row ++ rest := by
        simp [List.drop_append, hlength]
      rw [columnStart, ← List.drop_drop, hnext]
      exact ih hcell hw '|'

/-- **Cells stand where their columns start**, filled up with spaces. -/
theorem take_drop_line (h : Fits ws row) {j w : Nat} {cell : String} (hcell : row[j]? = some cell)
    (hw : ws[j]? = some w) :
    ((line ws row).toList.drop (columnStart ws j)).take w =
      cell.toList ++ List.replicate (w - cell.length) ' ' := by
  have hne : row ≠ [] := by
    rintro rfl
    cases hcell
  rw [toList_line h.length_eq hne, take_drop_boxes h hcell hw, toList_pad]

end

/-- The records of a table. -/
def records (headers : List String) (rows : List (List String)) : List String :=
  (grid headers rows).map (line (columnWidths headers rows))

section

variable {headers : List String} {rows : List (List String)}

/-- A table is made of its records. -/
theorem text_eq_join (hrows : ∀ row ∈ rows, row.length = headers.length) :
    text headers rows = String.join (records headers rows) := by
  rw [text, widths_eq_columnWidths hrows]
  rfl

/-- All rows of a table fit, the dashes among them. -/
theorem fits_of_mem_grid (hrows : ∀ row ∈ rows, row.length = headers.length) :
    ∀ row ∈ grid headers rows, Fits (columnWidths headers rows) row := by
  intro row hrow
  simp only [grid, List.mem_cons] at hrow
  rcases hrow with rfl | rfl | hrow
  · exact fits_of_mem List.mem_cons_self rfl
  · exact fits_dashes _
  · exact fits_of_mem (List.mem_cons_of_mem headers hrow) (hrows row hrow)

/-- **The records of a table** are of one length, with every column at one place. -/
theorem isRecords_records (hrows : ∀ row ∈ rows, row.length = headers.length) :
    IsRecords headers rows (records headers rows) where
  count := by
    simp only [records, grid, List.map_cons, List.length_cons, List.length_map]
    omega
  length_eq := by
    intro r hr
    obtain ⟨row, hrow, rfl⟩ := List.mem_map.1 hr
    exact length_line (fits_of_mem_grid hrows row hrow)
  cell := by
    intro i j r row cell hr hrow hcell
    rw [records, List.getElem?_map, hrow] at hr
    obtain rfl := Option.some.inj hr
    have hfits := fits_of_mem_grid hrows row (List.mem_of_getElem? hrow)
    have hj : j < headers.length := by
      have hlt := (List.getElem?_eq_some_iff.1 hcell).1
      rw [hfits.length_eq, columnWidths, List.length_map, List.length_range] at hlt
      exact hlt
    exact take_drop_line hfits hcell (by simp [columnWidths, hj])

end

/-! ## Reading a table back -/

/-- The widths of columns, from the boxes of known headers. The spaces behind a header reach up to the
next bar, and the last of them is outside of the column. -/
def headerWidths : List String → List Char → List Nat
  | [], _ => []
  | header :: headers, s =>
    let gap := ((s.drop (header.length + 1)).takeWhile (· == ' ')).length
    (header.length + gap - 1) :: headerWidths headers (s.drop (header.length + gap + 2))

/-- The cells in the boxes of columns of known widths, without the spaces behind them. -/
def cells : List Nat → List Char → List String
  | [], _ => []
  | w :: ws, s =>
    String.ofList (((s.drop 1).take w).rdropWhile (· == ' ')) :: cells ws (s.drop (w + 3))

/-- The first `k` pieces of `n` characters. -/
def pieces (n : Nat) : (k : Nat) → List Char → List (List Char)
  | 0, _ => []
  | k + 1, s => s.take n :: pieces n k (s.drop n)

/-- The rows of a table with given headers. -/
def read (headers : List String) (table : String) : List (List String) :=
  let ws := headerWidths headers (table.toList.drop 1)
  let n := recordLength ws
  ((pieces n (table.length / n) table.toList).drop 2).map fun record => cells ws (record.drop 1)

/-- A cell that does not end with a space. -/
def EndsInText (cell : String) : Prop := cell.toList.getLast? ≠ some ' '

instance (cell : String) : Decidable (EndsInText cell) := inferInstanceAs (Decidable (_ ≠ _))

section

variable {ws : List Nat} {row headers : List String} {rows : List (List String)}

/-- Behind the box of the first cell are the others. -/
theorem drop_boxes {cell : String} {w : Nat} (hle : cell.length ≤ w) (rest : List Char) :
    (boxes (w :: ws) (cell :: row) ++ rest).drop (w + 3) = boxes ws row ++ rest := by
  rw [boxes_cons]
  simp [List.drop_append, length_toList_pad hle]

/-- The widths of columns can be seen at their headers, whatever these hold. -/
theorem headerWidths_boxes (h : Fits ws headers) (rest : List Char) :
    headerWidths headers (boxes ws headers ++ rest) = ws := by
  induction h with
  | nil => rfl
  | @cons header w headers ws hle hrest ih =>
    have hlength : header.toList.length = header.length := String.length_toList
    -- the spaces that fill up the header, and the one before the bar
    have hspaces : ((boxes (w :: ws) (header :: headers) ++ rest).drop (header.length + 1)).takeWhile
        (· == ' ') = List.replicate (w - header.length) ' ' ++ [' '] := by
      rw [boxes_cons, toList_pad]
      simp [hlength]
    have hgap : header.length + (w - header.length + 1) - 1 = w := by omega
    have hnext : header.length + (w - header.length + 1) + 2 = w + 3 := by omega
    simp only [headerWidths, hspaces, List.length_append, List.length_replicate, List.length_singleton,
      hgap, hnext, drop_boxes hle, ih]

/-- A cell that ends in text is what is left without spaces. -/
theorem rdropWhile_pad {cell : String} (h : EndsInText cell) (w : Nat) :
    (pad cell w).toList.rdropWhile (· == ' ') = cell.toList := by
  rw [toList_pad]
  induction w - cell.length with
  | zero =>
    rw [List.replicate_zero, List.append_nil, List.rdropWhile_eq_self_iff]
    intro hne hlast
    exact h (by rw [List.getLast?_eq_some_getLast hne, eq_of_beq hlast])
  | succ k ih =>
    rw [List.replicate_succ', ← List.append_assoc, List.rdropWhile_concat_pos _ _ _ (by rfl), ih]

/-- The cells of a row are read from its boxes. -/
theorem cells_boxes (h : Fits ws row) (htext : ∀ cell ∈ row, EndsInText cell) (rest : List Char) :
    cells ws (boxes ws row ++ rest) = row := by
  induction h with
  | nil => rfl
  | @cons cell w row ws hle hrest ih =>
    have hcell : EndsInText cell := htext cell List.mem_cons_self
    have hrow : ∀ cell' ∈ row, EndsInText cell' := fun cell' h => htext cell' (List.mem_cons_of_mem cell h)
    have hbox : ((boxes (w :: ws) (cell :: row) ++ rest).drop 1).take w = (pad cell w).toList := by
      rw [boxes_cons]
      simp [length_toList_pad hle]
    rw [cells, hbox, rdropWhile_pad hcell, String.ofList_toList, drop_boxes hle, ih hrow]

/-- The widths of columns, read from a record with the headers. -/
theorem headerWidths_line (h : Fits ws headers) (rest : List Char) :
    headerWidths headers (((line ws headers).toList ++ rest).drop 1) = ws := by
  by_cases hne : headers = []
  · subst hne
    cases h
    rfl
  · rw [toList_line h.length_eq hne, List.cons_append, List.cons_append, List.drop_succ_cons,
      List.drop_zero, List.append_assoc, headerWidths_boxes h]

/-- The cells of a row, read from its record. -/
theorem cells_line (h : Fits ws row) (htext : ∀ cell ∈ row, EndsInText cell) :
    cells ws ((line ws row).toList.drop 1) = row := by
  by_cases hne : row = []
  · subst hne
    cases h
    rfl
  · rw [toList_line h.length_eq hne, List.cons_append, List.drop_succ_cons, List.drop_zero,
      cells_boxes h htext]

/-- Texts of one length, joined, are cut apart again. -/
theorem pieces_flatten {n : Nat} {ss : List (List Char)} (h : ∀ s ∈ ss, s.length = n) :
    pieces n ss.length ss.flatten = ss := by
  induction ss with
  | nil => rfl
  | cons s ss ih =>
    have hs : s.length = n := h s List.mem_cons_self
    have hrest : ∀ s' ∈ ss, s'.length = n := fun s' hs' => h s' (List.mem_cons_of_mem s hs')
    rw [List.flatten_cons, List.length_cons, pieces, List.take_left' hs, List.drop_left' hs, ih hrest]

/-- **A table is read back.** Cells may hold anything, as long as they do not end with a space. -/
theorem read_text (hrows : ∀ row ∈ rows, row.length = headers.length)
    (htext : ∀ row ∈ rows, ∀ cell ∈ row, EndsInText cell) : read headers (text headers rows) = rows := by
  have hfits := fits_of_mem_grid hrows
  have hrecords := isRecords_records hrows
  have hchars : (text headers rows).toList = ((records headers rows).map String.toList).flatten := by
    rw [text_eq_join hrows, String.toList_join, List.flatMap_def]
  have hwidths : headerWidths headers ((text headers rows).toList.drop 1) = columnWidths headers rows := by
    rw [hchars]
    exact headerWidths_line (hfits headers List.mem_cons_self) _
  have hlengths : ∀ s ∈ (records headers rows).map String.toList,
      s.length = recordLength (columnWidths headers rows) := by
    intro s hs
    obtain ⟨r, hr, rfl⟩ := List.mem_map.1 hs
    rw [String.length_toList, hrecords.length_eq r hr]
  -- how many records there are is told by the length of the table
  have hcount : (text headers rows).length / recordLength (columnWidths headers rows) =
      ((records headers rows).map String.toList).length := by
    have hpos : 0 < recordLength (columnWidths headers rows) := by
      rw [recordLength]
      omega
    rw [← String.length_toList, hchars, List.length_flatten, List.map_eq_replicate_iff.2 hlengths,
      List.sum_replicate_nat, Nat.mul_div_cancel _ hpos]
  have hcells : rows.map (fun row => cells (columnWidths headers rows)
      ((line (columnWidths headers rows) row).toList.drop 1)) = rows.map id := by
    apply List.map_congr_left
    intro row hrow
    exact cells_line (hfits row (by simp [grid, hrow])) (htext row hrow)
  rw [read, hwidths, hcount, hchars, pieces_flatten hlengths, records, grid]
  simp only [List.map_cons, List.drop_succ_cons, List.drop_zero, List.map_map]
  exact hcells.trans (List.map_id rows)

end

/-! ## The table as a whole -/

section

variable {headers : List String} {rows : List (List String)}

/-- A table is rendered when every row has a cell for each header. -/
theorem render_eq_ok_iff {table : String} :
    render headers rows = .ok table ↔
      (∀ row ∈ rows, row.length = headers.length) ∧ text headers rows = table := by
  rw [render, fault?]
  cases hfind : rows.find? fun row => row.length ≠ headers.length with
  | none =>
    have hrows : ∀ row ∈ rows, row.length = headers.length := by simpa using hfind
    constructor
    · intro h
      cases h
      exact ⟨hrows, rfl⟩
    · rintro ⟨-, rfl⟩
      rfl
  | some row =>
    have hno : row.length ≠ headers.length := by simpa using List.find?_some hfind
    constructor
    · intro h
      cases h
    · rintro ⟨hrows, -⟩
      exact absurd (hrows row (List.mem_of_find?_eq_some hfind)) hno

/-- A table is refused for the first row that has another number of cells. -/
theorem render_of_first {before after : List (List String)} {row : List String}
    (hbefore : ∀ row' ∈ before, row'.length = headers.length) (hrow : row.length ≠ headers.length) :
    render headers (before ++ row :: after) = .error ⟨headers.length, row.length⟩ := by
  have hfind : (before ++ row :: after).find? (fun row => row.length ≠ headers.length) = some row := by
    rw [List.find?_eq_some_iff_append]
    exact ⟨by simpa using hrow, before, after, rfl, by simpa using hbefore⟩
  rw [render, fault?, hfind]
  rfl

/-- A table is refused exactly when a row has another number of cells. -/
theorem exists_render_eq_error_iff :
    (∃ f, render headers rows = .error f) ↔ ∃ row ∈ rows, row.length ≠ headers.length := by
  constructor
  · rintro ⟨f, hf⟩
    by_contra hall
    have hrows : ∀ row ∈ rows, row.length = headers.length := by simpa using hall
    rw [render_eq_ok_iff.2 ⟨hrows, rfl⟩] at hf
    cases hf
  · rintro ⟨row, hrow, hno⟩
    cases hrender : render headers rows with
    | ok table => exact absurd ((render_eq_ok_iff.1 hrender).1 row hrow) hno
    | error f => exact ⟨f, rfl⟩

end

/-- **Tables are records that can be read back.** A table is refused exactly when a row has another
number of cells than there are headers, and the message tells the number of the first such row. All
other tables are made of two records more than there are rows, of one length and with every column at
one place. Two tables with the same headers that look the same have the same rows, if no cell ends with
a space, whatever else the cells hold. -/
theorem records_exact (headers : List String) (rows : List (List String)) :
    ((∃ f, render headers rows = .error f) ↔ ∃ row ∈ rows, row.length ≠ headers.length) ∧
    (∀ before row after, rows = before ++ row :: after →
      (∀ row' ∈ before, row'.length = headers.length) → row.length ≠ headers.length →
        ∃ f, render headers rows = .error f ∧
          f.message = "Expected " ++ toString headers.length ++ " cells, got " ++ toString row.length) ∧
    ((∀ row ∈ rows, row.length = headers.length) →
      ∃ lines, render headers rows = .ok (String.join lines) ∧ IsRecords headers rows lines) ∧
    (∀ rows' table, (∀ row ∈ rows, ∀ cell ∈ row, EndsInText cell) →
      (∀ row ∈ rows', ∀ cell ∈ row, EndsInText cell) →
      render headers rows = .ok table → render headers rows' = .ok table → rows = rows') := by
  refine ⟨exists_render_eq_error_iff, ?_, ?_, ?_⟩
  · rintro before row after rfl hbefore hrow
    exact ⟨_, render_of_first hbefore hrow, rfl⟩
  · intro hrows
    exact ⟨records headers rows, render_eq_ok_iff.2 ⟨hrows, text_eq_join hrows⟩, isRecords_records hrows⟩
  · intro rows' table htext htext' htable htable'
    obtain ⟨hrows, htable⟩ := render_eq_ok_iff.1 htable
    obtain ⟨hrows', htable'⟩ := render_eq_ok_iff.1 htable'
    calc rows = read headers (text headers rows) := (read_text hrows htext).symm
      _ = read headers (text headers rows') := by rw [htable, htable']
      _ = rows' := read_text hrows' htext'

/-- Rows with a bar between spaces, with dashes, with a line that looks like a record, and with nothing. -/
def deceptiveRows : List (List String) := [["a | b", "---"], ["", "x |\n| y"], ["-", ""]]

/-- Only these rows are rendered as they are, and with a row of one cell behind them they are refused. -/
theorem records_exact_deceptiveRows :
    (∀ row ∈ deceptiveRows, row.length = ["Name", "Type"].length) ∧
      (∀ row ∈ deceptiveRows, ∀ cell ∈ row, EndsInText cell) ∧
      (∃ lines, render ["Name", "Type"] deceptiveRows = .ok (String.join lines) ∧
        IsRecords ["Name", "Type"] deceptiveRows lines ∧
        ∀ rows, (∀ row ∈ rows, ∀ cell ∈ row, EndsInText cell) →
          render ["Name", "Type"] rows = .ok (String.join lines) → rows = deceptiveRows) ∧
      ∃ f, render ["Name", "Type"] (deceptiveRows ++ [["x"]]) = .error f ∧
        f.message = "Expected 2 cells, got 1" := by
  have hrows : ∀ row ∈ deceptiveRows, row.length = ["Name", "Type"].length := by decide
  have htext : ∀ row ∈ deceptiveRows, ∀ cell ∈ row, EndsInText cell := by decide
  obtain ⟨-, -, hrecords, hread⟩ := records_exact ["Name", "Type"] deceptiveRows
  obtain ⟨lines, hrender, hrecords⟩ := hrecords hrows
  have hrefused := (records_exact ["Name", "Type"] (deceptiveRows ++ [["x"]])).2.1 deceptiveRows ["x"] []
    rfl hrows (by decide)
  refine ⟨hrows, htext, ⟨lines, hrender, hrecords, ?_⟩, hrefused⟩
  intro rows hrows' hrender'
  exact (hread rows _ htext hrows' hrender hrender').symm

end TypeAtlas.Table
