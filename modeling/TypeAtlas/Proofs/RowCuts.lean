import TypeAtlas.Proofs.LineSpacing
import TypeAtlas.Proofs.TableRecords

/-! # Rows cut at bars

Whoever reads a table (`Table.text`) cuts its rows at bars. What is cut out are the cells as they were
meant only if no cell holds a bar of its own.

* `Text.splitBars`: a row cut at its bars, those behind a backslash left out.
* `Table.WrittenIn`: a cell that is texts without bars, with bars between them.
* `Table.HasCells`: a row that is read as some cells.

The bars of a table stand behind spaces, so none of them is taken for an escaped one (`splitBars_part`),
and a row is read as the parts of its cells, one cell for each of them. Main statement:
`Table.hasCells_row`. -/

namespace TypeAtlas

namespace Text

/-- The parts of a text between its bars. A bar behind a backslash separates nothing. -/
def splitBars : List Char → List (List Char)
  | [] => [[]]
  | '\\' :: '|' :: r => (splitBars r).modifyHead (['\\', '|'] ++ ·)
  | c :: r => if c = '|' then [] :: splitBars r else (splitBars r).modifyHead (c :: ·)

/-- A bar at the start separates. -/
theorem splitBars_bar (r : List Char) : splitBars ('|' :: r) = [] :: splitBars r := by
  rw [splitBars]
  · rfl
  · intro r' hc
    cases hc

/-- A character that is no bar, and no backslash before one, belongs to the first part. -/
theorem splitBars_cons {c : Char} {r : List Char} (hc : c ≠ '|') (hr : r.head? ≠ some '|') :
    splitBars (c :: r) = (splitBars r).modifyHead (c :: ·) := by
  rw [splitBars]
  · exact if_neg hc
  · rintro r' - rfl
    exact hr rfl

/-- A text without bars up to a space and a bar is one part. -/
theorem splitBars_part {x : List Char} (hx : '|' ∉ x) (r : List Char) :
    splitBars (x ++ ' ' :: '|' :: r) = (x ++ [' ']) :: splitBars r := by
  induction x with
  | nil =>
    -- the bar stands behind a space, so it separates
    rw [List.nil_append, splitBars, splitBars_bar]
    · rfl
    · intro r' hc
      cases hc
  | cons c x ih =>
    rw [List.mem_cons, not_or] at hx
    have hhead : (x ++ ' ' :: '|' :: r).head? ≠ some '|' := by
      cases x with
      | nil => simp
      | cons d x =>
        intro hd
        exact hx.2 (by rw [Option.some.inj hd]; exact List.mem_cons_self)
    rw [List.cons_append, splitBars_cons (Ne.symm hx.1) hhead, ih hx.2]
    rfl

end Text

namespace Table

open Text

/-- A cell is written as texts without bars, with bars between them. -/
structure WrittenIn (cell : String) (parts : List String) : Prop where
  /-- It is these texts joined. -/
  eq : cell = " | ".intercalate parts
  /-- There is one of them at least. -/
  ne_nil : parts ≠ []
  /-- None of them holds a bar. -/
  barFree : ∀ x ∈ parts, '|' ∉ x.toList

/-- A row is read as some cells: it starts and ends with a bar, and between the bars that separate there
are the cells with blanks around them. -/
def HasCells (row : List Char) (cells : List String) : Prop :=
  ∃ parts, splitBars row = [] :: parts ++ [[]] ∧ parts.map trim = cells.map fun c => trim c.toList

/-- A cell without bars is written as itself. -/
theorem WrittenIn.single {cell : String} (h : '|' ∉ cell.toList) : WrittenIn cell [cell] where
  eq := String.intercalate_singleton.symm
  ne_nil := List.cons_ne_nil _ _
  barFree := by simpa using h

/-- A row is read as one number of cells. -/
theorem HasCells.length_eq {row : List Char} {cells cells' : List String} (h : HasCells row cells)
    (h' : HasCells row cells') : cells.length = cells'.length := by
  obtain ⟨parts, hparts, htrim⟩ := h
  obtain ⟨parts', hparts', htrim'⟩ := h'
  have hsame : parts = parts' := by simpa using hparts.symm.trans hparts'
  have hlength := congrArg List.length htrim
  have hlength' := congrArg List.length htrim'
  simp only [List.length_map] at hlength hlength'
  rw [← hlength, ← hlength', hsame]

/-- The box of a cell is cut into the parts of the cell, with blanks around them. -/
theorem splitBars_box {cell : String} {parts : List String} (h : WrittenIn cell parts) (k : Nat)
    (rest : List Char) :
    ∃ pieces, splitBars (' ' :: (cell.toList ++ List.replicate k ' ') ++ ' ' :: '|' :: rest) =
        pieces ++ splitBars rest ∧
      pieces.map trim = parts.map fun x => trim x.toList := by
  obtain ⟨rfl, hne, hparts⟩ := h
  induction parts with
  | nil => exact absurd rfl hne
  | cons x parts ih =>
    obtain ⟨hx, hrest⟩ := List.forall_mem_cons.1 hparts
    cases parts with
    | nil =>
      -- the last part reaches up to the bar of the box, and the spaces that fill it up are trimmed
      have hbar : '|' ∉ ' ' :: (x.toList ++ List.replicate k ' ') := by simp [hx]
      have hblank : allBlank (List.replicate k ' ' ++ [' ']) = true := by
        simp [allBlank, show isBlank ' ' = true from rfl]
      refine ⟨[' ' :: (x.toList ++ List.replicate k ' ') ++ [' ']], ?_, ?_⟩
      · rw [String.intercalate_singleton, splitBars_part hbar, List.singleton_append]
      · have htrim := trim_append_blank (u := [' ']) rfl hblank x.toList
        simpa using htrim
    | cons y parts =>
      -- the first part ends at the first bar, and the others are those of the rest
      obtain ⟨pieces, hpieces, htrim⟩ := ih (List.cons_ne_nil _ _) hrest
      have hbar : '|' ∉ ' ' :: x.toList := by simp [hx]
      have hsplit : ' ' :: ((" | ".intercalate (x :: y :: parts)).toList ++ List.replicate k ' ') ++
            ' ' :: '|' :: rest =
          (' ' :: x.toList) ++ ' ' :: '|' :: (' ' :: ((" | ".intercalate (y :: parts)).toList ++
            List.replicate k ' ') ++ ' ' :: '|' :: rest) := by
        rw [String.intercalate_cons_cons]
        simp
      refine ⟨(' ' :: x.toList ++ [' ']) :: pieces, ?_, ?_⟩
      · rw [hsplit, splitBars_part hbar, hpieces]
        rfl
      · rw [List.map_cons, htrim, List.map_cons]
        have htrim := trim_append_blank (u := [' ']) (v := [' ']) rfl rfl x.toList
        exact congrArg (· :: _) htrim

/-- **A row is read as the parts of its cells.** -/
theorem hasCells_row {ws : List Nat} {row : List String} {parts : List (List String)}
    (hlength : row.length = ws.length) (h : List.Forall₂ WrittenIn row parts) :
    HasCells ('|' :: boxes ws row) parts.flatten := by
  have hboxes : ∃ pieces, splitBars (boxes ws row) = pieces ++ [[]] ∧
      pieces.map trim = parts.flatten.map fun x => trim x.toList := by
    -- along the columns: the box of each cell ends with a bar, and gives the parts of the cell
    induction h generalizing ws with
    | nil => exact ⟨[], by simp [boxes, splitBars], rfl⟩
    | @cons cell first row parts hcell _ ih =>
      cases ws with
      | nil => cases hlength
      | cons w ws =>
        obtain ⟨pieces, hpieces, htrim⟩ := ih (Nat.succ.inj hlength)
        obtain ⟨firsts, hfirsts, hfirst⟩ := splitBars_box hcell (w - cell.length) (boxes ws row)
        refine ⟨firsts ++ pieces, ?_, ?_⟩
        · rw [boxes_cons, toList_pad, hfirsts, hpieces, List.append_assoc]
        · rw [List.map_append, hfirst, htrim, List.flatten_cons, List.map_append]
  obtain ⟨pieces, hpieces, htrim⟩ := hboxes
  exact ⟨pieces, by rw [splitBars_bar, hpieces, List.cons_append], htrim⟩

/-- Cells without bars are written as themselves. -/
theorem forall₂_writtenIn {row : List String} (h : ∀ x ∈ row, '|' ∉ x.toList) :
    List.Forall₂ WrittenIn row (row.map ([·])) := by
  refine List.forall₂_map_right_iff.2 (List.forall₂_same.2 ?_)
  intro x hx
  exact .single (h x hx)

/-- A row without bars in its cells is read as these cells. -/
theorem hasCells_of_barFree {ws : List Nat} {row : List String} (hlength : row.length = ws.length)
    (h : ∀ x ∈ row, '|' ∉ x.toList) : HasCells ('|' :: boxes ws row) row := by
  have hrow := hasCells_row hlength (forall₂_writtenIn h)
  rwa [← List.flatMap_def, List.flatMap_singleton'] at hrow

/-- **A row holds what its cells hold**, its bars and spaces apart. -/
theorem count_row {c : Char} (hbar : c ≠ '|') (hspace : c ≠ ' ') {ws : List Nat} {row : List String}
    (hlength : row.length = ws.length) :
    ('|' :: boxes ws row).count c = (row.flatMap String.toList).count c := by
  rw [List.count_cons_of_ne (Ne.symm hbar)]
  induction row generalizing ws with
  | nil => rfl
  | cons cell row ih =>
    cases ws with
    | nil => cases hlength
    | cons w ws =>
      have hpad : (List.replicate (w - cell.length) ' ').count c = 0 := by
        simp [List.count_replicate, Ne.symm hspace]
      have hrest := ih (Nat.succ.inj hlength)
      rw [boxes_cons, toList_pad, List.flatMap_cons]
      simp [List.count_append, hpad, hrest, Ne.symm hbar, Ne.symm hspace]

variable {headers : List String} {rows : List (List String)}

/-- The rows of a table, each ended by a line feed. -/
theorem toList_text (hne : headers ≠ []) (hrows : ∀ row ∈ rows, row.length = headers.length) :
    (text headers rows).toList = ((grid headers rows).map fun row =>
      '|' :: boxes (columnWidths headers rows) row).flatMap (· ++ ['\n']) := by
  rw [text_eq_join hrows, String.toList_join, records, List.flatMap_map, List.flatMap_map]
  apply List.flatMap_congr
  intro row hrow
  have hfits := (fits_of_mem_grid hrows row hrow).length_eq
  have hcolumns : row ≠ [] := by
    rw [← List.length_pos_iff_ne_nil, hfits, columnWidths, List.length_map, List.length_range]
    exact List.length_pos_iff_ne_nil.2 hne
  exact toList_line hfits hcolumns

end Table

end TypeAtlas
