import TypeAtlas.Proofs.ObjectLines
import TypeAtlas.Proofs.RowCuts
import TypeAtlas.Proofs.Wording

/-! # The cells of a table

A table of properties (`Page.table`), read by its lines and by the bars in its rows.

* `Page.Plain`: a property whose name and leaves are without bars and line feeds, and whose documentation is
  without bars.
* `Page.lineBreaks`: the line feeds in the documentation of properties.
* `Page.ReadsAs`: what the lines and the rows of a table are read as.

Nothing is escaped in a table. So each bar between the members of a type makes one cell more
(`Page.Plain.hasCells`), and each line feed in a documentation text makes one line more
(`Page.length_lines_rows`). Main statement: `table_read_by_bars`. -/

namespace TypeAtlas

open Text

/-! ## Tables of properties -/

/-- A text has one line more than line feeds. -/
theorem Text.length_lines (s : List Char) : (lines s).length = s.count '\n' + 1 := by
  induction s with
  | nil => rfl
  | cons c s ih =>
    rw [lines, splitAt, List.length_cons] at ih
    rw [lines, splitAt, cut, List.count_cons]
    by_cases hc : c = '\n'
    · simp [hc, ih]
    · simp [hc, ih]

/-- Lines of dashes hold nothing but dashes. -/
theorem Table.freeOf_dashes {cs : List Char} (hcs : '-' ∉ cs) (w : Nat) :
    FreeOf cs (String.ofList (List.replicate w '-')) := by
  intro c hc hmem
  rw [String.toList_ofList] at hmem
  rw [List.eq_of_mem_replicate hmem] at hc
  exact hcs hc

namespace Page

/-- The cells of a property behind its type. -/
def docCells (p : Property LinkedShape) : List String :=
  [if p.optional then "Yes" else "No", p.defaultText.getD "-", p.description.getD "",
    p.exampleText.getD ""]

/-- The line feeds in the documentation of properties. -/
def lineBreaks (ps : List (Property LinkedShape)) : Nat :=
  (ps.flatMap fun p => p.remarks.flatMap String.toList).count '\n'

/-- The cells of a property hold what its documentation holds, if its name and its type do not. -/
theorem count_cells {c : Char} (hc : ∀ x ∈ ["Yes", "No", "-"], FreeOf [c] x)
    {p : Property LinkedShape} (hname : c ∉ p.name.toList) (htype : c ∉ p.shape.markdown.toList) :
    ((cells p).flatMap String.toList).count c = (p.remarks.flatMap String.toList).count c := by
  have hcount {x : String} (hx : x ∈ ["Yes", "No", "-"]) : x.toList.count c = 0 :=
    List.count_eq_zero.2 (hc x hx c List.mem_cons_self)
  have hoptional : (if p.optional then "Yes" else "No").toList.count c = 0 := by
    split <;> exact hcount (by simp)
  -- a text that is not there is shown by one without `c`
  have hgetD (x : Option String) {z : String} (hz : z.toList.count c = 0) :
      (x.getD z).toList.count c = (x.toList.flatMap String.toList).count c := by
    cases x with
    | none => exact hz
    | some y => simp
  simp only [cells, Property.remarks, List.flatMap_cons, List.flatMap_nil, List.flatMap_append,
    List.count_append, List.count_nil, List.count_eq_zero.2 hname, List.count_eq_zero.2 htype, hoptional,
    hgetD _ (hcount (x := "-") (by simp)), hgetD _ (show "".toList.count c = 0 from rfl)]
  omega

/-- The cells behind the type hold no bars if the documentation does not. -/
theorem barFree_docCells {p : Property LinkedShape} (h : ∀ x ∈ p.remarks, '|' ∉ x.toList) :
    ∀ x ∈ docCells p, '|' ∉ x.toList := by
  have hgetD (x : Option String) {z : String} (hx : ∀ y, x = some y → y ∈ p.remarks)
      (hz : '|' ∉ z.toList) : '|' ∉ (x.getD z).toList := by
    cases x with
    | none => exact hz
    | some y => exact h y (hx y rfl)
  simp only [docCells, List.forall_mem_cons]
  refine ⟨?_, ?_, ?_, ?_, List.forall_mem_nil _⟩
  · split <;> decide
  · exact hgetD _ (fun y hy => by simp [Property.remarks, hy]) (by decide)
  · exact hgetD _ (fun y hy => by simp [Property.remarks, hy]) (by decide)
  · exact hgetD _ (fun y hy => by simp [Property.remarks, hy]) (by decide)

/-- The first row of a table with columns of given widths. -/
def headerRow (ws : List Nat) : List Char := '|' :: Table.boxes ws headers

/-- The row below it. -/
def ruleRow (ws : List Nat) : List Char :=
  '|' :: Table.boxes ws (ws.map fun w => String.ofList (List.replicate w '-'))

/-- The row of a property. -/
def propertyRow (ws : List Nat) (p : Property LinkedShape) : List Char := '|' :: Table.boxes ws (cells p)

/-- A property of a type is plain: its name and its type hold no bars, carriage returns and line feeds but
for the bars between members, and its documentation no bars and carriage returns. -/
structure Plain (p : Property LinkedShape) (t : TypeExpr) : Prop where
  /-- The name is without them. -/
  name : FreeOf ['|', '\r', '\n'] p.name
  /-- The type is shown, with leaves that are without them. -/
  type : ∃ f, p.shape.markdown = t.print f ∧ ∀ leaf ∈ t.shape.leaves, FreeOf ['|', '\r', '\n'] (f leaf)
  /-- The documentation may hold line feeds. -/
  remarks : ∀ x ∈ p.remarks, FreeOf ['|', '\r'] x

/-- A plain type is written in one part more than it has separators. -/
theorem Plain.exists_parts {p : Property LinkedShape} {t : TypeExpr} (h : Plain p t) :
    ∃ parts, p.shape.markdown = " | ".intercalate parts ∧ parts.length = t.separators + 1 ∧
      ∀ x ∈ parts, FreeOf ['|', '\r', '\n'] x := by
  obtain ⟨f, htype, hleaves⟩ := h.type
  rw [htype]
  exact TypeExpr.exists_parts (by decide) t hleaves

/-- The row of a plain property holds what its documentation holds. -/
theorem Plain.count_row {p : Property LinkedShape} {t : TypeExpr} (h : Plain p t) {ws : List Nat}
    (hlength : ws.length = headers.length) {c : Char} (hc : c ∈ ['\r', '\n']) :
    (propertyRow ws p).count c = (p.remarks.flatMap String.toList).count c := by
  obtain ⟨hbar, hspace, hseparator, hwords⟩ : c ≠ '|' ∧ c ≠ ' ' ∧ FreeOf [c] " | " ∧
      ∀ x ∈ ["Yes", "No", "-"], FreeOf [c] x := by
    rcases List.mem_pair.1 hc with rfl | rfl <;> decide
  have hfree {x : String} (hx : FreeOf ['|', '\r', '\n'] x) : FreeOf [c] x := by
    simpa [FreeOf] using hx c (List.mem_cons_of_mem _ hc)
  obtain ⟨parts, hparts, -, hplain⟩ := h.exists_parts
  have htype : FreeOf [c] p.shape.markdown := by
    rw [hparts]
    exact freeOf_intercalate hseparator fun x hx => hfree (hplain x hx)
  rw [propertyRow, Table.count_row hbar hspace ((length_cells p).trans hlength.symm)]
  exact count_cells hwords (hfree h.name c List.mem_cons_self) (htype c List.mem_cons_self)

/-- **The row of a property, cut at its bars.** -/
theorem Plain.hasCells {p : Property LinkedShape} {t : TypeExpr} (h : Plain p t) {ws : List Nat}
    (hlength : ws.length = headers.length) :
    ∃ parts, p.shape.markdown = " | ".intercalate parts ∧ parts.length = t.separators + 1 ∧
      Table.HasCells (propertyRow ws p) (p.name :: parts ++ docCells p) ∧
      (Table.HasCells (propertyRow ws p) (cells p) ↔ t.separators = 0) := by
  obtain ⟨parts, hparts, hcount, hfree⟩ := h.exists_parts
  have hname : '|' ∉ p.name.toList := h.name '|' (by decide)
  have hremarks : ∀ x ∈ p.remarks, '|' ∉ x.toList := fun x hx => h.remarks x hx '|' (by decide)
  have hwritten : Table.WrittenIn p.shape.markdown parts :=
    ⟨hparts, List.ne_nil_of_length_eq_add_one hcount, fun x hx => hfree x hx '|' (by decide)⟩
  -- every other cell is one part
  have hdoc := Table.forall₂_writtenIn (barFree_docCells hremarks)
  have hrow : Table.HasCells (propertyRow ws p) _ :=
    Table.hasCells_row hlength.symm (.cons (.single hname) (.cons hwritten hdoc))
  have hflatten : ([p.name] :: parts :: (docCells p).map ([·])).flatten = p.name :: parts ++ docCells p := by
    simp [docCells]
  rw [hflatten] at hrow
  refine ⟨parts, hwritten.eq, hcount, hrow, ?_⟩
  constructor
  · intro hsix
    have hsame := hrow.length_eq hsix
    simp only [List.cons_append, List.length_cons, List.length_append, docCells, cells] at hsame
    omega
  · intro hzero
    rw [hzero] at hcount
    obtain ⟨x, rfl⟩ := List.length_eq_one_iff.1 hcount
    have hx : p.shape.markdown = x := hwritten.eq.trans String.intercalate_singleton
    rw [← hx] at hrow
    exact hrow

/-- A text is a table of properties of given types, as it is read: by its lines, and by the bars in its
rows. -/
structure ReadsAs (ps : List (Property LinkedShape)) (types : List TypeExpr) (text : String)
    (header rule : List Char) (rows : List (List Char)) : Prop where
  /-- There are two rows and one for each property, each of them ended by a line feed. -/
  ended : text.toList = (header :: rule :: rows).flatMap (· ++ ['\n'])
  /-- There is a row for each property. -/
  length_rows : rows.length = ps.length
  /-- No line ends otherwise. -/
  returnFree : '\r' ∉ text.toList
  /-- There are as many lines as rows, and one more for each line feed in the documentation. The text ends
  with a line feed, so an empty line comes last. -/
  length_lines : (lines text.toList).length = 2 + ps.length + lineBreaks ps + 1
  /-- Without line feeds in the documentation, the lines are the rows. -/
  lines_eq : lineBreaks ps = 0 → lines text.toList = header :: rule :: rows ++ [[]]
  /-- The first row has the headers. -/
  header_cells : Table.HasCells header headers
  /-- The second row has three dashes or more below each header. -/
  rule_cells : ∃ ws : List Nat, ws.length = headers.length ∧ (∀ w ∈ ws, 3 ≤ w) ∧
    Table.HasCells rule (ws.map fun w => String.ofList (List.replicate w '-'))
  /-- The row of a property has its name, the parts of its type and its documentation in its cells; these
  are the six cells of the property exactly when the type has no separators. -/
  row_cells : ∀ (i : Nat) (p : Property LinkedShape) (t : TypeExpr) (row : List Char), ps[i]? = some p →
    types[i]? = some t → rows[i]? = some row →
      ∃ parts, p.shape.markdown = " | ".intercalate parts ∧ parts.length = t.separators + 1 ∧
        Table.HasCells row (p.name :: parts ++ docCells p) ∧
        (Table.HasCells row (cells p) ↔ t.separators = 0)

section

variable {ps : List (Property LinkedShape)} {ws : List Nat} (hlength : ws.length = headers.length)

include hlength

/-- The first two rows hold neither carriage returns nor line feeds. -/
theorem count_frame {c : Char} (hc : c ∈ ['\r', '\n']) :
    (headerRow ws).count c = 0 ∧ (ruleRow ws).count c = 0 := by
  obtain ⟨hbar, hspace, hdash, hheaders⟩ : c ≠ '|' ∧ c ≠ ' ' ∧ '-' ∉ [c] ∧
      (headers.flatMap String.toList).count c = 0 := by
    rcases List.mem_pair.1 hc with rfl | rfl <;> decide
  constructor
  · rw [headerRow, Table.count_row hbar hspace hlength.symm, hheaders]
  · rw [ruleRow, Table.count_row hbar hspace (List.length_map _), List.count_eq_zero, List.flatMap_map,
      List.mem_flatMap]
    rintro ⟨w, -, hmem⟩
    exact Table.freeOf_dashes hdash w c List.mem_cons_self hmem

variable (hplain : ∀ p ∈ ps, ∃ t, Plain p t)

include hplain

/-- No row holds carriage returns. -/
theorem returnFree_rows :
    '\r' ∉ (headerRow ws :: ruleRow ws :: ps.map (propertyRow ws)).flatMap (· ++ ['\n']) := by
  obtain ⟨hheader, hrule⟩ := count_frame hlength (c := '\r') (by decide)
  have hrow : ∀ p ∈ ps, (propertyRow ws p).count '\r' = 0 := by
    intro p hp
    obtain ⟨t, ht⟩ := hplain p hp
    rw [ht.count_row hlength (by decide), List.count_eq_zero, List.mem_flatMap]
    rintro ⟨x, hx, hmem⟩
    exact ht.remarks x hx '\r' (by decide) hmem
  simp only [List.count_eq_zero] at hheader hrule hrow
  simp only [List.mem_flatMap, List.mem_cons, List.mem_map, List.mem_append, not_exists, not_and]
  rintro row (rfl | rfl | ⟨p, hp, rfl⟩)
  · simpa using hheader
  · simpa using hrule
  · simpa using hrow p hp

/-- A row has one line more than there are line feeds in the documentation. -/
theorem length_lines_row : ∀ p ∈ ps,
    (lines (propertyRow ws p)).length = (p.remarks.flatMap String.toList).count '\n' + 1 := by
  intro p hp
  obtain ⟨t, ht⟩ := hplain p hp
  rw [length_lines, ht.count_row hlength (by decide)]

/-- **The lines of a table**: one for each row, and one for each line feed in the documentation. -/
theorem length_lines_rows :
    (lines ((headerRow ws :: ruleRow ws :: ps.map (propertyRow ws)).flatMap (· ++ ['\n']))).length =
      2 + ps.length + lineBreaks ps + 1 := by
  obtain ⟨hheader, hrule⟩ := count_frame hlength (c := '\n') (by decide)
  have hrows : ((ps.map (propertyRow ws)).flatMap lines).length = ps.length + lineBreaks ps := by
    have hrow := length_lines_row hlength hplain
    clear hplain
    induction ps with
    | nil => rfl
    | cons p ps ih =>
      obtain ⟨hp, hps⟩ := List.forall_mem_cons.1 hrow
      rw [List.map_cons, List.flatMap_cons, List.length_append, ih hps, hp, lineBreaks, lineBreaks,
        List.flatMap_cons, List.count_append, List.length_cons]
      omega
  rw [lines_ended, List.flatMap_cons, List.flatMap_cons]
  simp only [List.length_append, length_lines, hheader, hrule, hrows, List.length_singleton]
  omega

/-- Without line feeds in the documentation, the lines of a table are its rows. -/
theorem lines_rows_eq (hbreaks : lineBreaks ps = 0) :
    lines ((headerRow ws :: ruleRow ws :: ps.map (propertyRow ws)).flatMap (· ++ ['\n'])) =
      headerRow ws :: ruleRow ws :: ps.map (propertyRow ws) ++ [[]] := by
  obtain ⟨hheader, hrule⟩ := count_frame hlength (c := '\n') (by decide)
  have hsingle {s : List Char} (hs : s.count '\n' = 0) : lines s = [s] :=
    splitAt_of_notMem (List.count_eq_zero.1 hs)
  have hrows : ∀ row ∈ ps.map (propertyRow ws), lines row = [row] := by
    simp only [List.forall_mem_map]
    intro p hp
    obtain ⟨t, ht⟩ := hplain p hp
    apply hsingle
    rw [ht.count_row hlength (by decide), List.count_eq_zero]
    intro hmem
    exact List.count_eq_zero.1 hbreaks (List.mem_flatMap.2 ⟨p, hp, hmem⟩)
  rw [lines_ended, List.flatMap_cons, List.flatMap_cons, hsingle hheader, hsingle hrule,
    List.flatMap_congr hrows, List.flatMap_singleton']
  rfl

end

/-- The row below the headers is read as its dashes. -/
theorem hasCells_ruleRow (ws : List Nat) :
    Table.HasCells (ruleRow ws) (ws.map fun w => String.ofList (List.replicate w '-')) := by
  refine Table.hasCells_of_barFree (List.length_map _) ?_
  simp only [List.forall_mem_map]
  intro w _
  have hfree : FreeOf ['|'] (String.ofList (List.replicate w '-')) := Table.freeOf_dashes (by decide) w
  exact hfree '|' List.mem_cons_self

/-- No column is narrower than three characters, as its header is not. -/
theorem three_le_columnWidths (rows : List (List String)) :
    ∀ w ∈ Table.columnWidths headers rows, 3 ≤ w := by
  have hheaders : ∀ j < headers.length, 3 ≤ (headers.getD j "").length := by decide
  intro w hw
  obtain ⟨j, hj, rfl⟩ := List.mem_map.1 hw
  exact Nat.le_trans (hheaders j (List.mem_range.1 hj))
    (Table.length_le_columnWidth List.mem_cons_self j)

/-- **A table of plain properties is read as such.** -/
theorem exists_readsAs {ps : List (Property LinkedShape)} {types : List TypeExpr}
    (h : List.Forall₂ Plain ps types) :
    ∃ text header rule rows, table ps = .ok text ∧ ReadsAs ps types text header rule rows := by
  have hrows : ∀ row ∈ ps.map cells, row.length = headers.length := by
    intro row hrow
    obtain ⟨p, -, rfl⟩ := List.mem_map.1 hrow
    exact length_cells p
  obtain ⟨ws, hws⟩ : ∃ ws, Table.columnWidths headers (ps.map cells) = ws := ⟨_, rfl⟩
  have hlength : ws.length = headers.length := by
    rw [← hws, Table.columnWidths, List.length_map, List.length_range]
  have hplain : ∀ p ∈ ps, ∃ t, Plain p t := by
    intro p hp
    obtain ⟨i, hi, rfl⟩ := List.getElem_of_mem hp
    exact ⟨_, h.get hi (h.length_eq ▸ hi)⟩
  have hended : (Table.text headers (ps.map cells)).toList =
      (headerRow ws :: ruleRow ws :: ps.map (propertyRow ws)).flatMap (· ++ ['\n']) := by
    rw [Table.toList_text (by decide) hrows, Table.grid, hws, List.map_cons, List.map_cons, List.map_map]
    rfl
  refine ⟨_, _, _, _, table_eq ps, hended, List.length_map _, ?_, ?_, ?_, ?_, ?_, ?_⟩
  · rw [hended]
    exact returnFree_rows hlength hplain
  · rw [hended]
    exact length_lines_rows hlength hplain
  · rw [hended]
    exact lines_rows_eq hlength hplain
  · exact Table.hasCells_of_barFree hlength.symm (by decide)
  · refine ⟨ws, hlength, ?_, hasCells_ruleRow ws⟩
    rw [← hws]
    exact three_le_columnWidths _
  · intro i p t row hp ht hrow
    rw [List.getElem?_map, hp] at hrow
    cases hrow
    obtain ⟨hi, rfl⟩ := List.getElem?_eq_some_iff.1 hp
    obtain ⟨hi', rfl⟩ := List.getElem?_eq_some_iff.1 ht
    exact (h.get hi hi').hasCells hlength

end Page

/-! ## Linked interfaces -/

/-- **The properties of a linked interface are plain**, if the words and remarks in the statements are. -/
theorem forall₂_plain (inline : List String) {ss : List Statement}
    (hwords : ∀ s ∈ ss, ∀ x ∈ s.words, FreeOf ['|', '\r', '\n'] x)
    (hremarks : ∀ s ∈ ss, ∀ x ∈ s.remarks, FreeOf ['|', '\r'] x) {s : Statement} (hs : s ∈ ss)
    {name : String} {qs : List (Property Shape)} {description exampleText : Option String}
    (hdeclared : s.declared? = some (.interface name qs description exampleText)) :
    List.Forall₂ Page.Plain
      (qs.map (Property.map (Resolver.knowing inline (ss.filterMap Statement.declared?)).linkedShape))
      s.exportedTypes := by
  -- all that a leaf can come down to is a word of a statement
  have hds : ∀ d ∈ ss.filterMap Statement.declared?, ∀ o ∈ d.ownedShapes, ∀ x ∈ o.2.leaves,
      FreeOf ['|', '\r', '\n'] x := by
    intro d hd o ho x hx
    obtain ⟨s', hs', hd'⟩ := List.mem_filterMap.1 hd
    exact hwords s' hs' x (Statement.leaf_mem_words hd' ho hx)
  have hshapes : qs.map Property.shape = s.exportedTypes.map TypeExpr.shape := by
    rw [← Statement.shapes_declared? hdeclared, Declaration.ownedShapes, List.map_map]
    rfl
  have hpairs : List.Forall₂ (fun q t => q.shape = t.shape) qs s.exportedTypes := by
    rw [← List.forall₂_eq_eq_eq, List.forall₂_map_left_iff, List.forall₂_map_right_iff] at hshapes
    exact hshapes
  rw [List.forall₂_map_left_iff, List.forall₂_iff_zip]
  refine ⟨hpairs.length_eq, ?_⟩
  intro q t hqt
  have hq : q ∈ qs := (List.of_mem_zip hqt).1
  have hshape : q.shape = t.shape := (List.forall₂_iff_zip.1 hpairs).2 hqt
  have hmarkdown (r : Resolver) : (r.linkedShape q.shape).markdown =
      t.print fun leaf => LinkedShape.markdown [r.segment leaf] := by
    rw [hshape, ← TypeExpr.fill_shape]
    exact Resolver.render_linkedShape _ r t.shape
  have howned : (name ++ "." ++ q.name, q.shape) ∈
      (Declaration.interface name qs description exampleText).ownedShapes :=
    List.mem_map.2 ⟨q, hq, rfl⟩
  obtain ⟨m, rfl, hname, htexts⟩ := Statement.exists_member hdeclared hq
  refine ⟨hwords s hs _ hname, ⟨_, hmarkdown _, ?_⟩, ?_⟩
  · intro leaf hleaf
    rw [← hshape] at hleaf
    exact Resolver.freeOf_segment (by decide) hds
      (hwords s hs _ (Statement.leaf_mem_words hdeclared howned hleaf))
  · exact PropertyMember.freeOf_remarks (by decide) fun x hx => hremarks s hs x (htexts x hx)

/-- **Tables are read as they are meant, up to unions and line feeds.** When names, leaves and comments hold
no bars and carriage returns, and names and leaves no line feeds, well-formed statements are extracted and
linked, and every linked interface has a table. It consists of two rows and one for each property. Its lines
are these rows if no documentation text of the interface holds a line feed, and each line feed there makes
one line more. Cut at the bars that stand behind no backslash, a row has between its outer bars the name of
the property, the parts of its type, whether it is optional, its default or a dash, its description and its
example, with blanks around them. These are six cells, with the whole type in the second, exactly when no
union or intersection in the type puts a bar between its members. -/
theorem table_read_by_bars (inline : List String) (ss : List Statement) (hwell : ∀ s ∈ ss, s.WellFormed)
    (hwords : ∀ s ∈ ss, ∀ x ∈ s.words, FreeOf ['|', '\r', '\n'] x)
    (hremarks : ∀ s ∈ ss, ∀ x ∈ s.remarks, FreeOf ['|', '\r'] x) :
    ∃ ds docs, (Declaration.extract ss).outcome = .ok ds ∧
      (linkDeclarations inline ds).outcome = .ok docs ∧
      ∀ key name ps description exampleText,
        (key, Declaration.interface name ps description exampleText) ∈ docs →
          ∃ s ∈ ss, s.exportedName? = some key ∧ s.exportedTypes.length = ps.length ∧
            ∃ text header rule rows, Page.table ps = .ok text ∧
              Page.ReadsAs ps s.exportedTypes text header rule rows := by
  refine ⟨_, _, Declaration.outcome_extract hwell, outcome_linkDeclarations inline _, ?_⟩
  intro key name ps description exampleText hdocs
  obtain ⟨⟨k, d⟩, hmem, hd⟩ := List.mem_map.1 hdocs
  obtain ⟨rfl, hmap⟩ := Prod.mk.inj hd
  have hkey := Declaration.name_eq_of_mem_index hmem
  obtain ⟨s, hs, hdeclared⟩ := List.mem_filterMap.1 (Declaration.mem_of_mem_index hmem)
  cases d with
  | typeAlias => cases hmap
  | interface name qs description exampleText =>
    cases hmap
    have hplain := forall₂_plain inline hwords hremarks hs hdeclared
    refine ⟨s, hs, ?_, hplain.length_eq.symm, Page.exists_readsAs hplain⟩
    rw [← Statement.name_declared?, hdeclared, Option.map_some, hkey]

/-- An interface with a documented array of itself, and one with a union and a description of two lines. -/
def arrayAndUnion : List Statement :=
  [.interface "A" true [.property ⟨"p", .array (.named "A"), true,
      some [⟨none, "One."⟩, ⟨some "default", "1"⟩]⟩] none,
    .interface "B" true [.property ⟨"q", .union [.named "string", .named "number"], false, none⟩,
      .property ⟨"r", .named "string", false, some [⟨none, "One.\ntwo"⟩]⟩] none]

/-- The words and remarks of the two interfaces are plain. -/
theorem plain_arrayAndUnion : (∀ s ∈ arrayAndUnion, s.WellFormed) ∧
    (∀ s ∈ arrayAndUnion, ∀ x ∈ s.words, FreeOf ['|', '\r', '\n'] x) ∧
      ∀ s ∈ arrayAndUnion, ∀ x ∈ s.remarks, FreeOf ['|', '\r'] x := by
  decide +kernel

/-- The property of the first interface, linked. -/
def linkedArray : Property LinkedShape :=
  ⟨"p", [.link "A", .text "[]"], true, some "One.", some "1", none⟩

/-- The table of the first interface has three lines, and six cells in the last of them. -/
theorem table_read_by_bars_documentedArray :
    ∃ text header rule row, Page.table [linkedArray] = .ok text ∧
      lines text.toList = [header, rule, row, []] ∧
      Table.HasCells row ["p", "[A](#A)[]", "Yes", "1", "One.", ""] := by
  obtain ⟨hwell, hwords, hremarks⟩ := plain_arrayAndUnion
  obtain ⟨ds, docs, hds, hdocs, htables⟩ :=
    table_read_by_bars defaultInlineTypes arrayAndUnion hwell hwords hremarks
  have hmem : ("A", Declaration.interface "A" [linkedArray] none none) ∈ docs := by
    cases (Declaration.outcome_extract hwell).symm.trans hds
    cases (outcome_linkDeclarations _ _).symm.trans hdocs
    decide +kernel
  obtain ⟨s, hs, hname, -, text, header, rule, rows, htable, hreads⟩ := htables _ _ _ _ _ hmem
  have htypes : s.exportedTypes = [.array (.named "A")] := by
    simp only [arrayAndUnion, List.mem_cons, List.not_mem_nil, or_false] at hs
    obtain rfl | rfl := hs
    · rfl
    · exact absurd hname (by decide)
  obtain ⟨row, rfl⟩ := List.length_eq_one_iff.1 hreads.length_rows
  obtain ⟨parts, -, -, -, hsix⟩ := hreads.row_cells 0 linkedArray (.array (.named "A")) row rfl
    (by rw [htypes]; rfl) rfl
  exact ⟨text, header, rule, row, htable, hreads.lines_eq (by decide), hsix.2 rfl⟩

/-- The properties of the second interface, linked. -/
def linkedUnion : List (Property LinkedShape) :=
  [⟨"q", [.text "string | number"], false, none, none, none⟩,
    ⟨"r", [.text "string"], false, some "One.\ntwo", none, none⟩]

/-- The table of the second interface has five lines instead of four, and the row of its first property
seven cells instead of six. -/
theorem union_and_line_feed_spill :
    ((∀ s ∈ arrayAndUnion, s.WellFormed) ∧
      (∀ s ∈ arrayAndUnion, ∀ x ∈ s.words, FreeOf ['|', '\r', '\n'] x) ∧
        ∀ s ∈ arrayAndUnion, ∀ x ∈ s.remarks, FreeOf ['|', '\r'] x) ∧
      (Declaration.extract arrayAndUnion).outcome = .ok (arrayAndUnion.filterMap Statement.declared?) ∧
      (linkDeclarations defaultInlineTypes (arrayAndUnion.filterMap Statement.declared?)).outcome =
        .ok [("A", .interface "A" [linkedArray] none none), ("B", .interface "B" linkedUnion none none)] ∧
      ∃ text header rule row row' cells, Page.table linkedUnion = .ok text ∧
        text.toList = [header, rule, row, row'].flatMap (· ++ ['\n']) ∧
        (lines text.toList).length = 5 + 1 ∧ Table.HasCells row cells ∧ cells.length = 7 := by
  obtain ⟨hwell, hwords, hremarks⟩ := plain_arrayAndUnion
  refine ⟨⟨hwell, hwords, hremarks⟩, Declaration.outcome_extract hwell, ?_, ?_⟩
  · rw [outcome_linkDeclarations]
    decide +kernel
  · have hplain : List.Forall₂ Page.Plain linkedUnion
        [.union [.named "string", .named "number"], .named "string"] :=
      forall₂_plain defaultInlineTypes hwords hremarks (List.mem_cons_of_mem _ List.mem_cons_self) rfl
    obtain ⟨text, header, rule, rows, htable, hreads⟩ := Page.exists_readsAs hplain
    obtain ⟨row, row', rfl⟩ := List.length_eq_two.1 hreads.length_rows
    obtain ⟨parts, -, hlength, hcells, -⟩ := hreads.row_cells 0 _ _ row rfl rfl rfl
    refine ⟨text, header, rule, row, row', _, htable, hreads.ended, ?_, hcells, ?_⟩
    · rw [hreads.length_lines]
      decide
    · simp only [List.cons_append, List.length_cons, List.length_append, hlength]
      rfl

end TypeAtlas
