import TypeAtlas.Document

/-! # The text of a page

`renderPage` in closed form. Every row of a table of properties has as many cells as there are columns,
so a page is always written (`Page.render_eq`), and nothing but progress notes is said on the way.

* `Page.contentText`, `Page.sectionText`, `Page.pageText`: what is written for a declaration, for a
  section, and in all.
* `Page.notes`: what is said while a section is written.

The name of the format alone decides whether there is a page (`renderPage_of_ok`,
`renderPage_of_error`). -/

namespace TypeAtlas

namespace Page

/-- What stands in a section between its description and its example. -/
def contentText (format : Format) : Declaration LinkedShape → String
  | .typeAlias _ shape _ _ => "Type: " ++ shape.markdown ++ "\n"
  | .interface _ ps _ _ =>
    match format with
    | .tables => Table.text headers (ps.map cells)
    | .json => object ps

/-- What is said while a section is written. -/
def notes (format : Format) (key : String) : Declaration LinkedShape → List Event
  | .typeAlias .. => []
  | .interface .. =>
    match format with
    | .tables => [.note .render ("Generating table for " ++ key)]
    | .json => [.note .render ("Generating JSON for " ++ key)]

/-- The text of a section: heading, description, content, example. -/
def sectionText (format : Format) (key : String) (d : Declaration LinkedShape) : String :=
  "\n## " ++ key ++ "\n" ++ ((given d.description).map (· ++ "  \n")).getD "" ++
    contentText format d ++ ((given d.exampleText).map ("\nExample: \n" ++ ·)).getD ""

/-- The text of a page: its sections, one after the other. -/
def pageText (format : Format) (docs : LinkedDocs) : String :=
  String.join (docs.map fun p => sectionText format p.1 p.2)

/-- A property has a cell for each column. -/
theorem length_cells (p : Property LinkedShape) : (cells p).length = headers.length := rfl

/-- No row of a table of properties is at fault. -/
theorem fault?_cells (ps : List (Property LinkedShape)) :
    Table.fault? headers (ps.map cells) = none := by
  have hfind : (ps.map cells).find? (fun row => row.length ≠ headers.length) = none := by
    rw [List.find?_eq_none]
    intro row hrow
    obtain ⟨p, -, rfl⟩ := List.mem_map.1 hrow
    simp [length_cells]
  rw [Table.fault?, hfind, Option.map_none]

/-- A table of properties is always written. -/
theorem table_eq (ps : List (Property LinkedShape)) :
    table ps = .ok (Table.text headers (ps.map cells)) := by
  rw [table, Table.render, fault?_cells]

/-- The content of a section is always written. -/
theorem content_eq (format : Format) (key : String) (d : Declaration LinkedShape) :
    content format key d = ⟨notes format key d, .ok (contentText format d)⟩ := by
  cases d with
  | typeAlias name shape description exampleText => rfl
  | interface name ps description exampleText =>
    cases format with
    | tables =>
      rw [content, table_eq]
      rfl
    | json => rfl

/-- A section is always written. -/
theorem entry_eq (format : Format) (key : String) (d : Declaration LinkedShape) :
    entry format key d = ⟨notes format key d, .ok (sectionText format key d)⟩ := by
  rw [entry, content_eq]
  simp [sectionText]

/-- **A page is always written.** -/
theorem render_eq (format : Format) (docs : LinkedDocs) :
    render format docs =
      ⟨docs.flatMap fun p => notes format p.1 p.2, .ok (pageText format docs)⟩ := by
  induction docs with
  | nil => rfl
  | cons p docs ih =>
    rw [render, entry_eq, ih]
    simp [pageText]

/-- Nothing said while a section is written is a diagnostic. -/
theorem diagnostic_notMem_notes (format : Format) (key : String) (d : Declaration LinkedShape)
    (g : Diagnostic) : .diagnostic g ∉ notes format key d := by
  cases d with
  | typeAlias name shape description exampleText => exact List.not_mem_nil
  | interface name ps description exampleText => cases format <;> simp [notes]

/-- The heading of each section stands on the page. -/
theorem heading_infix {docs : LinkedDocs} {key : String} (format : Format)
    (h : key ∈ docs.map Prod.fst) :
    ("\n## " ++ key ++ "\n").toList <:+: (pageText format docs).toList := by
  obtain ⟨p, hp, rfl⟩ := List.mem_map.1 h
  have hsection : (sectionText format p.1 p.2).toList <:+: (pageText format docs).toList := by
    rw [pageText, String.toList_join, List.flatMap_map]
    exact List.infix_of_mem_flatten (List.mem_map_of_mem hp)
  have hheading : ("\n## " ++ p.1 ++ "\n").toList <+: (sectionText format p.1 p.2).toList := by
    -- the three parts of the heading are the first three parts of the section
    simp only [sectionText, String.toList_append, List.append_assoc, List.prefix_append_right_inj]
    exact List.prefix_append _ _
  exact hheading.isInfix.trans hsection

end Page

/-- Under the name of a format, linked declarations always become a page. -/
theorem renderPage_of_ok {formatName : String} {format : Format}
    (h : Format.parse formatName = .ok format) (docs : LinkedDocs) :
    renderPage formatName docs =
      ⟨docs.flatMap fun p => Page.notes format p.1 p.2, .ok (Page.pageText format docs)⟩ := by
  rw [renderPage, h]
  simp only [Page.render_eq]
  rfl

/-- Under any other name there is no page, and nothing is said. -/
theorem renderPage_of_error {formatName : String} {f : FormatFault}
    (h : Format.parse formatName = .error f) (docs : LinkedDocs) :
    renderPage formatName docs = .fail (.format f) := by
  rw [renderPage, h]

/-- Rendering fails because of the name of the format only. -/
theorem outcome_renderPage_eq_error_iff {formatName : String} {docs : LinkedDocs}
    {e : DocumentFault} :
    (renderPage formatName docs).outcome = .error e ↔
      ∃ f, Format.parse formatName = .error f ∧ e = .format f := by
  cases hformat : Format.parse formatName with
  | error f =>
    rw [renderPage_of_error hformat]
    constructor
    · intro he
      exact ⟨f, rfl, (Except.error.inj he).symm⟩
    · rintro ⟨f', hf, rfl⟩
      rw [Except.error.inj hf]
      rfl
  | ok format =>
    rw [renderPage_of_ok hformat]
    constructor
    · intro he
      cases he
    · rintro ⟨f, hf, -⟩
      cases hf

/-- Rendering says nothing to the user. -/
theorem diagnostics_renderPage (formatName : String) (docs : LinkedDocs) :
    (renderPage formatName docs).diagnostics = [] := by
  cases h : Format.parse formatName with
  | error f =>
    rw [renderPage_of_error h]
    rfl
  | ok format =>
    rw [renderPage_of_ok h, Report.diagnostics, List.filterMap_eq_nil_iff]
    intro e he
    obtain ⟨p, -, hp⟩ := List.mem_flatMap.1 he
    cases e with
    | note stage text => rfl
    | diagnostic g => exact absurd hp (Page.diagnostic_notMem_notes format p.1 p.2 g)

end TypeAtlas
