import TypeAtlas.Proofs.Agreement
import TypeAtlas.Proofs.Failure

/-! # One declaration more

A declaration that nothing refers to is added behind the others, and `document` is run again. Its name
is new and no leaf, so no alias leads to it, and the resolvers with and without it agree on all other
names (`Resolver.agreeOn_append`). The sections that were there stay as they are, and one comes behind
them (`linkedDocs_append`). Main statement: `unreferenced_declaration_appends`. -/

namespace TypeAtlas

/-! ## Statements and their declarations -/

/-- The shapes of a declaration are those of the types that its statement exports. -/
theorem Statement.shapes_declared? {s : Statement} {d : Declaration Shape}
    (h : s.declared? = some d) :
    d.ownedShapes.map Prod.snd = s.exportedTypes.map TypeExpr.shape := by
  cases s with
  | interface name exported members comment =>
    cases exported with
    | false => cases h
    | true =>
      cases h
      rw [Declaration.ownedShapes, List.map_map, exportedTypes, List.map_filterMap,
        List.map_filterMap]
      congr 1
      funext m
      cases m <;> rfl
  | typeAlias name exported target comment =>
    cases exported with
    | false => cases h
    | true =>
      cases h
      rfl
  | importing text => cases h
  | other u => cases h

/-! ## Linking -/

/-- What is filed in the index is one of the declarations. -/
theorem Declaration.mem_of_mem_index {σ : Type} {ds : List (Declaration σ)}
    {p : String × Declaration σ} (hp : p ∈ index ds) : p.2 ∈ ds := by
  have hfound := Catalogue.find?_of_mem (nodup_keys_index ds) hp
  rw [find?_index] at hfound
  exact mem_of_lastNamed? hfound

section Append

variable (inline : List String) {ds : List (Declaration Shape)} {d : Declaration Shape}
  (hunused : ∀ e ∈ ds, ∀ o ∈ e.ownedShapes, d.name ∉ o.2.leaves)

include hunused

/-- A declaration whose name is no leaf of the others changes nothing about other names. -/
theorem Resolver.agreeOn_append :
    AgreeOn {n | n ≠ d.name} (knowing inline ds) (knowing inline (ds ++ [d])) where
  isInline_eq leaf := rfl
  find?_eq n hn := by
    rw [find?_knowing, find?_knowing, Declaration.lastNamed?_concat, if_neg (Ne.symm hn)]
  closed n _ target ht := by
    -- the alias is one of the declarations, and `target` is its leaf
    obtain ⟨declared, shape, description, exampleText, hfind, hleaves, -⟩ :=
      aliasTarget?_eq_some_iff.1 ht
    rw [find?_knowing] at hfind
    obtain ⟨e, he, hdeclaration⟩ := Option.map_eq_some_iff.1 hfind
    cases hdeclaration
    have hleaf := hunused _ (Declaration.mem_of_lastNamed? he) (declared, shape) List.mem_cons_self
    rw [hleaves, List.mem_singleton] at hleaf
    exact Ne.symm hleaf

/-- A new declaration to which no other refers comes last, and the others are linked as before. -/
theorem linkedDocs_append (hnew : d.name ∉ ds.map Declaration.name) :
    linkedDocs inline (ds ++ [d]) =
      linkedDocs inline ds ++
        [(d.name, d.map (Resolver.knowing inline (ds ++ [d])).linkedShape)] := by
  have hkey : d.name ∉ (Declaration.index ds).map Prod.fst := by
    rwa [Declaration.keys_index, List.mem_eraseDups]
  rw [linkedDocs, Declaration.index_concat, Catalogue.insert_of_notMem hkey, List.map_append,
    List.map_singleton, linkedDocs]
  congr 1
  apply List.map_congr_left
  intro p hp
  have hmem := Declaration.mem_of_mem_index hp
  rw [(Resolver.agreeOn_append inline hunused).map_eq]
  intro o ho leaf hleaf hname
  exact hunused p.2 hmem o ho (hname ▸ hleaf)

end Append

/-! ## Pages -/

/-- The page of more declarations has their sections behind the others. -/
theorem Page.pageText_append (format : Format) (docs docs' : LinkedDocs) :
    pageText format (docs ++ docs') = pageText format docs ++ pageText format docs' := by
  rw [pageText, List.map_append, String.join_append, pageText, pageText]

/-- **A declaration that nothing refers to only appends.** Let a well-formed statement that exports `name`
come behind others, none of which exports `name` or has it as a leaf of a type that it exports. Then the
page of all statements is the page of the others with one section behind it: the section of the
declaration of that statement, linked against all declarations. -/
theorem unreferenced_declaration_appends (inline : List String) {ss : List Statement}
    {s : Statement} {name : String} (hwell : ∀ t ∈ ss ++ [s], t.WellFormed)
    (hname : s.exportedName? = some name) (hnew : ∀ t ∈ ss, t.exportedName? ≠ some name)
    (hunused : ∀ t ∈ ss, ∀ e ∈ t.exportedTypes, name ∉ e.shape.leaves)
    {formatName : String} {format : Format} (hformat : Format.parse formatName = .ok format) :
    ∃ page added ds d linked,
      (document formatName inline ss).outcome = .ok page ∧
      (document formatName inline (ss ++ [s])).outcome = .ok (page ++ added) ∧
      (Declaration.extract ss).outcome = .ok ds ∧
      (Declaration.extractStatement s).outcome = .ok (some d) ∧
      ((Resolver.resolve ⟨inline, []⟩ ((ds ++ [d]).map .declaration)).1.linkDeclaration d :
        Report LinkFault (Declaration LinkedShape)).outcome = .ok linked ∧
      (renderPage formatName [(name, linked)]).outcome = .ok added := by
  have hss : ∀ t ∈ ss, t.WellFormed := fun t ht => hwell t (List.mem_append_left _ ht)
  have hs : s.WellFormed := hwell s (List.mem_append_right _ List.mem_cons_self)
  rw [← s.name_declared?] at hname
  obtain ⟨d, hd, rfl⟩ := Option.map_eq_some_iff.1 hname
  -- the two conditions on statements, said of their declarations
  have hfresh : d.name ∉ (ss.filterMap Statement.declared?).map Declaration.name := by
    intro hmem
    obtain ⟨e, he, hsame⟩ := List.mem_map.1 hmem
    obtain ⟨t, ht, hte⟩ := List.mem_filterMap.1 he
    apply hnew t ht
    rw [← t.name_declared?, hte, Option.map_some, hsame]
  have hleaves : ∀ e ∈ ss.filterMap Statement.declared?, ∀ o ∈ e.ownedShapes,
      d.name ∉ o.2.leaves := by
    intro e he o ho
    obtain ⟨t, ht, hte⟩ := List.mem_filterMap.1 he
    have hshape : o.2 ∈ e.ownedShapes.map Prod.snd := List.mem_map_of_mem ho
    rw [Statement.shapes_declared? hte] at hshape
    obtain ⟨x, hx, hxo⟩ := List.mem_map.1 hshape
    rw [← hxo]
    exact hunused t ht x hx
  have hall : (ss ++ [s]).filterMap Statement.declared? =
      ss.filterMap Statement.declared? ++ [d] := by
    rw [List.filterMap_append, List.filterMap_cons_some hd, List.filterMap_nil]
  have hpage := outcome_document hss formatName inline
  have hpages := outcome_document hwell formatName inline
  rw [renderPage_of_ok hformat] at hpage hpages
  rw [hall, linkedDocs_append inline hleaves hfresh, Page.pageText_append] at hpages
  have hstatement : (Declaration.extractStatement s).outcome = .ok (some d) := by
    rw [Declaration.outcome_extractStatement hs, hd]
  refine ⟨_, _, _, d, _, hpage, hpages, Declaration.outcome_extract hss, hstatement, ?_,
    congrArg Report.outcome (renderPage_of_ok hformat _)⟩
  rw [Resolver.resolve_declarations, Resolver.linkDeclaration_eq]

/-- An interface that refers to an alias, and that alias. -/
def earlierStatements : List Statement :=
  [.interface "A" true [.property ⟨"p", .array (.named "Id"), false, none⟩] none,
    .typeAlias "Id" true (.named "string") none]

/-- An interface that refers to itself, to the earlier statements and to a name that is not declared. -/
def laterStatement : Statement :=
  .interface "Tree" true
    [.property ⟨"children", .union [.array (.named "Tree"), .named "Id"], true, none⟩,
      .property ⟨"owner", .inter [.named "A", .named "Lost"], false, none⟩] none

/-- The page of the earlier statements. -/
def earlierPage : String :=
  "\n## A\n<pre>\n\x7b\n  <strong>p</strong>: string[],\n\x7d\n</pre>\n\n## Id\nType: string\n"

/-- The section of the later statement. -/
def laterSection : String :=
  "\n## Tree\n<pre>\n\x7b\n  <strong>children</strong>?: <a href=\"#Tree\">Tree</a>[] | string,\n" ++
    "  <strong>owner</strong>: <a href=\"#A\">A</a> | Lost,\n\x7d\n</pre>\n"

/-- The later statement adds one section, with links to itself and to the section of the earlier
interface. -/
theorem unreferenced_declaration_appends_laterStatement :
    ∃ page added ds d linked,
      (document "json" defaultInlineTypes earlierStatements).outcome = .ok page ∧
      (document "json" defaultInlineTypes (earlierStatements ++ [laterStatement])).outcome =
        .ok (page ++ added) ∧
      (Declaration.extract earlierStatements).outcome = .ok ds ∧
      (Declaration.extractStatement laterStatement).outcome = .ok (some d) ∧
      ((Resolver.resolve ⟨defaultInlineTypes, []⟩ ((ds ++ [d]).map .declaration)).1.linkDeclaration
        d : Report LinkFault (Declaration LinkedShape)).outcome = .ok linked ∧
      (renderPage "json" [("Tree", linked)]).outcome = .ok added ∧
      page = earlierPage ∧ added = laterSection := by
  have hwell : ∀ t ∈ earlierStatements ++ [laterStatement], t.WellFormed := by decide
  have hname : laterStatement.exportedName? = some "Tree" := rfl
  have hnew : ∀ t ∈ earlierStatements, t.exportedName? ≠ some "Tree" := by decide
  have hunused : ∀ t ∈ earlierStatements, ∀ e ∈ t.exportedTypes, "Tree" ∉ e.shape.leaves := by
    decide
  have hformat : Format.parse "json" = .ok .json := rfl
  obtain ⟨page, added, ds, d, linked, hpage, hpages, hds, hd, hlinked, hadded⟩ :=
    unreferenced_declaration_appends defaultInlineTypes hwell hname hnew hunused hformat
  have hfirst : (document "json" defaultInlineTypes earlierStatements).outcome =
      .ok earlierPage := by decide +kernel
  have hboth : (document "json" defaultInlineTypes
      (earlierStatements ++ [laterStatement])).outcome = .ok (earlierPage ++ laterSection) := by
    decide +kernel
  obtain rfl := Except.ok.inj (hpage.symm.trans hfirst)
  have hsection := (String.append_right_inj _).1 (Except.ok.inj (hpages.symm.trans hboth))
  exact ⟨_, added, ds, d, linked, hpage, hpages, hds, hd, hlinked, hadded, rfl, hsection⟩

end TypeAtlas
