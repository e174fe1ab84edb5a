import TypeAtlas.Parser
import TypeAtlas.Proofs.Guards
import TypeAtlas.Proofs.PageText
import TypeAtlas.Proofs.TreeWalk

/-! # When there is no page

The stages of `document` and `generate` cannot fail on well-formed statements, and a tree has no other
ones. What is left is the name of the format, which is looked at last: it alone decides whether there is
a page, and by then all diagnostics are out.

* `FailsByFormatOnly`: the name of the format decides, and the diagnostics do not depend on it.

Main statements: `outcome_document`, `diagnostics_document`, `core_fails_by_format_only`. -/

namespace TypeAtlas

/-- A page for each name of a format, which fails because of that name only. -/
structure FailsByFormatOnly {ε : Type} (fault : FormatFault → ε)
    (page : String → Report ε String) : Prop where
  /-- It fails exactly when no format has the name, and with that fault. -/
  error_iff : ∀ formatName e, (page formatName).outcome = .error e ↔
    ∃ f, Format.parse formatName = .error f ∧ e = fault f
  /-- The same is said whatever the name is, whether it fails or not. -/
  diagnostics_eq : ∀ formatName formatName',
    (page formatName).diagnostics = (page formatName').diagnostics

/-- Seeing the faults of a page as others changes nothing else. -/
theorem FailsByFormatOnly.mapError {ε ε' : Type} {fault : FormatFault → ε}
    {page : String → Report ε String} {page' : String → Report ε' String}
    (h : FailsByFormatOnly fault page) (g : ε → ε')
    (houtcome : ∀ formatName, (page' formatName).outcome = (page formatName).outcome.mapError g)
    (hsaid : ∀ formatName, (page' formatName).diagnostics = (page formatName).diagnostics) :
    FailsByFormatOnly (fun f => g (fault f)) page' where
  error_iff formatName e := by
    rw [houtcome]
    cases hout : (page formatName).outcome with
    | ok text =>
      -- there is a page, so the name is that of a format
      constructor
      · intro he
        cases he
      · rintro ⟨f, hf, -⟩
        have herror := (h.error_iff formatName (fault f)).2 ⟨f, hf, rfl⟩
        rw [hout] at herror
        cases herror
    | error e' =>
      obtain ⟨f, hf, rfl⟩ := (h.error_iff formatName e').1 hout
      constructor
      · intro he
        exact ⟨f, hf, (Except.error.inj he).symm⟩
      · rintro ⟨f', hf', rfl⟩
        rw [Except.error.inj (hf.symm.trans hf')]
        rfl
  diagnostics_eq formatName formatName' := by
    rw [hsaid, hsaid]
    exact h.diagnostics_eq formatName formatName'

/-! ## Documents -/

section Document

variable {ss : List Statement} (h : ∀ s ∈ ss, s.WellFormed)

include h

/-- The page of well-formed statements is that of their linked declarations. -/
theorem outcome_document (formatName : String) (inline : List String) :
    (document formatName inline ss).outcome =
      (renderPage formatName (linkedDocs inline (ss.filterMap Statement.declared?))).outcome := by
  have hextract := Report.outcome_mapError_of_ok (Declaration.outcome_extract h)
    DocumentFault.malformedType
  rw [document, Report.bind_eq, Report.outcome_andThen hextract, Report.bind_eq,
    Report.outcome_andThen (outcome_linkDeclarations _ _)]

/-- The diagnostics of well-formed statements are those of extraction and those of linking. -/
theorem diagnostics_document (formatName : String) (inline : List String) :
    (document formatName inline ss).diagnostics =
      (Declaration.extract ss).diagnostics ++
        (linkDeclarations inline (ss.filterMap Statement.declared?)).diagnostics := by
  -- the third stage, which knows the name of the format, says nothing
  have hextract := Report.outcome_mapError_of_ok (Declaration.outcome_extract h)
    DocumentFault.malformedType
  rw [document, Report.bind_eq, Report.diagnostics_andThen hextract, Report.bind_eq,
    Report.diagnostics_andThen (outcome_linkDeclarations _ _), diagnostics_renderPage,
    List.append_nil, Report.diagnostics_mapError]

/-- The page of well-formed statements fails because of the name of the format only. -/
theorem failsByFormatOnly_document (inline : List String) :
    FailsByFormatOnly .format fun formatName => document formatName inline ss where
  error_iff formatName e := by
    rw [outcome_document h]
    exact outcome_renderPage_eq_error_iff
  diagnostics_eq formatName formatName' := by
    rw [diagnostics_document h, diagnostics_document h]

end Document

/-! ## Source texts with a tree -/

/-- Reading a tree always ends well. -/
theorem outcome_ofTree (root : SyntaxTree) (source : List Char) :
    ((Parser.ofTree root source).mapError GenerateFault.parser).outcome =
      .ok (root.statements (Text.Utf8.encode source)) := rfl

/-- Generating a page from a tree documents the statements of the tree. -/
theorem outcome_generate (root : SyntaxTree) (formatName : String) (inline : List String)
    (source : List Char) :
    (generate (.ofTree root) formatName inline source).outcome =
      (document formatName inline (root.statements (Text.Utf8.encode source))).outcome.mapError
        .document := by
  rw [generate, Report.bind_eq, Report.outcome_andThen (outcome_ofTree root source)]
  rfl

/-- Generating a page from a tree says what documenting its statements says. -/
theorem diagnostics_generate (root : SyntaxTree) (formatName : String) (inline : List String)
    (source : List Char) :
    (generate (.ofTree root) formatName inline source).diagnostics =
      (document formatName inline (root.statements (Text.Utf8.encode source))).diagnostics := by
  rw [generate, Report.bind_eq, Report.diagnostics_andThen (outcome_ofTree root source)]
  rfl

/-- The page of a source text fails because of the name of the format only, whatever its tree is. -/
theorem failsByFormatOnly_generate (root : SyntaxTree) (inline : List String)
    (source : List Char) :
    FailsByFormatOnly (fun f => .document (.format f))
      fun formatName => generate (.ofTree root) formatName inline source :=
  (failsByFormatOnly_document (SyntaxTree.wellFormed_statements _ root) inline).mapError .document
    (fun formatName => outcome_generate root formatName inline source)
    (fun formatName => diagnostics_generate root formatName inline source)

/-- **Only the name of the format can fail.** For well-formed statements there is no page exactly when
no format has the given name, and all diagnostics are the same as with a good name. The statements of
any tree over any source text are well-formed, so that holds of a source text as well. On the way no
shape is refused but for a malformed type, every part of a template is found, and so is the first line
of every summary. -/
theorem core_fails_by_format_only (inline : List String) :
    (∀ ss : List Statement, (∀ s ∈ ss, s.WellFormed) →
      FailsByFormatOnly .format fun formatName => document formatName inline ss) ∧
    (∀ (source : List Char) (root : SyntaxTree),
      (∀ s ∈ root.statements (Text.Utf8.encode source), s.WellFormed) ∧
        FailsByFormatOnly (fun f => .document (.format f))
          fun formatName => generate (.ofTree root) formatName inline source) ∧
    (∀ t : TypeExpr, t.guardedShape = t.decompose.mapError .malformed) ∧
    (∀ (r : Resolver) (owner : String) (s : Shape),
      r.guardedLinkShape owner s = r.linkShape owner s) ∧
    ∀ (bytes : SourceBytes) (t : SyntaxTree), t.guardedSummary bytes = .ok (t.summary bytes) := by
  refine ⟨fun ss h => failsByFormatOnly_document h inline, ?_, TypeExpr.guardedShape_eq,
    Resolver.guardedLinkShape_eq, SyntaxTree.guardedSummary_eq⟩
  intro source root
  exact ⟨SyntaxTree.wellFormed_statements _ root, failsByFormatOnly_generate root inline source⟩

/-- An import, a hidden alias, and an interface with an array of an empty union and a type that is
not given. -/
def mixedStatements : List Statement :=
  [.importing "import x", .typeAlias "Hidden" false (.named "string") none,
    .interface "A" true
      [.property ⟨"p", .array (.union []), false, none⟩, .property ⟨"q", .absent, true, none⟩] none]

/-- With an unknown format the mixed statements fail, after what is said with a known one. -/
theorem core_fails_by_format_only_mixedStatements :
    (∀ s ∈ mixedStatements, s.WellFormed) ∧
      (document "xml" defaultInlineTypes mixedStatements).outcome = .error (.format ⟨"xml"⟩) ∧
      (document "xml" defaultInlineTypes mixedStatements).diagnostics =
        (document "Table" defaultInlineTypes mixedStatements).diagnostics ∧
      ∃ page, (document "Table" defaultInlineTypes mixedStatements).outcome = .ok page := by
  have hwell : ∀ s ∈ mixedStatements, s.WellFormed := by decide
  have hfails := (core_fails_by_format_only defaultInlineTypes).1 mixedStatements hwell
  refine ⟨hwell, (hfails.error_iff "xml" _).2 ⟨_, rfl, rfl⟩, hfails.diagnostics_eq "xml" "Table", ?_⟩
  cases hout : (document "Table" defaultInlineTypes mixedStatements).outcome with
  | ok page => exact ⟨page, rfl⟩
  | error e =>
    obtain ⟨f, hf, -⟩ := (hfails.error_iff "Table" e).1 hout
    cases hf

end TypeAtlas
