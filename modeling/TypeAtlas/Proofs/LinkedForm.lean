import TypeAtlas.Document

/-! # Linked forms

`linkDeclarations` in closed form. Linking a leaf never fails, so each stage of it is a `Report` whose
result and whose messages can be written down at once.

* `Resolver.segment`: what a leaf becomes.
* `Resolver.IsLoose`: a leaf that is reported, as it names nothing.
* `Resolver.linkedShape`: what a shape becomes.
* `Declaration.map`: a declaration with its shapes changed; a linked declaration is one of these.
* `Declaration.index`: declarations under their names, the last one of each name.
* `linkedDocs`: what linking some declarations among each other gives.

Main statements: `Resolver.linkShape_eq`, `Resolver.linkDeclaration_eq`, `outcome_linkDeclarations`. -/

namespace TypeAtlas

variable {σ τ : Type}

/-! ## Shapes inside of declarations -/

/-- A property with its shape changed. -/
def Property.map (f : σ → τ) (p : Property σ) : Property τ :=
  ⟨p.name, f p.shape, p.optional, p.description, p.defaultText, p.exampleText⟩

namespace Declaration

/-- A declaration with its shapes changed. -/
def map (f : σ → τ) : Declaration σ → Declaration τ
  | .interface name ps description exampleText =>
    .interface name (ps.map (Property.map f)) description exampleText
  | .typeAlias name shape description exampleText =>
    .typeAlias name (f shape) description exampleText

/-- The shapes of a declaration in order, each with the owner that messages name for it. -/
def ownedShapes : Declaration σ → List (String × σ)
  | .interface name ps _ _ => ps.map fun p => (name ++ "." ++ p.name, p.shape)
  | .typeAlias name shape _ _ => [(name, shape)]

@[simp] theorem name_map (f : σ → τ) (d : Declaration σ) : (d.map f).name = d.name := by
  cases d <;> rfl

/-- Changing shapes keeps their owners. -/
theorem ownedShapes_map (f : σ → τ) (d : Declaration σ) :
    (d.map f).ownedShapes = d.ownedShapes.map fun o => (o.1, f o.2) := by
  cases d with
  | interface name ps description exampleText =>
    simp only [map, ownedShapes, List.map_map]
    rfl
  | typeAlias name shape description exampleText => rfl

/-- Declarations filed under their names: a name has the place of its first declaration and the value
of its last. -/
def index (ds : List (Declaration σ)) : Catalogue String (Declaration σ) :=
  Catalogue.ofList (ds.map fun d => (d.name, d))

/-- The index is built by filing one declaration after the other. -/
theorem index_eq_foldl (ds : List (Declaration σ)) :
    index ds = ds.foldl (fun c d => Catalogue.insert d.name d c) [] := by
  rw [index, Catalogue.ofList, List.foldl_map]

/-- Filing declarations under their names keeps every key equal to the name below it. -/
theorem name_eq_of_mem_foldl (ds : List (Declaration σ)) {c : Catalogue String (Declaration σ)}
    (hc : ∀ p ∈ c, p.2.name = p.1) :
    ∀ p ∈ ds.foldl (fun c d => Catalogue.insert d.name d c) c, p.2.name = p.1 := by
  induction ds generalizing c with
  | nil => exact hc
  | cons d ds ih =>
    apply ih
    intro p hp
    rcases Catalogue.mem_insert hp with rfl | hmem
    · rfl
    · exact hc p hmem

/-- A declaration is filed under its own name. -/
theorem name_eq_of_mem_index {ds : List (Declaration σ)} {p : String × Declaration σ}
    (hp : p ∈ index ds) : p.2.name = p.1 := by
  rw [index_eq_foldl] at hp
  exact name_eq_of_mem_foldl ds (fun _ h => absurd h List.not_mem_nil) p hp

end Declaration

namespace Resolver

variable {ε : Type}

/-! ## Leaves and shapes -/

/-- What a leaf becomes: the inline text that it stands for, a link to its declaration, or itself. -/
def segment (r : Resolver) (leaf : String) : Segment :=
  if r.isInline leaf then .text leaf
  else
    match r.inlineText? leaf with
    | some text => .text text
    | none => if Catalogue.has (some leaf) r.known then .link leaf else .text leaf

/-- What is said about a leaf of the type of `owner`: it is reported when it is neither inline nor
declared. -/
def leafEvents (r : Resolver) (owner leaf : String) : List Event :=
  if r.isInline leaf || Catalogue.has (some leaf) r.known then []
  else [.diagnostic (.unresolved owner leaf)]

/-- A leaf names nothing: it is neither inline nor declared. -/
def IsLoose (r : Resolver) (leaf : String) : Prop :=
  leaf ∉ r.inline ∧ isQuotedLiteral leaf = false ∧ Catalogue.has (some leaf) r.known = false

/-- Whether a leaf names nothing can be computed. -/
instance (r : Resolver) (leaf : String) : Decidable (r.IsLoose leaf) :=
  inferInstanceAs (Decidable (_ ∧ _ ∧ _))

/-- A shape with resolved leaves. -/
def linkedShape (r : Resolver) (s : Shape) : LinkedShape :=
  let cut := Template.cut s.template.toList
  LinkedShape.join (.text (String.ofList cut.1) ::
    (s.leaves.zip (cut.2.map String.ofList)).flatMap fun p => [r.segment p.1, .text p.2])

/-- Loose leaves are what is reported. -/
theorem leafEvents_eq (r : Resolver) (owner leaf : String) :
    r.leafEvents owner leaf =
      if r.IsLoose leaf then [.diagnostic (.unresolved owner leaf)] else [] := by
  have hloose : ¬ (r.isInline leaf || Catalogue.has (some leaf) r.known) = true ↔ r.IsLoose leaf := by
    simp [IsLoose, isInline, and_assoc]
  rw [leafEvents]
  split
  · rename_i hnamed
    rw [if_neg fun h => hloose.2 h hnamed]
  · rename_i hnot
    rw [if_pos (hloose.1 hnot)]

/-- What is said about leaves are the loose ones among them, in order. -/
theorem flatMap_leafEvents (r : Resolver) (owner : String) (leaves : List String) :
    leaves.flatMap (r.leafEvents owner) =
      ((leaves.filter fun leaf => r.IsLoose leaf).map (.unresolved owner)).map .diagnostic := by
  induction leaves with
  | nil => rfl
  | cons leaf leaves ih =>
    rw [List.flatMap_cons, leafEvents_eq, ih, List.filter_cons]
    by_cases h : r.IsLoose leaf
    · simp [h]
    · simp [h]

/-- What comes down to an inline leaf is declared. -/
theorem has_of_inlineText? {r : Resolver} {name text : String}
    (h : r.inlineText? name = some text) : Catalogue.has (some name) r.known = true := by
  rw [inlineText?, chase] at h
  split at h
  · cases h
  · rename_i target ht
    obtain ⟨c, hc, -⟩ := Option.bind_eq_some_iff.1 ht
    rw [Catalogue.has, hc]
    rfl

/-- Linking a leaf gives its segment and says what there is to say about it. -/
theorem linkLeaf_eq (r : Resolver) (owner leaf : String) :
    (r.linkLeaf owner leaf : Report ε Segment) =
      ⟨r.leafEvents owner leaf, .ok (r.segment leaf)⟩ := by
  -- in the order of the decisions: inline, an alias of something inline, declared, or none of these
  rw [linkLeaf, leafEvents, segment]
  by_cases hinline : r.isInline leaf = true
  · simp only [hinline, if_true, Bool.true_or, Report.pure_eq]
  cases htext : r.inlineText? leaf with
  | some text =>
    have hhas := has_of_inlineText? htext
    simp only [hinline, hhas, if_true, if_false, Bool.false_eq_true, Bool.or_true, Report.pure_eq]
  | none =>
    by_cases hhas : Catalogue.has (some leaf) r.known = true
    · simp only [hinline, hhas, if_true, if_false, Bool.false_eq_true, Bool.or_true,
        Report.pure_eq]
    · simp only [hinline, hhas, if_false, Bool.false_eq_true, Bool.or_self]
      rfl

/-- Linking leaves gives their segments, each with the text behind it. -/
theorem linkLeaves_eq (r : Resolver) (owner : String) (ls : List (String × String)) :
    (r.linkLeaves owner ls : Report ε (List Segment)) =
      ⟨ls.flatMap fun p => r.leafEvents owner p.1,
        .ok (ls.flatMap fun p => [r.segment p.1, .text p.2])⟩ := by
  induction ls with
  | nil => rfl
  | cons p ls ih =>
    obtain ⟨leaf, after⟩ := p
    rw [linkLeaves, linkLeaf_eq, ih]
    simp

/-- A shape has as many texts behind its leaves as it has leaves. -/
theorem length_leaves_eq_cut (s : Shape) :
    s.leaves.length = ((Template.cut s.template.toList).2.map String.ofList).length := by
  rw [List.length_map, Template.length_cut_snd, s.fits]

/-- Pairing the leaves of a shape with the texts behind them leaves out none of them. -/
theorem map_fst_zip_cut (s : Shape) :
    (s.leaves.zip ((Template.cut s.template.toList).2.map String.ofList)).map Prod.fst = s.leaves :=
  List.map_fst_zip (Nat.le_of_eq (length_leaves_eq_cut s))

/-- Linking a shape gives its linked form and says what there is to say about its leaves. -/
theorem linkShape_eq (r : Resolver) (owner : String) (s : Shape) :
    (r.linkShape owner s : Report ε LinkedShape) =
      ⟨s.leaves.flatMap (r.leafEvents owner), .ok (r.linkedShape s)⟩ := by
  rw [linkShape, linkLeaves_eq]
  have hevents : (s.leaves.zip ((Template.cut s.template.toList).2.map String.ofList)).flatMap
      (fun p => r.leafEvents owner p.1) = s.leaves.flatMap (r.leafEvents owner) := by
    rw [← List.flatMap_map, map_fst_zip_cut]
  simp [hevents, linkedShape]

/-! ## Declarations -/

/-- What is said about a declaration: what is said about its leaves. -/
def declarationEvents (r : Resolver) (d : Declaration Shape) : List Event :=
  d.ownedShapes.flatMap fun o => o.2.leaves.flatMap (r.leafEvents o.1)

/-- Linking properties links their shapes. -/
theorem linkProperties_eq (r : Resolver) (owner : String) (ps : List (Property Shape)) :
    (r.linkProperties owner ps : Report ε (List (Property LinkedShape))) =
      ⟨ps.flatMap fun p => p.shape.leaves.flatMap (r.leafEvents (owner ++ "." ++ p.name)),
        .ok (ps.map (Property.map r.linkedShape))⟩ := by
  induction ps with
  | nil => rfl
  | cons p ps ih =>
    rw [linkProperties, linkProperty, linkShape_eq, ih]
    simp [Property.map]

/-- Linking a declaration links its shapes. -/
theorem linkDeclaration_eq (r : Resolver) (d : Declaration Shape) :
    (r.linkDeclaration d : Report ε (Declaration LinkedShape)) =
      ⟨r.declarationEvents d, .ok (d.map r.linkedShape)⟩ := by
  cases d with
  | interface name ps description exampleText =>
    rw [linkDeclaration, linkProperties_eq]
    simp [declarationEvents, Declaration.ownedShapes, Declaration.map, List.flatMap_map]
  | typeAlias name shape description exampleText =>
    rw [linkDeclaration, linkShape_eq]
    simp [declarationEvents, Declaration.ownedShapes, Declaration.map]

/-! ## Catalogues of declarations -/

/-- Named declarations as candidates under their names. -/
def declared (c : Catalogue String (Declaration Shape)) : Catalogue (Option String) Candidate :=
  c.map fun p => (some p.1, .declaration p.2)

/-- What is declared under a name. -/
theorem find?_declared (name : String) (c : Catalogue String (Declaration Shape)) :
    Catalogue.find? (some name) (declared c) = (Catalogue.find? name c).map .declaration :=
  Catalogue.find?_map (fun _ _ => Option.some.inj) Candidate.declaration name c

/-- The declared names are the keys. -/
theorem has_declared (name : String) (c : Catalogue String (Declaration Shape)) :
    Catalogue.has (some name) (declared c) = Catalogue.has name c := by
  rw [Catalogue.has, Catalogue.has, find?_declared, Option.isSome_map]

/-- Declarations are collected without a failure, filed under their names. -/
theorem outcome_collect (ds : List (Declaration Shape)) (c : Catalogue String (Declaration Shape)) :
    (collect (declared c) (ds.map .declaration)).outcome =
      .ok (declared (ds.foldl (fun c d => Catalogue.insert d.name d c) c)) := by
  induction ds generalizing c with
  | nil => rfl
  | cons d ds ih =>
    have hinsert : Catalogue.insert (some d.name) (.declaration d) (declared c) =
        declared (Catalogue.insert d.name d c) :=
      Catalogue.insert_map (fun _ _ => Option.some.inj) Candidate.declaration d.name d c
    rw [List.map_cons, collect, List.foldl_cons, ← ih]
    simp only [Candidate.key?, hinsert]
    -- a repeated name is reported, which has no part in the outcome
    split <;> rfl

/-- Linking the entries of a catalogue of declarations links each of them. -/
theorem linkEntries_declared (r : Resolver) (c : Catalogue String (Declaration Shape)) :
    r.linkEntries (declared c) =
      ⟨c.flatMap fun p => r.declarationEvents p.2,
        .ok (c.map fun p => (p.1, p.2.map r.linkedShape))⟩ := by
  induction c with
  | nil => rfl
  | cons p c ih =>
    rw [declared, List.map_cons, linkEntries, linkDeclaration_eq, ← declared, ih]
    simp

/-- The resolver that knows some declarations. -/
def knowing (inline : List String) (ds : List (Declaration Shape)) : Resolver :=
  ⟨inline, declared (Declaration.index ds)⟩

end Resolver

/-- Declarations linked among each other, under their names. -/
def linkedDocs (inline : List String) (ds : List (Declaration Shape)) : LinkedDocs :=
  (Declaration.index ds).map fun p => (p.1, p.2.map (Resolver.knowing inline ds).linkedShape)

/-- Resolving declarations leaves a resolver that knows them and nothing else. It says what there is to
say while collecting, then how many there are, then what there is to say about each. -/
theorem Resolver.resolve_declarations (r : Resolver) (ds : List (Declaration Shape)) :
    r.resolve (ds.map .declaration) =
      (knowing r.inline ds,
        ⟨(collect [] (ds.map .declaration)).events ++
            .note .linking ("Resolving links across " ++
              toString (declared (Declaration.index ds)).length ++ " declarations") ::
            (Declaration.index ds).flatMap fun p => (knowing r.inline ds).declarationEvents p.2,
          .ok (linkedDocs r.inline ds)⟩) := by
  have hcollect := outcome_collect ds []
  rw [show declared [] = [] from rfl, ← Declaration.index_eq_foldl] at hcollect
  rw [resolve]
  simp only [hcollect, Report.andThen]
  rw [← knowing, linkEntries_declared]
  rfl

/-- **Linking declarations never fails**, and gives their linked forms under their names. -/
theorem outcome_linkDeclarations (inline : List String) (ds : List (Declaration Shape)) :
    (linkDeclarations inline ds).outcome = .ok (linkedDocs inline ds) := by
  apply Report.outcome_mapError_of_ok
  rw [Resolver.link, Resolver.resolve_declarations]

end TypeAtlas
