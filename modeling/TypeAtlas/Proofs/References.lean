import TypeAtlas.Proofs.CrossReference
import TypeAtlas.Proofs.Linking

/-! # References and sections

A declared type is seen in two places: in its own section, and wherever another type refers to it. The
section of an alias resolves the leaf behind the alias; a reference resolves the name of the alias, and
so the leaf behind it one step later, when the name counts as seen. Both come to the same
(`Resolver.inlineText?_of_aliasTarget?`), since the search finds the end of a chain wherever on the
chain it starts.

* `Resolver.SettlesAsText`: an alias of one leaf whose own type is text about which nothing is said.

Main statement: `reference_agrees_with_section`. -/

namespace TypeAtlas

/-- Empty texts around one segment leave that segment. -/
theorem LinkedShape.join_single (s : Segment) : join [.text "", s, .text ""] = join [s] := by
  cases s with
  | text t =>
    by_cases ht : t.isEmpty = true
    · simp [join, cons, ht]
    · simp [join, cons, ht]
  | link target => rfl

namespace Resolver

variable {r : Resolver} {name leaf : String}

/-! ## One alias further -/

/-- **An alias comes down to what its leaf comes down to**, unless that leaf is inline itself. -/
theorem inlineText?_of_aliasTarget? (h : r.aliasTarget? name = some leaf) :
    r.inlineText? name = if r.isInline leaf then some leaf else r.inlineText? leaf := by
  by_cases hinline : r.isInline leaf = true
  · rw [inlineText?, chase_of_some h, if_pos hinline, if_pos hinline]
  rw [if_neg hinline]
  have halias := aliasTarget?_eq_some_iff.1 h
  -- a chain from `name` is a chain from `leaf` with `leaf` put before it
  ext text
  rw [inlineText?_eq_some_iff, inlineText?_eq_some_iff]
  constructor
  · rintro ⟨via, hvia⟩
    cases via with
    | nil =>
      obtain ⟨hlast, htext⟩ := aliasChain_nil.1 hvia
      rw [hlast.right_unique halias] at htext
      exact absurd htext hinline
    | cons a via =>
      obtain ⟨hfirst, -, hrest⟩ := aliasChain_cons.1 hvia
      rw [hfirst.right_unique halias] at hrest
      exact ⟨via, hrest⟩
  · rintro ⟨via, hvia⟩
    exact ⟨leaf :: via, aliasChain_cons.2 ⟨halias, by simpa using hinline, hvia⟩⟩

/-! ## Shapes of one leaf -/

/-- The linked form of a shape that is one leaf is the segment of that leaf. -/
theorem linkedShape_of_single {s : Shape} (hleaves : s.leaves = [leaf])
    (htemplate : s.template = Shape.single) :
    r.linkedShape s = LinkedShape.join [r.segment leaf] := by
  have hcut : Template.cut s.template.toList = ([], [[]]) := by
    rw [htemplate]
    rfl
  rw [linkedShape, hcut, hleaves]
  exact LinkedShape.join_single (r.segment leaf)

/-- Linking a shape that is one leaf says what there is to say about that leaf. -/
theorem linkShape_of_single {ε : Type} (owner : String) {s : Shape} (hleaves : s.leaves = [leaf])
    (htemplate : s.template = Shape.single) :
    (r.linkShape owner s : Report ε LinkedShape) =
      ⟨r.leafEvents owner leaf, .ok (LinkedShape.join [r.segment leaf])⟩ := by
  rw [linkShape_eq, linkedShape_of_single hleaves htemplate, hleaves, List.flatMap_singleton]

/-- A shape with the template of a single leaf has one leaf. -/
theorem exists_leaf_of_single {s : Shape} (h : s.template = Shape.single) :
    ∃ leaf, s.leaves = [leaf] := by
  have hlength := s.fits
  rw [h] at hlength
  exact List.length_eq_one_iff.1 hlength.symm

/-- An alias whose type is one leaf, and whose own type comes to text about which nothing is said. -/
def SettlesAsText (r : Resolver) : Declaration Shape → Prop
  | .interface .. => False
  | .typeAlias name shape _ _ =>
    shape.template = Shape.single ∧
      (∃ linked : LinkedShape,
        (r.linkShape name shape : Report LinkFault LinkedShape).outcome = .ok linked ∧
          linked.isInline = true) ∧
      (r.linkShape name shape : Report LinkFault LinkedShape).diagnostics = []

/-- Nothing is said about a leaf exactly when no diagnostic is. -/
theorem diagnostics_leafEvents_eq_nil {ε α : Type} (owner leaf : String) (o : Except ε α) :
    (⟨r.leafEvents owner leaf, o⟩ : Report ε α).diagnostics = [] ↔ r.leafEvents owner leaf = [] := by
  rw [leafEvents]
  split
  · simp [Report.diagnostics]
  · simp [Report.diagnostics]

/-- An alias of one leaf settles as text exactly when the leaf is inline or comes down to something
inline. -/
theorem settlesAsText_iff {s : Shape} (description exampleText : Option String)
    (hleaves : s.leaves = [leaf]) (htemplate : s.template = Shape.single) :
    r.SettlesAsText (.typeAlias name s description exampleText) ↔
      r.isInline leaf = true ∨ (r.inlineText? leaf).isSome = true := by
  have hsettles : r.SettlesAsText (.typeAlias name s description exampleText) ↔
      (LinkedShape.links [r.segment leaf] = [] ∧ r.leafEvents name leaf = []) := by
    rw [SettlesAsText, linkShape_of_single name hleaves htemplate, diagnostics_leafEvents_eq_nil]
    simp [htemplate, LinkedShape.isInline, LinkedShape.links_join]
  rw [hsettles, leafEvents, segment]
  by_cases hinline : r.isInline leaf = true
  · simp [hinline, LinkedShape.links]
  cases htext : r.inlineText? leaf with
  | some text => simp [hinline, has_of_inlineText? htext, LinkedShape.links]
  | none =>
    -- a leaf that is declared becomes a link, any other is reported
    by_cases hhas : Catalogue.has (some leaf) r.known = true
    · simp [hinline, hhas, LinkedShape.links]
    · simp [hinline, hhas, LinkedShape.links]

/-! ## Names -/

/-- A declared name that is no alias of one leaf becomes a link. -/
theorem segment_of_not_alias (hhas : Catalogue.has (some name) r.known = true)
    (hinline : r.isInline name = false) (h : r.aliasTarget? name = none) :
    r.segment name = .link name := by
  rw [segment_eq_link_iff]
  exact ⟨rfl, hinline, chase_of_none h, hhas⟩

/-- A declared alias of one leaf becomes what the leaf becomes if that is inline or comes down to
something inline, and else a link. -/
theorem segment_of_alias (hhas : Catalogue.has (some name) r.known = true)
    (hinline : r.isInline name = false) (h : r.aliasTarget? name = some leaf) :
    r.segment name =
      if r.isInline leaf = true ∨ (r.inlineText? leaf).isSome = true then r.segment leaf
      else .link name := by
  have hname := inlineText?_of_aliasTarget? h
  by_cases hleaf : r.isInline leaf = true
  · rw [if_pos hleaf] at hname
    simp [segment, hinline, hname, hleaf]
  rw [if_neg hleaf] at hname
  cases htext : r.inlineText? leaf with
  | some text => simp [segment, hinline, hname, hleaf, htext]
  | none => simp [segment, hinline, hname, hleaf, htext, hhas]

/-- What a reference to a declared name that is not inline becomes, by how its declaration settles. -/
theorem segment_of_known {d : Declaration Shape}
    (hd : Catalogue.find? (some name) r.known = some (.declaration d))
    (hinline : r.isInline name = false) :
    (r.SettlesAsText d → ∃ shape description exampleText,
      d.map r.linkedShape = .typeAlias d.name shape description exampleText ∧
        LinkedShape.join [r.segment name] = shape) ∧
      (¬ r.SettlesAsText d → r.segment name = .link name) := by
  have hhas : Catalogue.has (some name) r.known = true := by
    rw [Catalogue.has, hd]
    rfl
  have htarget : r.aliasTarget? name = Candidate.aliasTarget? (.declaration d) := by
    rw [aliasTarget?, hd, Option.bind_some]
  cases d with
  | interface declared ps description exampleText =>
    exact ⟨False.elim, fun _ => segment_of_not_alias hhas hinline htarget⟩
  | typeAlias declared s description exampleText =>
    by_cases htemplate : s.template = Shape.single
    · obtain ⟨leaf, hleaves⟩ := exists_leaf_of_single htemplate
      have halias : r.aliasTarget? name = some leaf := by
        rw [htarget, Candidate.aliasTarget?_eq_some_iff]
        exact ⟨declared, s, description, exampleText, rfl, hleaves, htemplate⟩
      rw [settlesAsText_iff description exampleText hleaves htemplate,
        segment_of_alias hhas hinline halias]
      constructor
      · intro hsettles
        refine ⟨_, description, exampleText, rfl, ?_⟩
        rw [if_pos hsettles, linkedShape_of_single hleaves htemplate]
      · intro hsettles
        rw [if_neg hsettles]
    · -- a compound alias
      have hcompound : r.aliasTarget? name = none := by
        rw [htarget, Option.eq_none_iff_forall_ne_some]
        intro leaf hleaf
        obtain ⟨_, _, _, _, hc, -, hsingle⟩ := Candidate.aliasTarget?_eq_some_iff.1 hleaf
        cases hc
        exact htemplate hsingle
      exact ⟨fun hsettles => absurd hsettles.1 htemplate,
        fun _ => segment_of_not_alias hhas hinline hcompound⟩

end Resolver

/-- **A reference to a type and the section of that type agree.** Let declarations be resolved, and let
`name` be declared and not inline. A reference to `name` is the shape in the section of `name` if that
is an alias of one leaf which settles as text, and else one link to `name`. Nothing is said about the
reference. -/
theorem reference_agrees_with_section (r : Resolver) (ds : List (Declaration Shape))
    (owner name : String) (hdeclared : name ∈ ds.map Declaration.name)
    (hinline : r.isInline name = false) :
    ∃ docs d l, (r.resolve (ds.map .declaration)).2.outcome = .ok docs ∧
      Declaration.lastNamed? ds name = some d ∧ Catalogue.find? name docs = some l ∧
      ((r.resolve (ds.map .declaration)).1.SettlesAsText d →
        ∃ shape description exampleText, l = .typeAlias name shape description exampleText ∧
          ((r.resolve (ds.map .declaration)).1.linkShape owner (.leaf name) :
            Report LinkFault LinkedShape) = ⟨[], .ok shape⟩) ∧
      (¬ (r.resolve (ds.map .declaration)).1.SettlesAsText d →
        ((r.resolve (ds.map .declaration)).1.linkShape owner (.leaf name) :
          Report LinkFault LinkedShape) = ⟨[], .ok [.link name]⟩) := by
  rw [Resolver.resolve_declarations]
  dsimp only
  obtain ⟨d, hd⟩ := Option.isSome_iff_exists.1 (Declaration.has_index_iff.2 hdeclared)
  have hlast : Declaration.lastNamed? ds name = some d := by
    rw [← Declaration.find?_index, hd]
  have hknown : Catalogue.find? (some name) (Resolver.knowing r.inline ds).known =
      some (.declaration d) := by
    rw [Resolver.knowing, Resolver.find?_declared, hd, Option.map_some]
  have hfound : Catalogue.find? name (linkedDocs r.inline ds) =
      some (d.map (Resolver.knowing r.inline ds).linkedShape) := by
    rw [← Option.map_some, ← hd]
    exact Catalogue.find?_map (fun _ _ => id) _ name (Declaration.index ds)
  have hreference : ((Resolver.knowing r.inline ds).linkShape owner (.leaf name) :
      Report LinkFault LinkedShape) =
        ⟨[], .ok (LinkedShape.join [(Resolver.knowing r.inline ds).segment name])⟩ := by
    rw [Resolver.linkShape_of_single owner rfl rfl, Resolver.leafEvents, Catalogue.has, hknown]
    simp
  obtain ⟨htext, hlink⟩ := Resolver.segment_of_known hknown hinline
  rw [hreference]
  refine ⟨_, d, _, rfl, hlast, hfound, ?_, ?_⟩
  · intro hsettles
    obtain ⟨shape, description, exampleText, hsection, hshape⟩ := htext hsettles
    rw [Declaration.name_of_lastNamed? hlast] at hsection
    exact ⟨shape, description, exampleText, hsection, by rw [hshape]⟩
  · intro hsettles
    rw [hlink hsettles]
    rfl

/-- An alias of an alias of an inline type, and two aliases of each other. -/
def chainAndCycle : List (Declaration Shape) :=
  [.typeAlias "A" (.leaf "B") none none, .typeAlias "X" (.leaf "Y") none none,
    .typeAlias "B" (.leaf "string") none none, .typeAlias "Y" (.leaf "X") none none]

/-- A reference to the alias of an alias is the inline type, as in its section; a reference into the
cycle is a link, while the section shows the other alias. -/
theorem reference_agrees_with_section_chainAndCycle :
    ∃ docs, (Resolver.resolve ⟨defaultInlineTypes, []⟩ (chainAndCycle.map .declaration)).2.outcome =
        .ok docs ∧
      Catalogue.find? "A" docs = some (.typeAlias "A" [.text "string"] none none) ∧
      ((Resolver.resolve ⟨defaultInlineTypes, []⟩ (chainAndCycle.map .declaration)).1.linkShape "O"
        (.leaf "A") : Report LinkFault LinkedShape) = ⟨[], .ok [.text "string"]⟩ ∧
      Catalogue.find? "X" docs = some (.typeAlias "X" [.link "Y"] none none) ∧
      ((Resolver.resolve ⟨defaultInlineTypes, []⟩ (chainAndCycle.map .declaration)).1.linkShape "O"
        (.leaf "X") : Report LinkFault LinkedShape) = ⟨[], .ok [.link "X"]⟩ := by
  obtain ⟨docs, d, l, hdocs, hd, hl, htext, -⟩ :=
    reference_agrees_with_section ⟨defaultInlineTypes, []⟩ chainAndCycle "O" "A" (by decide)
      (by decide +kernel)
  obtain ⟨_, e, _, -, he, -, -, hlink⟩ :=
    reference_agrees_with_section ⟨defaultInlineTypes, []⟩ chainAndCycle "O" "X" (by decide)
      (by decide +kernel)
  rw [Resolver.resolve_declarations] at *
  dsimp only at *
  obtain rfl : linkedDocs defaultInlineTypes chainAndCycle = docs := Except.ok.inj hdocs
  have hA : Catalogue.find? "A" (linkedDocs defaultInlineTypes chainAndCycle) =
      some (.typeAlias "A" [.text "string"] none none) := by decide +kernel
  have hX : Catalogue.find? "X" (linkedDocs defaultInlineTypes chainAndCycle) =
      some (.typeAlias "X" [.link "Y"] none none) := by decide +kernel
  obtain rfl : Declaration.typeAlias "A" (.leaf "B") none none = d :=
    Option.some.inj (Eq.trans (by decide +kernel) hd)
  obtain rfl : Declaration.typeAlias "X" (.leaf "Y") none none = e :=
    Option.some.inj (Eq.trans (by decide +kernel) he)
  rw [Resolver.settlesAsText_iff none none rfl rfl] at htext hlink
  obtain ⟨shape, _, _, hsection, hreference⟩ := htext (by decide +kernel)
  obtain rfl : [Segment.text "string"] = shape := by
    rw [hA, hsection] at hl
    cases hl
    rfl
  exact ⟨_, rfl, hA, hreference, hX, hlink (by decide +kernel)⟩

end TypeAtlas
