import TypeAtlas.Proofs.LinkedForm
import TypeAtlas.Proofs.PageText

/-! # Cross-references

A link on a page (`renderPage`) leads to a section of that page. A leaf becomes a link only when it is
declared (`Resolver.segment_eq_link_iff`), joining texts keeps the links of a shape
(`LinkedShape.links_join`), so these are the leaves that become links (`Resolver.links_linkedShape`),
and the declared names are the keys of the result, each of which gets a heading. -/

namespace TypeAtlas

/-- Whether a segment is a link. -/
def Segment.isLink : Segment → Bool
  | .text _ => false
  | .link _ => true

namespace LinkedShape

/-- A segment before others adds its own target, if it has one. -/
theorem links_cons (s : Segment) (ss : LinkedShape) : (cons s ss).links = links (s :: ss) := by
  unfold cons
  split
  · rfl
  · split
    · rfl
    · rfl
  · rfl

/-- Joining texts and leaving out empty ones keeps the links. -/
theorem links_join (ss : List Segment) : (join ss).links = links ss := by
  induction ss with
  | nil => rfl
  | cons s ss ih =>
    rw [join, links_cons]
    cases s with
    | text t => exact ih
    | link target => exact congrArg (target :: ·) ih

end LinkedShape

/-- The targets of all links in linked declarations. -/
def LinkedDocs.targets (docs : LinkedDocs) : List String :=
  docs.flatMap fun p => p.2.ownedShapes.flatMap fun o => o.2.links

namespace Resolver

/-- A leaf becomes a link exactly when it is declared, is not inline and comes down to nothing inline;
the link leads to the leaf itself. -/
theorem segment_eq_link_iff {r : Resolver} {leaf target : String} :
    r.segment leaf = .link target ↔
      leaf = target ∧ r.isInline leaf = false ∧ r.inlineText? leaf = none ∧
        Catalogue.has (some leaf) r.known = true := by
  unfold segment
  by_cases hinline : r.isInline leaf = true
  · simp [hinline]
  cases htext : r.inlineText? leaf with
  | some text => simp [hinline]
  | none => by_cases hhas : Catalogue.has (some leaf) r.known = true <;> simp [hinline, hhas]

/-- A leaf that becomes a link becomes a link to itself. -/
theorem segment_isLink_iff {r : Resolver} {leaf : String} :
    (r.segment leaf).isLink = true ↔ r.segment leaf = .link leaf := by
  constructor
  · intro h
    cases hs : r.segment leaf with
    | text t =>
      rw [hs] at h
      cases h
    | link target => rw [(segment_eq_link_iff.1 hs).1]
  · intro h
    rw [h]
    rfl

/-- The links among resolved leaves and texts are the leaves that become links. -/
theorem links_leaves (r : Resolver) (ls : List (String × String)) :
    LinkedShape.links (ls.flatMap fun p => [r.segment p.1, .text p.2]) =
      (ls.map Prod.fst).filter fun leaf => (r.segment leaf).isLink := by
  induction ls with
  | nil => rfl
  | cons p ls ih =>
    rw [List.flatMap_cons, List.map_cons, List.filter_cons, ← ih]
    by_cases h : (r.segment p.1).isLink = true
    · rw [if_pos h, segment_isLink_iff.1 h]
      rfl
    · rw [if_neg h]
      cases hs : r.segment p.1 with
      | text t => rfl
      | link target =>
        rw [hs] at h
        exact absurd rfl h

/-- **The links of a linked shape are the leaves that become links**, in order. -/
theorem links_linkedShape (r : Resolver) (s : Shape) :
    (r.linkedShape s).links = s.leaves.filter fun leaf => (r.segment leaf).isLink := by
  have hleaves := links_leaves r (s.leaves.zip ((Template.cut s.template.toList).2.map String.ofList))
  rw [map_fst_zip_cut] at hleaves
  -- the text before the first leaf is no link
  rw [linkedShape, LinkedShape.links_join, ← hleaves]
  rfl

/-- The links of a linked shape lead to what is declared. -/
theorem has_of_mem_links {r : Resolver} {s : Shape} {target : String}
    (h : target ∈ (r.linkedShape s).links) : Catalogue.has (some target) r.known = true := by
  rw [links_linkedShape, List.mem_filter] at h
  exact (segment_eq_link_iff.1 (segment_isLink_iff.1 h.2)).2.2.2

end Resolver

/-- The keys of linked declarations are the declared names. -/
theorem keys_linkedDocs (inline : List String) (ds : List (Declaration Shape)) :
    (linkedDocs inline ds).map Prod.fst = (Declaration.index ds).map Prod.fst := by
  rw [linkedDocs, List.map_map]
  rfl

/-- Every target of a link is a key. -/
theorem mem_keys_of_mem_targets {inline : List String} {ds : List (Declaration Shape)}
    {target : String} (h : target ∈ (linkedDocs inline ds).targets) :
    target ∈ (linkedDocs inline ds).map Prod.fst := by
  -- the link stands in a shape of some linked declaration, which is the linked form of a shape
  obtain ⟨p, hp, h⟩ := List.mem_flatMap.1 h
  obtain ⟨o, ho, htarget⟩ := List.mem_flatMap.1 h
  obtain ⟨q, -, rfl⟩ := List.mem_map.1 hp
  rw [Declaration.ownedShapes_map] at ho
  obtain ⟨o', -, rfl⟩ := List.mem_map.1 ho
  have hhas := Resolver.has_of_mem_links htarget
  rw [Resolver.knowing, Resolver.has_declared] at hhas
  rw [keys_linkedDocs]
  exact Catalogue.has_iff_mem_keys.1 hhas

/-- **No link leads nowhere.** Declarations can always be linked; each of the linked declarations
stands under its own name; and the target of every link in one of their shapes is one of the keys and
has its heading on the page, in whichever format the page is written. -/
theorem cross_references_resolve (inline : List String) (ds : List (Declaration Shape)) :
    ∃ docs, (linkDeclarations inline ds).outcome = .ok docs ∧
      (∀ p ∈ docs, p.2.name = p.1) ∧
      ∀ target ∈ LinkedDocs.targets docs,
        target ∈ docs.map Prod.fst ∧
          ∀ formatName format, Format.parse formatName = .ok format →
            ∃ page, (renderPage formatName docs).outcome = .ok page ∧
              ("\n## " ++ target ++ "\n").toList <:+: page.toList := by
  refine ⟨linkedDocs inline ds, outcome_linkDeclarations inline ds, ?_, ?_⟩
  · intro p hp
    obtain ⟨q, hq, rfl⟩ := List.mem_map.1 hp
    rw [Declaration.name_map]
    exact Declaration.name_eq_of_mem_index hq
  · intro target htarget
    have hkey := mem_keys_of_mem_targets htarget
    refine ⟨hkey, ?_⟩
    intro formatName format hformat
    rw [renderPage_of_ok hformat]
    exact ⟨_, rfl, Page.heading_infix format hkey⟩

/-- Two aliases of each other, one of them declared twice, and an interface that refers to it and to
a name that is not declared. -/
def mutualAliases : List (Declaration Shape) :=
  [.typeAlias "A" (.leaf "B") none none, .typeAlias "B" (.leaf "A") none none,
    .interface "C" [⟨"p", .beside (.array (.leaf "A")) (.leaf "X"), true, none, none, none⟩] none none,
    .typeAlias "A" (.leaf "B") (some "Again.") none]

/-- The links among the mutual aliases lead to their sections, as a table and as an object. -/
theorem cross_references_resolve_mutualAliases :
    ∃ docs, (linkDeclarations defaultInlineTypes mutualAliases).outcome = .ok docs ∧
      LinkedDocs.targets docs = ["B", "A", "A"] ∧ "A" ∈ docs.map Prod.fst ∧
      (∃ page, (renderPage "tables" docs).outcome = .ok page ∧
        ("\n## " ++ "A" ++ "\n").toList <:+: page.toList) ∧
      ∃ page, (renderPage " JSON" docs).outcome = .ok page ∧
        ("\n## " ++ "A" ++ "\n").toList <:+: page.toList := by
  obtain ⟨docs, hdocs, -, htargets⟩ := cross_references_resolve defaultInlineTypes mutualAliases
  obtain rfl : linkedDocs defaultInlineTypes mutualAliases = docs :=
    Except.ok.inj ((outcome_linkDeclarations _ _).symm.trans hdocs)
  have hlist : (linkedDocs defaultInlineTypes mutualAliases).targets = ["B", "A", "A"] := by
    decide +kernel
  have hmem : "A" ∈ (linkedDocs defaultInlineTypes mutualAliases).targets := by
    rw [hlist]
    simp
  obtain ⟨hkey, hpage⟩ := htargets "A" hmem
  exact ⟨_, hdocs, hlist, hkey, hpage "tables" .tables rfl, hpage " JSON" .json rfl⟩

end TypeAtlas
