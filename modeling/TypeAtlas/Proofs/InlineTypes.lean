import Mathlib.Data.List.Flatten
import TypeAtlas.CommandLine
import TypeAtlas.Proofs.References

/-! # More inline types

What becomes of the links and warnings of `linkDeclarations` when more types are inline.

* `Resolver.InlinesMore`: a resolver that knows the same and has more inline types.
* `Declaration.LinksAmong`: two linked declarations, shape by shape, where one has some of the links of
  the other.
* `OnlyRemoves`: what linking with more inline types can change.

An alias that comes down to something inline still does when more is inline, though perhaps to another
leaf, since a chain can only end earlier (`AliasChain.exists_of_inlinesMore`). So no leaf becomes a link
that was none (`InlinesMore.isLink_segment`). Main statement: `inline_types_only_remove`. -/

namespace TypeAtlas

namespace Resolver

/-- `r'` knows what `r` knows, and whatever is an inline type for `r` is one for `r'`. -/
structure InlinesMore (r r' : Resolver) : Prop where
  /-- The inline types are still inline. -/
  inline_subset : r.inline ⊆ r'.inline
  /-- The same is known. -/
  known_eq : r'.known = r.known

variable {r r' : Resolver}

/-- An inline leaf is still inline. -/
theorem InlinesMore.isInline {leaf : String} (h : InlinesMore r r') (hleaf : r.isInline leaf = true) :
    r'.isInline leaf = true := by
  rw [Resolver.isInline, Bool.or_eq_true, List.contains_iff_mem] at hleaf ⊢
  exact hleaf.imp_left fun hmem => h.inline_subset hmem

/-- The same names are aliases of the same leaves. -/
theorem InlinesMore.isAliasOf {name leaf : String} (h : InlinesMore r r')
    (halias : r.IsAliasOf name leaf) : r'.IsAliasOf name leaf := by
  rw [IsAliasOf, h.known_eq]
  exact halias

/-- **A chain to something inline is there when more is inline**; it may end earlier. -/
theorem AliasChain.exists_of_inlinesMore {name leaf : String} {via : List String}
    (h : InlinesMore r r') (hchain : r.AliasChain name via leaf) :
    ∃ via' leaf', r'.AliasChain name via' leaf' := by
  induction via generalizing name with
  | nil =>
    obtain ⟨halias, hinline⟩ := aliasChain_nil.1 hchain
    exact ⟨[], leaf, aliasChain_nil.2 ⟨h.isAliasOf halias, h.isInline hinline⟩⟩
  | cons a via ih =>
    obtain ⟨halias, -, hrest⟩ := aliasChain_cons.1 hchain
    by_cases ha : r'.isInline a = true
    · -- `a` is one of the new inline types, and the chain ends there
      exact ⟨[], a, aliasChain_nil.2 ⟨h.isAliasOf halias, ha⟩⟩
    · obtain ⟨via', leaf', hrest'⟩ := ih hrest
      exact ⟨a :: via', leaf', aliasChain_cons.2 ⟨h.isAliasOf halias, by simpa using ha, hrest'⟩⟩

namespace InlinesMore

variable (h : InlinesMore r r')

include h

/-- What comes down to nothing inline did not do so before. -/
theorem inlineText?_eq_none {name : String} (hnone : r'.inlineText? name = none) :
    r.inlineText? name = none := by
  cases htext : r.inlineText? name with
  | none => rfl
  | some leaf =>
    obtain ⟨via, hchain⟩ := inlineText?_eq_some_iff.1 htext
    obtain ⟨via', leaf', hchain'⟩ := hchain.exists_of_inlinesMore h
    rw [inlineText?_eq_some_iff.2 ⟨via', hchain'⟩] at hnone
    cases hnone

/-- What becomes a link became one before. -/
theorem isLink_segment {leaf : String} (hlink : (r'.segment leaf).isLink = true) :
    (r.segment leaf).isLink = true := by
  obtain ⟨-, hinline, htext, hhas⟩ := segment_eq_link_iff.1 (segment_isLink_iff.1 hlink)
  have hinline' : r.isInline leaf = false := by
    rw [← Bool.not_eq_true] at hinline ⊢
    exact mt h.isInline hinline
  rw [h.known_eq] at hhas
  exact segment_isLink_iff.2
    (segment_eq_link_iff.2 ⟨rfl, hinline', h.inlineText?_eq_none htext, hhas⟩)

/-- The links of a shape are some of those that it had before. -/
theorem links_sublist (s : Shape) :
    List.Sublist (r'.linkedShape s).links (r.linkedShape s).links := by
  rw [links_linkedShape, links_linkedShape]
  exact List.monotone_filter_right _ fun leaf => h.isLink_segment

end InlinesMore

/-- Resolvers of the same declarations, the second with more inline types. -/
theorem inlinesMore_knowing {fewer more : List String} (h : fewer ⊆ more)
    (ds : List (Declaration Shape)) : InlinesMore (knowing fewer ds) (knowing more ds) := ⟨h, rfl⟩

end Resolver

/-! ## Warnings -/

/-- Whether a diagnostic is about a leaf that names nothing. -/
def Diagnostic.isUnresolved : Diagnostic → Bool
  | .unresolved _ _ => true
  | _ => false

/-- The diagnostics about leaves that name nothing, in order. -/
def Report.unresolved {ε α : Type} (r : Report ε α) : List Diagnostic :=
  r.diagnostics.filter Diagnostic.isUnresolved

/-- Linking warns about the unresolved leaves. -/
theorem unresolved_linkDeclarations (inline : List String) (ds : List (Declaration Shape)) :
    (linkDeclarations inline ds).unresolved =
      (unresolvedLeaves inline ds).map fun p => .unresolved p.1 p.2 := by
  have hduplicates : ((repeatedNames (ds.map Declaration.name)).map Diagnostic.duplicate).filter
      Diagnostic.isUnresolved = [] := by
    simp [List.filter_eq_nil_iff, Diagnostic.isUnresolved]
  have hleaves : ((unresolvedLeaves inline ds).map fun p => Diagnostic.unresolved p.1 p.2).filter
      Diagnostic.isUnresolved = (unresolvedLeaves inline ds).map fun p => .unresolved p.1 p.2 := by
    rw [List.filter_eq_self]
    intro d hd
    obtain ⟨p, -, rfl⟩ := List.mem_map.1 hd
    rfl
  rw [Report.unresolved, diagnostics_linkDeclarations, List.filter_append, hduplicates, hleaves,
    List.nil_append]

/-- The unresolved leaves are some of those with fewer inline types. -/
theorem unresolvedLeaves_sublist {fewer more : List String} (h : fewer ⊆ more)
    (ds : List (Declaration Shape)) :
    List.Sublist (unresolvedLeaves more ds) (unresolvedLeaves fewer ds) := by
  apply List.Sublist.flatMap_right
  intro name _
  apply List.Sublist.flatMap_right
  intro d _
  apply List.Sublist.flatMap_right
  intro o _
  apply List.Sublist.map
  apply List.monotone_filter_right
  intro leaf hleaf
  simp only [decide_eq_true_eq] at hleaf ⊢
  exact ⟨fun hmem => hleaf.1 (h hmem), hleaf.2⟩

/-! ## Linked declarations -/

/-- The shapes of one linked declaration have, in order, some of the links of those of another. -/
def Declaration.LinksAmong (d e : Declaration LinkedShape) : Prop :=
  List.Forall₂ (fun o o' => o.1 = o'.1 ∧ List.Sublist o.2.links o'.2.links) d.ownedShapes e.ownedShapes

/-- With more inline types the shapes of a declaration have some of the links that they had. -/
theorem Resolver.InlinesMore.linksAmong {r r' : Resolver} (h : InlinesMore r r')
    (d : Declaration Shape) : (d.map r'.linkedShape).LinksAmong (d.map r.linkedShape) := by
  rw [Declaration.LinksAmong, Declaration.ownedShapes_map, Declaration.ownedShapes_map,
    List.forall₂_map_left_iff, List.forall₂_map_right_iff, List.forall₂_same]
  intro o _
  exact ⟨rfl, h.links_sublist o.2⟩

/-- What changes in linking some declarations when more types are inline: links and warnings go away. -/
structure OnlyRemoves (fewer more : List String) (ds : List (Declaration Shape)) : Prop where
  /-- The warnings about leaves that name nothing are some of those that there were. -/
  warnings : List.Sublist (linkDeclarations more ds).unresolved (linkDeclarations fewer ds).unresolved
  /-- The same declarations have, shape by shape, some of the links that they had. -/
  links : ∃ docs docs', (linkDeclarations fewer ds).outcome = .ok docs ∧
    (linkDeclarations more ds).outcome = .ok docs' ∧
    List.Forall₂ (fun p p' => p'.1 = p.1 ∧ p'.2.LinksAmong p.2) docs docs'
  /-- No leaf that was text becomes a link. -/
  leaves : ∀ owner leaf text,
    ((Resolver.resolve ⟨fewer, []⟩ (ds.map .declaration)).1.linkLeaf owner leaf :
      Report LinkFault Segment).outcome = .ok (.text text) →
    ∃ text', ((Resolver.resolve ⟨more, []⟩ (ds.map .declaration)).1.linkLeaf owner leaf :
      Report LinkFault Segment).outcome = .ok (.text text')

/-- More inline types only remove. -/
theorem onlyRemoves_of_subset {fewer more : List String} (h : fewer ⊆ more)
    (ds : List (Declaration Shape)) : OnlyRemoves fewer more ds where
  warnings := by
    rw [unresolved_linkDeclarations, unresolved_linkDeclarations]
    exact (unresolvedLeaves_sublist h ds).map _
  links := by
    refine ⟨_, _, outcome_linkDeclarations fewer ds, outcome_linkDeclarations more ds, ?_⟩
    rw [linkedDocs, linkedDocs, List.forall₂_map_left_iff, List.forall₂_map_right_iff,
      List.forall₂_same]
    intro p _
    exact ⟨rfl, (Resolver.inlinesMore_knowing h ds).linksAmong p.2⟩
  leaves := by
    intro owner leaf text htext
    rw [Resolver.resolve_declarations, Resolver.linkLeaf_eq] at htext ⊢
    dsimp only at htext ⊢
    cases hmore : (Resolver.knowing more ds).segment leaf with
    | text text' => exact ⟨text', rfl⟩
    | link target =>
      -- the leaf would have been a link before
      have hlink := (Resolver.inlinesMore_knowing h ds).isLink_segment (congrArg Segment.isLink hmore)
      rw [Except.ok.inj htext] at hlink
      cases hlink

/-- **More inline types only remove links and warnings.** When types are added to the inline types, the
warnings about leaves that name nothing, and the links in each shape, are some of those that there were,
in the same order, and no leaf that was text becomes a link. The inline types of a run, which are the
default ones and those of its settings, show no link and no such warning that the default ones do
not. -/
theorem inline_types_only_remove :
    (∀ fewer more : List String, fewer ⊆ more → ∀ ds, OnlyRemoves fewer more ds) ∧
      ∀ (o : CommandLine.Options) (s : Settings) (ds : List (Declaration Shape)),
        OnlyRemoves defaultInlineTypes (CommandLine.job o s).inlineTypes ds :=
  ⟨fun _ _ h => onlyRemoves_of_subset h,
    fun _ _ => onlyRemoves_of_subset (List.subset_append_left _ _)⟩

/-- Two aliases that lead to an interface, an alias of itself, and a property that refers to all of them
and to a name that is not declared. -/
def aliasedInterface : List (Declaration Shape) :=
  [.typeAlias "A" (.leaf "B") none none, .typeAlias "B" (.leaf "C") none none,
    .interface "C" [⟨"p", .alternatives [.leaf "A", .leaf "C", .leaf "D", .leaf "Lost"], false, none,
      none, none⟩] none none,
    .typeAlias "D" (.leaf "D") none none]

/-- When the second alias and the name that is not declared become inline, the first alias is shown as
the second one, and neither a link nor a warning is new. -/
theorem inline_types_only_remove_aliasedInterface :
    defaultInlineTypes ⊆ defaultInlineTypes ++ ["B", "Lost"] ∧
      OnlyRemoves defaultInlineTypes (defaultInlineTypes ++ ["B", "Lost"]) aliasedInterface ∧
      Catalogue.find? "C" (linkedDocs defaultInlineTypes aliasedInterface) =
        some (.interface "C" [⟨"p", [.link "A", .text " | ", .link "C", .text " | ", .link "D",
          .text " | Lost"], false, none, none, none⟩] none none) ∧
      Catalogue.find? "C" (linkedDocs (defaultInlineTypes ++ ["B", "Lost"]) aliasedInterface) =
        some (.interface "C" [⟨"p", [.text "B | ", .link "C", .text " | ", .link "D",
          .text " | Lost"], false, none, none, none⟩] none none) ∧
      (linkDeclarations defaultInlineTypes aliasedInterface).unresolved =
        [.unresolved "C.p" "Lost"] ∧
      (linkDeclarations (defaultInlineTypes ++ ["B", "Lost"]) aliasedInterface).unresolved = [] := by
  have hsubset : defaultInlineTypes ⊆ defaultInlineTypes ++ ["B", "Lost"] :=
    List.subset_append_left _ _
  refine ⟨hsubset, inline_types_only_remove.1 _ _ hsubset _, by decide +kernel, by decide +kernel, ?_, ?_⟩
  · rw [unresolved_linkDeclarations]
    decide +kernel
  · rw [unresolved_linkDeclarations]
    decide +kernel

end TypeAtlas
