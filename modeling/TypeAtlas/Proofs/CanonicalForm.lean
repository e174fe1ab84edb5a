import Mathlib.Data.List.Chain
import TypeAtlas.Proofs.CrossReference
import TypeAtlas.Proofs.TypeText

/-! # The canonical form of linked shapes

A linked shape is text between links, and there is one way to write it down: no text is empty, and no two
texts stand side by side.

* `LinkedShape.Canonical`: segments in this form.

A segment put before segments in canonical form leaves them so (`canonical_cons`), and
`Resolver.linkShape` does nothing but that, from the last segment to the first (`canonical_join`). A
canonical shape without links is therefore one text at most (`Canonical.eq_text`). Main statement:
`linked_shape_canonical`. -/

namespace TypeAtlas

namespace LinkedShape

/-- Segments without empty texts and without two texts side by side. -/
@[mk_iff]
structure Canonical (ss : LinkedShape) : Prop where
  /-- No text is empty. -/
  nonempty : .text "" ∉ ss
  /-- Of two neighbours one is a link. -/
  apart : List.IsChain (fun a b => a.isLink = true ∨ b.isLink = true) ss

/-- Whether segments are in canonical form can be computed. -/
instance (ss : LinkedShape) : Decidable ss.Canonical :=
  decidable_of_iff _ (canonical_iff ss).symm

/-- No segments are in canonical form. -/
theorem canonical_nil : Canonical [] := ⟨List.not_mem_nil, .nil⟩

/-- What stands behind a segment in canonical form is in canonical form. -/
theorem Canonical.tail {s : Segment} {ss : LinkedShape} (h : Canonical (s :: ss)) : Canonical ss :=
  ⟨fun hmem => h.nonempty (List.mem_cons_of_mem s hmem), h.apart.tail⟩

/-- Behind a text stands a link, or nothing. -/
theorem Canonical.isLink_of_text {t : String} {ss : LinkedShape} (h : Canonical (.text t :: ss)) :
    ∀ s, ss.head? = some s → s.isLink = true := by
  intro s hs
  exact ((List.isChain_cons.1 h.apart).1 s hs).resolve_left Bool.false_ne_true

/-- A link can stand before anything. -/
theorem Canonical.link {ss : LinkedShape} (h : ss.Canonical) (target : String) :
    Canonical (.link target :: ss) where
  nonempty := by simpa using h.nonempty
  apart := h.apart.cons fun _ _ => Or.inl rfl

/-- A text that is not empty can stand before a link, or alone. -/
theorem Canonical.text {ss : LinkedShape} (h : ss.Canonical)
    (hlink : ∀ s, ss.head? = some s → s.isLink = true) {t : String} (ht : t ≠ "") :
    Canonical (.text t :: ss) where
  nonempty := by simpa [ht.symm] using h.nonempty
  apart := h.apart.cons fun s hs => Or.inr (hlink s hs)

/-- **A segment before segments in canonical form leaves them in canonical form.** -/
theorem canonical_cons (s : Segment) {ss : LinkedShape} (h : ss.Canonical) : (cons s ss).Canonical := by
  unfold cons
  split
  · -- two texts become one, which is not empty since the second one is not
    rename_i t u rest
    have hu : u ≠ "" := fun e => h.nonempty (e ▸ List.mem_cons_self)
    exact h.tail.text h.isLink_of_text (by simp [hu])
  · -- an empty text vanishes, and any other stands before a link
    rename_i t hrest
    split
    · exact h
    · rename_i ht
      refine h.text ?_ (by simpa using ht)
      intro s hs
      cases ss with
      | nil => cases hs
      | cons s' ss =>
        obtain rfl := Option.some.inj hs
        cases s' with
        | text u => exact absurd rfl (hrest u ss)
        | link target => rfl
  · exact h.link _

/-- Joined segments are in canonical form. -/
theorem canonical_join (ss : List Segment) : (join ss).Canonical := by
  induction ss with
  | nil => exact canonical_nil
  | cons s ss ih => exact canonical_cons s ih

/-- Segments in canonical form without a link are one text at most. -/
theorem Canonical.eq_text {ss : LinkedShape} (h : ss.Canonical) (hlinks : ss.isInline = true) :
    ss = [] ∨ ∃ t, ss = [.text t] := by
  have hnone : ss.links = [] := List.isEmpty_iff.1 hlinks
  cases ss with
  | nil => exact Or.inl rfl
  | cons s ss =>
    cases s with
    | link target => cases hnone
    | text t =>
      cases ss with
      | nil => exact Or.inr ⟨t, rfl⟩
      | cons s ss =>
        have hlink := h.isLink_of_text s rfl
        cases s with
        | text u => cases hlink
        | link target => cases hnone

/-- Segments without a link are shown in the same way however links are shown. -/
theorem render_of_isInline {ss : LinkedShape} (h : ss.Canonical) (hlinks : ss.isInline = true)
    (link link' : String → String) : ss.render link = ss.render link' := by
  obtain rfl | ⟨t, rfl⟩ := h.eq_text hlinks
  · rfl
  · rfl

end LinkedShape

/-- The diagnostics among events that are nothing but diagnostics. -/
theorem Report.diagnostics_map {ε α : Type} (ds : List Diagnostic) (o : Except ε α) :
    (⟨ds.map .diagnostic, o⟩ : Report ε α).diagnostics = ds := by
  rw [diagnostics, List.filterMap_map]
  exact List.filterMap_some

/-- **A linked shape is in canonical form, and its links are those of its leaves.** Every shape has a
linked form, without empty texts and without two texts side by side, which shows the template filled
with what the leaves are resolved to. Its links are the leaves that are resolved to a link, one for
each occurrence and in order. It is inline exactly when no leaf is, and then it is one text at most and
looks the same in every rendering. What is said is one message for each occurrence of a leaf that is
neither inline nor declared, in order. -/
theorem linked_shape_canonical (ε : Type) (r : Resolver) (owner : String) (s : Shape) :
    ∃ (linked : LinkedShape) (segment : String → Segment),
      (r.linkShape owner s : Report ε LinkedShape).outcome = .ok linked ∧
      (∀ leaf, (r.linkLeaf owner leaf : Report ε Segment).outcome = .ok (segment leaf)) ∧
      linked.Canonical ∧
      linked.plain = s.fill (fun leaf => LinkedShape.plain [segment leaf]) ∧
      linked.links = s.leaves.filter (fun leaf => (segment leaf).isLink) ∧
      (linked.isInline = true ↔ ∀ leaf ∈ s.leaves, (segment leaf).isLink = false) ∧
      (linked.isInline = true → (linked = [] ∨ ∃ t, linked = [.text t]) ∧
        linked.markdown = linked.plain ∧ linked.html = linked.plain) ∧
      (r.linkShape owner s : Report ε LinkedShape).diagnostics =
        (s.leaves.filter fun leaf => r.IsLoose leaf).map (.unresolved owner) := by
  have hcanonical : (r.linkedShape s).Canonical := LinkedShape.canonical_join _
  refine ⟨r.linkedShape s, r.segment, ?_, ?_, hcanonical, r.render_linkedShape id s,
    r.links_linkedShape s, ?_, ?_, ?_⟩
  · rw [Resolver.linkShape_eq]
  · intro leaf
    rw [Resolver.linkLeaf_eq]
  · rw [LinkedShape.isInline, Resolver.links_linkedShape, List.isEmpty_iff, List.filter_eq_nil_iff]
    simp only [Bool.not_eq_true]
  · intro hinline
    exact ⟨hcanonical.eq_text hinline, LinkedShape.render_of_isInline hcanonical hinline _ _,
      LinkedShape.render_of_isInline hcanonical hinline _ _⟩
  · rw [Resolver.linkShape_eq, Resolver.flatMap_leafEvents, Report.diagnostics_map]

/-- Leaves with and without text between them: two that are empty, a literal, and one that names nothing,
twice. -/
def crowdedShape : Shape :=
  ⟨["", "A", "'q'", "Lost", "", "Lost"], "\x7b\x7d\x7b\x7d | \x7b\x7d\x7b\x7d<\x7b\x7d>\x7b\x7d", rfl⟩

/-- An empty leaf and an inline one. -/
def textShape : Shape := ⟨["", "string"], "\x7b\x7d\x7b\x7d", rfl⟩

/-- Where an interface has the empty name, an empty leaf is a link, and texts are joined around it; where
nothing is declared, it is a text that vanishes. -/
theorem linked_shape_canonical_emptyLeaves :
    (∃ linked : LinkedShape,
      ((Resolver.knowing defaultInlineTypes
          [.interface "A" [] none none, .interface "" [] none none]).linkShape "B" crowdedShape :
        Report LinkFault LinkedShape).outcome = .ok linked ∧
      linked = [.link "", .link "A", .text " | 'q'Lost<", .link "", .text ">Lost"] ∧
      linked.Canonical ∧ linked.links = ["", "A", ""] ∧
      ((Resolver.knowing defaultInlineTypes
          [.interface "A" [] none none, .interface "" [] none none]).linkShape "B" crowdedShape :
        Report LinkFault LinkedShape).diagnostics = [.unresolved "B" "Lost", .unresolved "B" "Lost"]) ∧
    ∃ linked : LinkedShape,
      ((Resolver.knowing defaultInlineTypes []).linkShape "B" textShape :
        Report LinkFault LinkedShape).outcome = .ok linked ∧
      linked.isInline = true ∧ (linked = [] ∨ ∃ t, linked = [.text t]) ∧
      linked.markdown = linked.plain ∧ linked.html = linked.plain ∧
      ((Resolver.knowing defaultInlineTypes []).linkShape "B" textShape :
        Report LinkFault LinkedShape).diagnostics = [.unresolved "B" ""] := by
  constructor
  · obtain ⟨linked, segment, hlinked, -, hcanonical, -, -, -, -, hdiagnostics⟩ :=
      linked_shape_canonical LinkFault (.knowing defaultInlineTypes
        [.interface "A" [] none none, .interface "" [] none none]) "B" crowdedShape
    obtain rfl : Resolver.linkedShape _ crowdedShape = linked :=
      Except.ok.inj (by rw [← hlinked, Resolver.linkShape_eq])
    exact ⟨_, hlinked, by decide +kernel, hcanonical, by decide +kernel,
      hdiagnostics.trans (by decide +kernel)⟩
  · obtain ⟨linked, segment, hlinked, -, -, -, -, -, hinline, hdiagnostics⟩ :=
      linked_shape_canonical LinkFault (.knowing defaultInlineTypes []) "B" textShape
    obtain rfl : Resolver.linkedShape _ textShape = linked :=
      Except.ok.inj (by rw [← hlinked, Resolver.linkShape_eq])
    have htext : ((Resolver.knowing defaultInlineTypes []).linkedShape textShape).isInline = true := by
      decide +kernel
    obtain ⟨hshort, hmarkdown, hhtml⟩ := hinline htext
    exact ⟨_, hlinked, htext, hshort, hmarkdown, hhtml, hdiagnostics.trans (by decide +kernel)⟩

end TypeAtlas
