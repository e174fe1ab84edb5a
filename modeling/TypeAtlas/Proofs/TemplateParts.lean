import Mathlib.Data.List.Sort
import TypeAtlas.Proofs.Guards

/-! # The parts of a template

Counting the places of a template (`Template.count`) and cutting it at them (`Template.cut`) are two
scans of the same text, and `Resolver.linkShape` relies on their agreement. Both are tied here to where
the places stand.

* `Text.FoundInOrder`: where a pattern is found in a text, from left to right and without overlap. A
  text has at most one such list of positions (`FoundInOrder.unique`).
* `Shape.PartsFit`: the parts of a shape stand around its leaves, and put together with the places they are
  its template.

A part may end in an opening brace, right before the place behind it. That the two make no other place
across the seam follows from `Template.not_isPrefix_append`, and with it cutting undoes joining
(`Template.parts_intercalate`). Main statement: `Shape.template_splits_at_leaves`. -/

namespace TypeAtlas

/-! ## Searching a text -/

namespace Text

/-- Where a pattern is found in a text, from left to right: the search goes on behind each occurrence. -/
structure FoundInOrder (pattern s : List Char) (is : List Nat) : Prop where
  /-- The positions ascend. -/
  sorted : is.Pairwise (· < ·)
  /-- The pattern stands at each of them. -/
  occurs : ∀ i ∈ is, pattern <+: s.drop i
  /-- No two of them overlap. -/
  apart : ∀ i ∈ is, ∀ j ∈ is, i < j → i + pattern.length ≤ j
  /-- An occurrence is found, or it begins inside of one that is found before it. -/
  covered : ∀ j, pattern <+: s.drop j → ∃ i ∈ is, i ≤ j ∧ j < i + pattern.length

section

variable {pattern s r : List Char} {is is' : List Nat}

/-- Nothing is found in an empty text. -/
theorem foundInOrder_nil (hp : pattern ≠ []) : FoundInOrder pattern [] [] where
  sorted := List.Pairwise.nil
  occurs := List.forall_mem_nil _
  apart := List.forall_mem_nil _
  covered j hj := by
    rw [List.drop_nil, List.prefix_nil] at hj
    exact absurd hj hp

/-- A character at which the pattern does not stand moves all positions by one. -/
theorem FoundInOrder.cons (h : FoundInOrder pattern r is) {c : Char} (hc : ¬ pattern <+: c :: r) :
    FoundInOrder pattern (c :: r) (is.map (· + 1)) where
  sorted := h.sorted.map _ fun _ _ => Nat.succ_lt_succ
  occurs := by
    simp only [List.forall_mem_map, List.drop_succ_cons]
    exact h.occurs
  apart := by
    simp only [List.forall_mem_map]
    intro i hi j hj hlt
    have hapart := h.apart i hi j hj (Nat.lt_of_succ_lt_succ hlt)
    omega
  covered j hj := by
    cases j with
    | zero => exact absurd hj hc
    | succ j =>
      rw [List.drop_succ_cons] at hj
      obtain ⟨i, hi, hle, hlt⟩ := h.covered j hj
      exact ⟨i + 1, List.mem_map_of_mem hi, by omega, by omega⟩

/-- The pattern at the front is found, and the search goes on behind it. -/
theorem FoundInOrder.append (h : FoundInOrder pattern r is) (hp : pattern ≠ []) :
    FoundInOrder pattern (pattern ++ r) (0 :: is.map (· + pattern.length)) where
  sorted := by
    have hpos := List.length_pos_of_ne_nil hp
    refine List.pairwise_cons.2 ⟨?_, h.sorted.map _ fun _ _ hlt => Nat.add_lt_add_right hlt _⟩
    simp only [List.forall_mem_map]
    omega
  occurs := by
    simp only [List.forall_mem_cons, List.forall_mem_map]
    refine ⟨List.prefix_append pattern r, fun i hi => ?_⟩
    rw [Nat.add_comm, List.drop_length_add_append]
    exact h.occurs i hi
  apart := by
    simp only [List.forall_mem_cons, List.forall_mem_map]
    refine ⟨⟨by omega, by omega⟩, fun i hi => ⟨by omega, fun j hj hlt => ?_⟩⟩
    have hapart := h.apart i hi j hj (by omega)
    omega
  covered j hj := by
    -- an occurrence begins inside of the pattern at the front, or stands behind it
    by_cases hfirst : j < pattern.length
    · exact ⟨0, List.mem_cons_self, by omega, by omega⟩
    · obtain ⟨k, rfl⟩ := Nat.exists_eq_add_of_le (Nat.le_of_not_lt hfirst)
      rw [List.drop_length_add_append] at hj
      obtain ⟨i, hi, hle, hlt⟩ := h.covered k hj
      exact ⟨i + pattern.length, List.mem_cons_of_mem _ (List.mem_map_of_mem hi), by omega, by omega⟩

/-- Of two searches that agree before a position, what the one finds there the other finds too. -/
theorem FoundInOrder.mem_of_agree (h : FoundInOrder pattern s is) (h' : FoundInOrder pattern s is')
    {i : Nat} (hagree : ∀ j < i, j ∈ is ↔ j ∈ is') (hi : i ∈ is) : i ∈ is' := by
  obtain ⟨j, hj, hle, hlt⟩ := h'.covered i (h.occurs i hi)
  rcases Nat.eq_or_lt_of_le hle with rfl | hbefore
  · exact hj
  · -- an occurrence before `i` that reaches into it would be found by both
    have hapart := h.apart j ((hagree j hbefore).2 hj) i hi hbefore
    omega

/-- **A search has one result.** -/
theorem FoundInOrder.unique (h : FoundInOrder pattern s is) (h' : FoundInOrder pattern s is') :
    is = is' := by
  refine h.sorted.eq_of_mem_iff h'.sorted fun i => ?_
  -- from left to right: what is found at `i` depends on what is found before it
  induction i using Nat.strong_induction_on with
  | _ i ih => exact ⟨h.mem_of_agree h' ih, h'.mem_of_agree h fun j hj => (ih j hj).symm⟩

end

end Text

/-! ## Places -/

namespace Template

open Text

section

variable {c : Char} {p r s : List Char}

/-- A place stands at the front of a text that begins with two braces. -/
theorem isPrefix_cons_iff : placeholder <+: c :: r ↔ c = '\x7b' ∧ ∃ r', r = '\x7d' :: r' := by
  constructor
  · rintro ⟨r', h⟩
    obtain ⟨hc, hr⟩ := List.cons.inj h
    exact ⟨hc.symm, r', hr.symm⟩
  · rintro ⟨rfl, r', rfl⟩
    exact ⟨r', rfl⟩

/-- **Counting finds the places from left to right.** -/
theorem exists_foundInOrder (s : List Char) :
    ∃ is, FoundInOrder placeholder s is ∧ is.length = count s := by
  fun_induction count s with
  | case1 r ih =>
    obtain ⟨is, his, hlength⟩ := ih
    exact ⟨_, his.append (List.cons_ne_nil _ _), by simp [hlength]⟩
  | case2 c r hc ih =>
    obtain ⟨is, his, hlength⟩ := ih
    have hnone : ¬ placeholder <+: c :: r := by
      rw [isPrefix_cons_iff]
      rintro ⟨hopen, r', hclose⟩
      exact hc r' hopen hclose
    exact ⟨_, his.cons hnone, by simp [hlength]⟩
  | case3 => exact ⟨[], foundInOrder_nil (List.cons_ne_nil _ _), rfl⟩

/-- A text without a place. -/
def PlaceFree (p : List Char) : Prop := ¬ placeholder <:+: p

/-- Whether a text is without a place can be computed. -/
instance (p : List Char) : Decidable (PlaceFree p) := inferInstanceAs (Decidable (¬ _))

/-- An empty text is without a place. -/
theorem placeFree_nil : PlaceFree [] :=
  fun hplace => List.cons_ne_nil _ _ (List.eq_nil_of_infix_nil hplace)

/-- A text is without a place when none stands at its front or behind its first character. -/
theorem placeFree_cons_iff : PlaceFree (c :: p) ↔ ¬ placeholder <+: c :: p ∧ PlaceFree p := by
  rw [PlaceFree, List.infix_cons_iff, not_or, PlaceFree]

/-- Of a text behind another, only a closing brace at its front can complete a place. -/
theorem not_isPrefix_append (h : ¬ placeholder <+: c :: p) (hr : r.head? ≠ some '\x7d') :
    ¬ placeholder <+: c :: (p ++ r) := by
  rw [isPrefix_cons_iff] at h ⊢
  rintro ⟨rfl, r', hclose⟩
  cases p with
  | nil => exact hr (congrArg List.head? hclose)  -- the seam is right behind the opening brace
  | cons d p =>
    obtain ⟨rfl, -⟩ := List.cons.inj hclose
    exact h ⟨rfl, p, rfl⟩

/-! ## Parts -/

/-- A character that opens no place belongs to the first part. -/
theorem parts_cons (h : ¬ placeholder <+: c :: r) :
    parts (c :: r) = (c :: (cut r).1) :: (cut r).2 := by
  rw [parts, cut]
  intro r' hopen hclose
  exact h (isPrefix_cons_iff.2 ⟨hopen, r', hclose⟩)

/-- A text without a place stands at the front of the first part. -/
theorem parts_append (hp : PlaceFree p) (hr : r.head? ≠ some '\x7d') :
    parts (p ++ r) = (p ++ (cut r).1) :: (cut r).2 := by
  induction p with
  | nil => rfl
  | cons c p ih =>
    obtain ⟨hfront, hrest⟩ := placeFree_cons_iff.1 hp
    obtain ⟨hfirst, hothers⟩ := List.cons.inj (ih hrest)
    rw [List.cons_append, parts_cons (not_isPrefix_append hfront hr), hfirst, hothers,
      List.cons_append]

/-- A text without a place is one part. -/
theorem parts_of_placeFree (hp : PlaceFree p) : parts p = [p] := by
  have hpart := parts_append hp (r := []) (by simp)
  rwa [List.append_nil, show cut [] = ([], []) from rfl, List.append_nil] at hpart

/-- A text without a place is the part before the place behind it. -/
theorem parts_append_place (hp : PlaceFree p) (r : List Char) :
    parts (p ++ (placeholder ++ r)) = p :: parts r := by
  have hpart := parts_append hp (r := placeholder ++ r) (by simp [placeholder])
  rwa [show cut (placeholder ++ r) = ([], parts r) from rfl, List.append_nil] at hpart

/-- **Cutting undoes joining**: texts without places are the parts of the template they are joined to. -/
theorem parts_intercalate {ps : List (List Char)} (hne : ps ≠ []) (hfree : ∀ p ∈ ps, PlaceFree p) :
    parts (placeholder.intercalate ps) = ps := by
  induction ps with
  | nil => exact absurd rfl hne
  | cons p ps ih =>
    obtain ⟨hp, hps⟩ := List.forall_mem_cons.1 hfree
    cases ps with
    | nil => rw [List.intercalate_singleton, parts_of_placeFree hp]
    | cons q ps =>
      rw [List.intercalate_cons_cons, List.append_assoc, parts_append_place hp,
        ih (List.cons_ne_nil q ps) hps]

/-- A template is joined from texts without places. -/
theorem exists_eq_intercalate (s : List Char) :
    ∃ p ps, (∀ q ∈ p :: ps, PlaceFree q) ∧ s = placeholder.intercalate (p :: ps) := by
  fun_induction count s with
  | case1 r ih =>
    obtain ⟨p, ps, hfree, rfl⟩ := ih
    refine ⟨[], p :: ps, List.forall_mem_cons.2 ⟨placeFree_nil, hfree⟩, ?_⟩
    rw [List.intercalate_cons_cons]
    rfl
  | case2 c r hc ih =>
    obtain ⟨p, ps, hfree, rfl⟩ := ih
    obtain ⟨hp, hps⟩ := List.forall_mem_cons.1 hfree
    have hfront : ¬ placeholder <+: c :: p := by
      rw [isPrefix_cons_iff]
      rintro ⟨hopen, p', rfl⟩
      -- the part would pass the closing brace at its front on to the template
      cases ps with
      | nil => exact hc p' hopen List.intercalate_singleton
      | cons q ps => exact hc _ hopen List.intercalate_cons_cons
    refine ⟨c :: p, ps, List.forall_mem_cons.2 ⟨placeFree_cons_iff.2 ⟨hfront, hp⟩, hps⟩, ?_⟩
    cases ps with
    | nil => rw [List.intercalate_singleton, List.intercalate_singleton]
    | cons q ps => rw [List.intercalate_cons_cons, List.intercalate_cons_cons]; rfl
  | case3 => exact ⟨[], [], List.forall_mem_singleton.2 placeFree_nil, rfl⟩

/-- **The parts of a template** are the texts without places that it is joined from. -/
theorem parts_eq_iff {ps : List (List Char)} (hne : ps ≠ []) :
    parts s = ps ↔ (∀ p ∈ ps, PlaceFree p) ∧ placeholder.intercalate ps = s := by
  constructor
  · rintro rfl
    obtain ⟨p, ps, hfree, rfl⟩ := exists_eq_intercalate s
    rw [parts_intercalate (List.cons_ne_nil p ps) hfree]
    exact ⟨hfree, rfl⟩
  · rintro ⟨hfree, rfl⟩
    exact parts_intercalate hne hfree

end

end Template

/-! ## Shapes -/

namespace Shape

/-- The parts of a shape stand around its leaves. -/
structure PartsFit (s : Shape) : Prop where
  /-- There is one part more than there are leaves. -/
  length_eq : s.parts.length = s.leaves.length + 1
  /-- No part holds a place. -/
  placeFree : ∀ p ∈ s.parts, Template.PlaceFree p.toList
  /-- Parts and places make up the template. -/
  intercalate_eq : String.intercalate single s.parts = s.template
  /-- No other texts do so. -/
  only : ∀ ps : List String, ps ≠ [] → (∀ p ∈ ps, Template.PlaceFree p.toList) →
    String.intercalate single ps = s.template → ps = s.parts

/-- Texts are the parts of a shape when its template is joined from them and none holds a place. -/
theorem eq_parts_iff (s : Shape) {ps : List String} (hne : ps ≠ []) :
    ps = s.parts ↔
      (∀ p ∈ ps, Template.PlaceFree p.toList) ∧ String.intercalate single ps = s.template := by
  have hchars : ps = s.parts ↔ Template.parts s.template.toList = ps.map String.toList := by
    constructor
    · rintro rfl
      simp [parts]
    · intro h
      simp [parts, h]
  rw [hchars, Template.parts_eq_iff (by simpa using hne), List.forall_mem_map, ← String.toList_inj,
    String.toList_intercalate, single, String.toList_ofList]

/-- **The parts of every shape stand around its leaves.** -/
theorem partsFit (s : Shape) : s.PartsFit := by
  have hlength : s.parts.length = s.leaves.length + 1 := by
    rw [parts, List.length_map, Template.length_parts, s.fits]
  have hne : s.parts ≠ [] := List.ne_nil_of_length_eq_add_one hlength
  obtain ⟨hfree, hjoin⟩ := (s.eq_parts_iff hne).1 rfl
  exact ⟨hlength, hfree, hjoin, fun ps hps hfree hjoin => (s.eq_parts_iff hps).2 ⟨hfree, hjoin⟩⟩

/-- What is made of leaves and a template is the shape that has them, if there is one. -/
theorem make_eq_ok_iff {leaves : List String} {template : String} {s : Shape} :
    make leaves template = .ok s ↔ s.leaves = leaves ∧ s.template = template := by
  constructor
  · intro h
    rw [make] at h
    split at h
    · cases h
      exact ⟨rfl, rfl⟩
    · cases h
  · rintro ⟨rfl, rfl⟩
    exact dif_pos s.fits

/-- **Cutting a template agrees with counting its places.** The places of a template, searched from left to
right and without overlap, stand at definite positions. A shape is made of leaves and a template if and
only if there are as many positions as leaves. The parts of that shape then stand around its leaves: there is
one more of them, none holds a place, and joined by places they are the template, which no other texts are.
So linking the shape finds a part at every index that it looks at. -/
theorem template_splits_at_leaves (leaves : List String) (template : String) :
    (∃ places, (∀ is, Text.FoundInOrder Template.placeholder template.toList is ↔ is = places) ∧
        ((∃ s, make leaves template = .ok s) ↔ places.length = leaves.length)) ∧
      ∀ s, make leaves template = .ok s → s.leaves = leaves ∧ s.template = template ∧ s.PartsFit ∧
        ∀ (r : Resolver) (owner : String),
          (∃ linked, (r.guardedLinkShape owner s).outcome = .ok linked) ∧
            r.guardedLinkShape owner s = r.linkShape owner s := by
  constructor
  · obtain ⟨places, hplaces, hcount⟩ := Template.exists_foundInOrder template.toList
    refine ⟨places, fun is => ⟨fun his => his.unique hplaces, fun his => his ▸ hplaces⟩, ?_⟩
    rw [hcount]
    constructor
    · rintro ⟨s, hs⟩
      obtain ⟨rfl, rfl⟩ := make_eq_ok_iff.1 hs
      exact s.fits
    · intro hfits
      exact ⟨⟨leaves, template, hfits⟩, make_eq_ok_iff.2 ⟨rfl, rfl⟩⟩
  · intro s hs
    obtain ⟨hleaves, htemplate⟩ := make_eq_ok_iff.1 hs
    refine ⟨hleaves, htemplate, s.partsFit, fun r owner => ⟨?_, r.guardedLinkShape_eq owner s⟩⟩
    rw [r.guardedLinkShape_eq, Resolver.linkShape_eq]
    exact ⟨_, rfl⟩

/-- A place between two braces, and behind them two more places side by side. -/
def bracedTemplate : String := "\x7b\x7b\x7d\x7d\x7b\x7d\x7b\x7d"

/-- The braces beside a place stay in the parts, and places side by side have an empty part between them.
Two leaves are too few for this template. -/
theorem template_splits_at_leaves_bracedTemplate :
    Text.FoundInOrder Template.placeholder bracedTemplate.toList [1, 4, 6] ∧
      (∃ s, make ["A", "B", "C"] bracedTemplate = .ok s ∧ s.parts = ["\x7b", "\x7d", "", ""] ∧
        ∃ linked, ((Resolver.mk [] []).guardedLinkShape "D" s).outcome = .ok linked) ∧
      ¬ ∃ s, make ["A", "B"] bracedTemplate = .ok s := by
  have hne : Template.placeholder ≠ [] := List.cons_ne_nil _ _
  have hbehind : Text.FoundInOrder Template.placeholder "\x7d\x7b\x7d\x7b\x7d".toList [1, 3] :=
    (((Text.foundInOrder_nil hne).append hne).append hne).cons (by decide)
  have hfound : Text.FoundInOrder Template.placeholder bracedTemplate.toList [1, 4, 6] :=
    (hbehind.append hne).cons (c := '\x7b') (by decide)
  refine ⟨hfound, ?_, ?_⟩
  · obtain ⟨⟨places, hsearch, hmake⟩, hshape⟩ := template_splits_at_leaves ["A", "B", "C"] bracedTemplate
    obtain rfl := (hsearch [1, 4, 6]).1 hfound
    obtain ⟨s, hs⟩ := hmake.2 rfl
    obtain ⟨-, htemplate, hfit, hlink⟩ := hshape s hs
    -- no other texts are the parts, so it is enough that these could be
    have hparts := hfit.only ["\x7b", "\x7d", "", ""] (List.cons_ne_nil _ _) (by decide)
      (htemplate ▸ by decide)
    exact ⟨s, hs, hparts.symm, (hlink _ _).1⟩
  · obtain ⟨⟨places, hsearch, hmake⟩, -⟩ := template_splits_at_leaves ["A", "B"] bracedTemplate
    obtain rfl := (hsearch [1, 4, 6]).1 hfound
    rw [hmake]
    decide

end Shape

end TypeAtlas
