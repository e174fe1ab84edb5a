import TypeAtlas.Proofs.LinkedForm

/-! # The text of a type

A type can be printed in two ways. Directly, by recursion over the expression (`TypeExpr.print`); or as
the documentation does it, by taking the expression apart into leaves and a template
(`TypeExpr.decompose`), resolving the leaves (`Resolver.linkLeaf`), and putting them back into the
places of the template (`Template.fill`). Both give the same text (`linking_preserves_type_text`).

The law that carries the proof is `Template.fill_append_cons`: filling distributes over two templates,
when no place is completed across the seam between them. The texts that are put in play no part in
it, so they may hold anything, braces included. -/

namespace TypeAtlas

/-! ## Filling a template -/

namespace Template

/-- Texts, each followed by the fixed text behind it. -/
def interleave : List String → List (List Char) → String
  | x :: xs, p :: ps => x ++ (String.ofList p ++ interleave xs ps)
  | _, _ => ""

/-- A template with texts put into its places, from left to right. -/
def fill (s : List Char) (xs : List String) : String :=
  String.ofList (cut s).1 ++ interleave xs (cut s).2

@[simp] theorem fill_nil (xs : List String) : fill [] xs = "" := by
  cases xs <;> rfl

/-- The first text goes into the first place. -/
theorem fill_place (r : List Char) (x : String) (xs : List String) :
    fill ('\x7b' :: '\x7d' :: r) (x :: xs) = x ++ fill r xs := by
  simp only [fill, cut, interleave]
  rfl

/-- A character that opens no place stays where it is. -/
theorem fill_cons {c : Char} {r : List Char} (h : ∀ r', c = '\x7b' → r = '\x7d' :: r' → False)
    (xs : List String) : fill (c :: r) xs = String.singleton c ++ fill r xs := by
  rw [fill, fill, cut]
  · simp [← String.toList_inj]
  · exact h

/-- **Filling distributes over a seam.** When the second template cannot complete a place that the
first one leaves open, each is filled with its own texts. -/
theorem fill_append_cons (s : List Char) {c : Char} (hc : c ≠ '\x7d') (r : List Char)
    {xs : List String} (ys : List String) (hx : xs.length = count s) :
    fill (s ++ c :: r) (xs ++ ys) = fill s xs ++ fill (c :: r) ys := by
  -- along the first template: a place takes the next text, any other character stays
  fun_induction count s generalizing xs with
  | case1 s ih =>
    obtain ⟨x, xs, rfl⟩ := List.exists_cons_of_length_eq_add_one hx
    have hlength : xs.length = count s := Nat.succ.inj hx
    simp only [List.cons_append, fill_place]
    rw [ih hlength, String.append_assoc]
  | case2 d s hd ih =>
    have hseam : ∀ r', d = '\x7b' → s ++ c :: r = '\x7d' :: r' → False := by
      intro r' hopen hclose
      cases s with
      | nil => exact hc (List.cons.inj hclose).1  -- `d` is the last character before the seam
      | cons e s => exact hd s hopen (congrArg (· :: s) (List.cons.inj hclose).1)
    rw [List.cons_append, fill_cons hseam, fill_cons hd, ih hx, String.append_assoc]
  | case3 =>
    obtain rfl := List.eq_nil_of_length_eq_zero hx
    rw [List.nil_append, List.nil_append, fill_nil, String.empty_append]

end Template

/-! ## Filling a shape -/

namespace Shape

/-- A shape with every leaf printed by `f`. -/
def fill (f : String → String) (s : Shape) : String :=
  Template.fill s.template.toList (s.leaves.map f)

variable (f : String → String)

/-- Every leaf has a text for its place. -/
theorem length_map_leaves (s : Shape) :
    (s.leaves.map f).length = Template.count s.template.toList := by
  rw [List.length_map, s.fits]

/-- A single leaf stands for itself. -/
theorem fill_leaf (name : String) : (leaf name).fill f = f name := by
  have htemplate : (leaf name).template.toList = ['\x7b', '\x7d'] := String.toList_ofList
  have hleaves : (leaf name).leaves.map f = [f name] := rfl
  rw [fill, htemplate, hleaves, Template.fill_place, Template.fill_nil, String.append_empty]

/-- Brackets stand behind the text of the elements. -/
theorem fill_array (s : Shape) : s.array.fill f = s.fill f ++ "[]" := by
  have hseam := Template.fill_append_cons s.template.toList (c := '[') (by decide) [']'] []
    (s.length_map_leaves f)
  rw [List.append_nil] at hseam
  rw [fill, array, String.toList_append]
  exact hseam

/-- A bar stands between the texts of two shapes. -/
theorem fill_beside (s t : Shape) : (s.beside t).fill f = s.fill f ++ " | " ++ t.fill f := by
  have hseam := Template.fill_append_cons s.template.toList (c := ' ') (by decide)
    ('|' :: ' ' :: t.template.toList) (t.leaves.map f) (s.length_map_leaves f)
  have hbar : Template.fill (' ' :: '|' :: ' ' :: t.template.toList) (t.leaves.map f) =
      " | " ++ t.fill f := by
    -- none of the three characters between the shapes opens a place
    rw [Template.fill_cons (by simp), Template.fill_cons (by simp), Template.fill_cons (by simp),
      ← String.append_assoc, ← String.append_assoc]
    rfl
  rw [hbar, ← List.map_append, ← String.append_assoc] at hseam
  simp only [fill, beside, String.toList_append]
  exact hseam

/-- Bars stand between the texts of several shapes. -/
theorem fill_alternatives (ss : List Shape) :
    (alternatives ss).fill f = String.intercalate " | " (ss.map (fill f)) := by
  induction ss with
  | nil => rfl
  | cons s ss ih =>
    cases ss with
    | nil => simp [alternatives]
    | cons t ss =>
      rw [alternatives, fill_beside, ih]
      · simp only [List.map_cons, String.intercalate_cons_cons]
      · simp

end Shape

/-! ## Printing an expression -/

namespace TypeExpr

mutual

/-- An expression printed directly, its leaves by `f`. -/
def print (f : String → String) : TypeExpr → String
  | .absent => f unknown
  | .named name => f name
  | .array t => print f t ++ "[]"
  | .union ts => String.intercalate " | " (printAll f ts)
  | .inter ts => String.intercalate " | " (printAll f ts)
  | .verbatim text => f text
  | .malformed text => f text

/-- Several expressions printed directly. -/
def printAll (f : String → String) : List TypeExpr → List String
  | [] => []
  | t :: ts => print f t :: printAll f ts

end

mutual

/-- The shape of an expression, filled, is the expression printed. -/
theorem fill_shape (f : String → String) : (t : TypeExpr) → t.shape.fill f = t.print f
  | .absent => Shape.fill_leaf f unknown
  | .named name => Shape.fill_leaf f name
  | .array t => by rw [shape, Shape.fill_array, fill_shape f t, print]
  | .union ts => by rw [shape, Shape.fill_alternatives, fill_shapes f ts, print]
  | .inter ts => by rw [shape, Shape.fill_alternatives, fill_shapes f ts, print]
  | .verbatim text => Shape.fill_leaf f text
  | .malformed text => Shape.fill_leaf f text

/-- The same for several expressions. -/
theorem fill_shapes (f : String → String) :
    (ts : List TypeExpr) → (shapes ts).map (Shape.fill f) = printAll f ts
  | [] => rfl
  | t :: ts => by rw [shapes, List.map_cons, fill_shape f t, fill_shapes f ts, printAll]

end

end TypeExpr

/-! ## Rendering a linked shape -/

namespace LinkedShape

variable (link : String → String)

/-- A linked shape is rendered segment by segment. -/
theorem render_segment (s : Segment) (ss : LinkedShape) :
    render link (s :: ss) = render link [s] ++ render link ss := by
  cases s <;> simp [render]

/-- Joining a segment to others does not change the text. -/
theorem render_cons (s : Segment) (ss : LinkedShape) :
    render link (cons s ss) = render link (s :: ss) := by
  unfold cons
  split
  · simp [render, String.append_assoc]
  · -- an empty text is left out, and adds nothing to what is shown
    rename_i rest t h
    by_cases hempty : t.isEmpty = true
    · have ht : t = "" := by simpa using hempty
      simp [ht, render]
    · rw [if_neg hempty]
  · rfl

/-- Joining neighbouring texts does not change the text. -/
theorem render_join (ss : List Segment) : render link (join ss) = render link ss := by
  induction ss with
  | nil => rfl
  | cons s ss ih =>
    rw [join, render_cons, render_segment, ih, ← render_segment]

end LinkedShape

namespace Resolver

variable (link : String → String) (r : Resolver)

/-- Resolved leaves are shown between the texts behind them. -/
theorem render_leaves (leaves : List String) (ps : List (List Char)) :
    LinkedShape.render link ((leaves.zip (ps.map String.ofList)).flatMap
        fun p => [r.segment p.1, .text p.2]) =
      Template.interleave (leaves.map fun leaf => LinkedShape.render link [r.segment leaf]) ps := by
  induction leaves generalizing ps with
  | nil => rfl
  | cons leaf leaves ih =>
    cases ps with
    | nil => rfl
    | cons p ps =>
      simp only [List.map_cons, List.zip_cons_cons, List.flatMap_cons, List.cons_append,
        List.nil_append, Template.interleave]
      rw [LinkedShape.render_segment, LinkedShape.render, ih ps]

/-- **A linked shape shows its template, filled** with the texts of its segments. -/
theorem render_linkedShape (s : Shape) :
    LinkedShape.render link (r.linkedShape s) =
      s.fill fun leaf => LinkedShape.render link [r.segment leaf] := by
  rw [linkedShape, LinkedShape.render_join, LinkedShape.render, render_leaves]
  rfl

end Resolver

/-- **Taking a type apart and linking it preserves its text.** A well-formed expression has a shape,
and that shape a linked form, whatever is declared. In each of the three renderings the linked form
reads like the expression printed directly, with every leaf printed as the segment that it is
resolved to. -/
theorem linking_preserves_type_text (ε : Type) (r : Resolver) (owner : String) (t : TypeExpr)
    (ht : t.WellFormed) :
    ∃ (shape : Shape) (linked : LinkedShape) (segment : String → Segment),
      t.decompose = .ok shape ∧
      (r.linkShape owner shape : Report ε LinkedShape).outcome = .ok linked ∧
      (∀ leaf, (r.linkLeaf owner leaf : Report ε Segment).outcome = .ok (segment leaf)) ∧
      linked.plain = t.print (fun leaf => LinkedShape.plain [segment leaf]) ∧
      linked.markdown = t.print (fun leaf => LinkedShape.markdown [segment leaf]) ∧
      linked.html = t.print (fun leaf => LinkedShape.html [segment leaf]) := by
  have hrender : ∀ link, LinkedShape.render link (r.linkedShape t.shape) =
      t.print fun leaf => LinkedShape.render link [r.segment leaf] := by
    intro link
    rw [Resolver.render_linkedShape, TypeExpr.fill_shape]
  refine ⟨t.shape, r.linkedShape t.shape, r.segment, TypeExpr.decompose_of_wellFormed ht, ?_, ?_,
    hrender _, hrender _, hrender _⟩
  · rw [Resolver.linkShape_eq]
  · intro leaf
    rw [Resolver.linkLeaf_eq]

/-- A union of an array, a text that looks like a place, an empty intersection and no type. -/
def bracedUnion : TypeExpr :=
  .union [.array (.named "A"), .verbatim "\x7b\x7d", .inter [], .absent]

/-- Braces in a leaf and an empty intersection survive linking. -/
theorem linking_preserves_type_text_bracedUnion :
    bracedUnion.WellFormed ∧
      ∃ shape linked, bracedUnion.decompose = .ok shape ∧
        ((Resolver.knowing defaultInlineTypes [.interface "A" [] none none]).linkShape "B" shape :
          Report LinkFault LinkedShape).outcome = .ok linked ∧
        linked.markdown = "[A](#A)[] | \x7b\x7d |  | any" := by
  have hwell : bracedUnion.WellFormed := rfl
  obtain ⟨shape, linked, segment, hshape, hlinked, hsegment, -, hmarkdown, -⟩ :=
    linking_preserves_type_text LinkFault
      (.knowing defaultInlineTypes [.interface "A" [] none none]) "B" bracedUnion hwell
  obtain rfl : Resolver.segment _ = segment :=
    funext fun leaf => Except.ok.inj (by rw [← hsegment leaf, Resolver.linkLeaf_eq])
  refine ⟨hwell, shape, linked, hshape, hlinked, ?_⟩
  rw [hmarkdown]
  decide +kernel

end TypeAtlas
