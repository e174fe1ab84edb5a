import TypeAtlas.Proofs.LinkedForm
import TypeAtlas.SyntaxTree

/-! # Guards that never fire

Three steps take something for granted: a type that is taken apart has as many places as leaves, a
template has a part before each leaf and one behind the last, and a text that is not empty has a first
line. Each step is written here once more with a guard where it relies on such a fact, and the guarded
step is shown to be the plain one.

* `TypeExpr.guardedShape`: every shape on the way is assembled from plain leaves and template, and
  refused when they do not fit.
* `Resolver.guardedLinkShape`: every part of a template is looked up by its index.
* `SyntaxTree.guardedSummary`: the first line is looked up in the list of lines.

Main statements: `TypeExpr.guardedShape_eq`, `Resolver.guardedLinkShape_eq`,
`SyntaxTree.guardedSummary_eq`. -/

namespace TypeAtlas

/-- A guard that fired. -/
inductive GuardFault where
  /-- Leaves and places differ in number. -/
  | places (f : ShapeFault)
  /-- A type is malformed. -/
  | malformed (m : MalformedType)
  /-- There is nothing at an index. -/
  | index
  deriving DecidableEq, Repr

/-- What stands at an index of a list. -/
def guardedGet {α : Type} (xs : List α) (i : Nat) : Except GuardFault α :=
  match xs[i]? with
  | some x => .ok x
  | none => .error .index

/-! ## Shapes -/

namespace Shape

/-- A shape of plain leaves and template, refused when they do not fit. -/
def guarded (leaves : List String) (template : String) : Except GuardFault Shape :=
  (make leaves template).mapError .places

/-- The leaves and the template of a shape are not refused. -/
theorem guarded_self (s : Shape) : guarded s.leaves s.template = .ok s := by
  rw [guarded, make, dif_pos s.fits]
  rfl

/-- The leaves of several shapes stand one after the other. -/
theorem leaves_alternatives (ss : List Shape) :
    (alternatives ss).leaves = ss.flatMap leaves := by
  fun_induction alternatives ss with
  | case1 => rfl
  | case2 s => simp
  | case3 s ss hss ih => rw [List.flatMap_cons, ← ih, beside]

/-- The templates of several shapes are joined by bars. -/
theorem template_alternatives (ss : List Shape) :
    (alternatives ss).template = String.intercalate " | " (ss.map template) := by
  fun_induction alternatives ss with
  | case1 => rfl
  | case2 s => simp
  | case3 s ss hss ih =>
    have hne : ss.map template ≠ [] := by simpa using hss
    rw [List.map_cons, String.intercalate_cons_of_ne_nil hne, ← ih, beside, String.append_assoc]

/-- Leaves and templates of several shapes, put together, are not refused. -/
theorem guarded_alternatives (ss : List Shape) :
    guarded (ss.flatMap leaves) (String.intercalate " | " (ss.map template)) =
      .ok (alternatives ss) := by
  rw [← leaves_alternatives, ← template_alternatives, guarded_self]

end Shape

namespace TypeExpr

mutual

/-- The shape of an expression, assembled from plain data and checked at every node. -/
def guardedShape : TypeExpr → Except GuardFault Shape
  | .absent => Shape.guarded [unknown] Shape.single
  | .named name => Shape.guarded [name] Shape.single
  | .array t => do
    let s ← guardedShape t
    Shape.guarded s.leaves (s.template ++ "[]")
  | .union ts => do
    let ss ← guardedShapes ts
    Shape.guarded (ss.flatMap Shape.leaves) (String.intercalate " | " (ss.map Shape.template))
  | .inter ts => do
    let ss ← guardedShapes ts
    Shape.guarded (ss.flatMap Shape.leaves) (String.intercalate " | " (ss.map Shape.template))
  | .verbatim text => Shape.guarded [text] Shape.single
  | .malformed text => .error (.malformed ⟨text⟩)

/-- The shapes of several expressions, up to the first flaw. -/
def guardedShapes : List TypeExpr → Except GuardFault (List Shape)
  | [] => .ok []
  | t :: ts => do
    let s ← guardedShape t
    let ss ← guardedShapes ts
    .ok (s :: ss)

end

/-- What a flaw, or else a value, comes to. -/
def outcomeOf {α : Type} (flaw : Option String) (a : α) : Except GuardFault α :=
  match flaw with
  | some text => .error (.malformed ⟨text⟩)
  | none => .ok a

-- The shapes of the plain step fit by type, so `Shape.guarded_self` answers every check. A flaw inside
-- of an expression stops both sides at the same place.
mutual

/-- At every node the leaves fit their places, and only flaws are refused. -/
theorem guardedShape_eq_outcomeOf : (t : TypeExpr) → t.guardedShape = outcomeOf t.flaw? t.shape
  | .absent => Shape.guarded_self (.leaf unknown)
  | .named name => Shape.guarded_self (.leaf name)
  | .array t => by
    rw [guardedShape, guardedShape_eq_outcomeOf t, flaw?, shape]
    cases t.flaw? with
    | some text => rfl
    | none => exact Shape.guarded_self (.array t.shape)
  | .union ts => by
    rw [guardedShape, guardedShapes_eq_outcomeOf ts, flaw?, shape]
    cases flawAmong? ts with
    | some text => rfl
    | none => exact Shape.guarded_alternatives (shapes ts)
  | .inter ts => by
    rw [guardedShape, guardedShapes_eq_outcomeOf ts, flaw?, shape]
    cases flawAmong? ts with
    | some text => rfl
    | none => exact Shape.guarded_alternatives (shapes ts)
  | .verbatim text => Shape.guarded_self (.leaf text)
  | .malformed text => rfl

/-- The same for several expressions. -/
theorem guardedShapes_eq_outcomeOf : (ts : List TypeExpr) →
    guardedShapes ts = outcomeOf (flawAmong? ts) (shapes ts)
  | [] => rfl
  | t :: ts => by
    rw [guardedShapes, guardedShape_eq_outcomeOf t, guardedShapes_eq_outcomeOf ts, flawAmong?,
      shapes]
    cases t.flaw? with
    | some text => rfl
    | none => cases flawAmong? ts <;> rfl

end

/-- **Checking every shape on the way changes nothing**: only a malformed value is refused. -/
theorem guardedShape_eq (t : TypeExpr) : t.guardedShape = t.decompose.mapError .malformed := by
  rw [guardedShape_eq_outcomeOf, decompose]
  cases t.flaw? <;> rfl

end TypeExpr

/-! ## Parts of a template -/

namespace Resolver

/-- Leaves from the one with index `i` on, each behind the part of its index, and the last part. -/
def guardedSegments (r : Resolver) (owner : String) (parts : List String) (i : Nat) :
    List String → Report GuardFault (List Segment)
  | [] => do
    let last ← .ofExcept (guardedGet parts (parts.length - 1))
    pure [.text last]
  | leaf :: leaves => do
    let part ← .ofExcept (guardedGet parts i)
    let s ← r.linkLeaf owner leaf
    let ss ← r.guardedSegments owner parts (i + 1) leaves
    pure (.text part :: s :: ss)

/-- A shape with resolved leaves, its parts looked up by index. -/
def guardedLinkShape (r : Resolver) (owner : String) (s : Shape) :
    Report GuardFault LinkedShape := do
  let ss ← r.guardedSegments owner s.parts 0 s.leaves
  pure (LinkedShape.join ss)

/-- With a part for each leaf that is left and one behind the last, every index is in range. -/
theorem guardedSegments_eq (r : Resolver) (owner : String) (before : List String) (first : String)
    {leaves after : List String} (h : leaves.length = after.length) :
    r.guardedSegments owner (before ++ first :: after) before.length leaves =
      ⟨leaves.flatMap (r.leafEvents owner),
        .ok (.text first :: (leaves.zip after).flatMap fun p => [r.segment p.1, .text p.2])⟩ := by
  -- the parts that are used up move to `before`
  induction leaves generalizing before first after with
  | nil =>
    obtain rfl := List.eq_nil_of_length_eq_zero h.symm
    have hlast : guardedGet (before ++ [first]) ((before ++ [first]).length - 1) = .ok first := by
      simp [guardedGet]
    rw [guardedSegments, hlast]
    rfl
  | cons leaf leaves ih =>
    obtain ⟨next, after, rfl⟩ := List.exists_cons_of_length_eq_add_one h.symm
    have hpart : guardedGet (before ++ first :: next :: after) before.length = .ok first := by
      simp [guardedGet]
    have hrest := ih (before ++ [first]) next (Nat.succ.inj h)
    rw [List.length_append, List.length_singleton, List.append_assoc, List.singleton_append] at hrest
    rw [guardedSegments, hpart, linkLeaf_eq, hrest]
    simp [Report.ofExcept]

/-- **Looking up the parts of a template by index never misses.** -/
theorem guardedLinkShape_eq (r : Resolver) (owner : String) (s : Shape) :
    r.guardedLinkShape owner s = r.linkShape owner s := by
  have hsegments := r.guardedSegments_eq owner []
    (String.ofList (Template.cut s.template.toList).1) (length_leaves_eq_cut s)
  rw [List.nil_append, List.length_nil] at hsegments
  rw [guardedLinkShape, Shape.parts, Template.parts, List.map_cons, hsegments, linkShape_eq,
    linkedShape]
  simp

end Resolver

/-! ## First lines -/

namespace Text

/-- The lines of a text, ended by line breaks; a carriage return with the line feed behind it is one
break. An empty text has no line. -/
def breakLines : List Char → List (List Char)
  | [] => []
  | '\r' :: '\n' :: r => [] :: breakLines r
  | c :: r =>
    if isLineBreak c then [] :: breakLines r
    else
      match breakLines r with
      | [] => [[c]]
      | l :: ls => (c :: l) :: ls

/-- A text that is not empty has a first line, which goes up to the first line break. -/
theorem head?_breakLines {s : List Char} (h : s ≠ []) :
    (breakLines s).head? = some (firstLine s) := by
  fun_induction breakLines s with
  | case1 => exact absurd rfl h
  | case2 r ih => rfl
  | case3 c r hcr hbreak ih => simp [firstLine, hbreak]
  | case4 c r hcr hbreak hnone ih =>
    cases r with
    | nil => simp [firstLine, hbreak]
    | cons d r =>
      have hline := ih (List.cons_ne_nil d r)
      rw [hnone] at hline
      cases hline
  | case5 c r hcr hbreak l ls hsome ih =>
    have hr : r ≠ [] := by
      rintro rfl
      cases hsome
    have hl : l = firstLine r := by
      have hline := ih hr
      rw [hsome] at hline
      exact Option.some.inj hline
    simp [firstLine, hbreak, hl]

end Text

namespace SyntaxTree

/-- The summary of a node, its first line looked up in the list of lines. -/
def guardedSummary (bytes : SourceBytes) (t : SyntaxTree) : Except GuardFault String :=
  match Text.trim (t.text bytes).toList with
  | [] => .ok t.kind
  | s => (guardedGet (Text.breakLines s) 0).map String.ofList

/-- **Looking up the first line of a summary never misses.** -/
theorem guardedSummary_eq (bytes : SourceBytes) (t : SyntaxTree) :
    t.guardedSummary bytes = .ok (t.summary bytes) := by
  rw [guardedSummary, summary]
  cases h : Text.trim (t.text bytes).toList with
  | nil => rfl
  | cons c s =>
    have hhead : (Text.breakLines (c :: s))[0]? = some (Text.firstLine (c :: s)) := by
      rw [← List.head?_eq_getElem?]
      exact Text.head?_breakLines (List.cons_ne_nil c s)
    simp only [guardedGet, hhead]
    rfl

end SyntaxTree

end TypeAtlas
