import TypeAtlas.Proofs.Flattening
import TypeAtlas.Proofs.Slicing

/-! # Where the leaves of a type stand

The leaves of a type (`SyntaxTree.typeExpr`) are the texts of some nodes inside its node. Where the
ranges of a tree are laid out as a parser lays them out, the ranges of these nodes follow each other.

* `SyntaxTree.leafNodes`: the nodes whose texts are the leaves (`leaves_typeExpr`).
* `SyntaxTree.RangesFit`: the ranges of children follow each other inside the range of their parent.

Main statement: `SyntaxTree.leaves_are_ordered_slices`. -/

namespace TypeAtlas.SyntaxTree

/-! ## The nodes of the leaves -/

/-- The nodes whose texts are the leaves of a type, from left to right. -/
def leafNodes (t : SyntaxTree) : List SyntaxTree :=
  match _h : t.typeReading with
  | .named => [t]
  | .array c => leafNodes c
  | .joined => t.typeChildren.attach.flatMap fun c => leafNodes c.1
  | .verbatim => [t]
termination_by sizeOf t
decreasing_by
  · exact sizeOf_lt_of_mem_children (mem_children_of_array _h)
  · exact sizeOf_lt_of_mem_children (mem_children_of_mem_typeChildren c.2)

/-- The leaves of a node, by the way the node is read. -/
theorem leafNodes_eq (t : SyntaxTree) :
    t.leafNodes =
      match t.typeReading with
      | .named => [t]
      | .array c => c.leafNodes
      | .joined => t.typeChildren.flatMap leafNodes
      | .verbatim => [t] := by
  rw [leafNodes]
  split <;> rename_i hreading <;> simp [hreading]

/-- **The leaves of a type are texts of nodes.** A node that is dissolved has the same leaves as one that
is kept. -/
theorem leaves_typeExpr (bytes : SourceBytes) (t : SyntaxTree) :
    (typeExpr bytes t).shape.leaves = t.leafNodes.map (text bytes) := by
  induction t using induction_children with
  | step t ih =>
    rw [typeExpr_eq, leafNodes_eq]
    cases hreading : t.typeReading with
    | named => rfl
    | array c => exact ih c (mem_children_of_array hreading)
    | joined =>
      have houter := typeReading_eq_joined_iff.1 hreading
      have hdissolved : ∀ c, ((dissolved bytes t.kind c).map TypeExpr.shape).flatMap Shape.leaves =
          (typeExpr bytes c).shape.leaves := by
        intro c
        rw [← alternatives_dissolved bytes houter, Shape.leaves_alternatives]
      simp only [TypeExpr.shape_joined, Shape.leaves_alternatives, List.map_flatMap, List.flatMap_assoc,
        hdissolved]
      apply List.flatMap_congr
      intro c hc
      exact ih c (mem_children_of_mem_typeChildren hc)
    | verbatim => rfl

/-! ## Their ranges -/

/-- The range of a node does not stop before it starts, and the ranges of its children follow each
other inside it. -/
structure RangesFit (t : SyntaxTree) : Prop where
  /-- The range starts before it stops. -/
  ordered : t.start ≤ t.stop
  /-- No child is outside. -/
  inside : ∀ c ∈ t.children, t.start ≤ c.start ∧ c.stop ≤ t.stop
  /-- Each child stops before the next ones start. -/
  disjoint : t.children.Pairwise fun c d => c.stop ≤ d.start

instance (t : SyntaxTree) : Decidable t.RangesFit :=
  decidable_of_iff (t.start ≤ t.stop ∧ (∀ c ∈ t.children, t.start ≤ c.start ∧ c.stop ≤ t.stop) ∧
      t.children.Pairwise fun c d => c.stop ≤ d.start)
    ⟨fun ⟨h, h', h''⟩ => ⟨h, h', h''⟩, fun ⟨h, h', h''⟩ => ⟨h, h', h''⟩⟩

section

variable {t : SyntaxTree}

/-- The leaves of a node are inside the node. -/
theorem leafNodes_inside (h : ∀ u ∈ t.nodes, u.RangesFit) :
    ∀ u ∈ t.leafNodes, t.start ≤ u.start ∧ u.start ≤ u.stop ∧ u.stop ≤ t.stop := by
  induction t using induction_children with
  | step t ih =>
    have hself := h t t.self_mem_nodes
    -- what is inside a child is inside the node
    have hchild : ∀ c ∈ t.children, ∀ u ∈ c.leafNodes,
        t.start ≤ u.start ∧ u.start ≤ u.stop ∧ u.stop ≤ t.stop := by
      intro c hc u hu
      obtain ⟨hstart, hstop⟩ := hself.inside c hc
      have hu := ih c hc (fun v hv => h v (mem_nodes_of_child hc hv)) u hu
      omega
    have hwhole : ∀ u ∈ [t], t.start ≤ u.start ∧ u.start ≤ u.stop ∧ u.stop ≤ t.stop := by
      intro u hu
      obtain rfl := List.mem_singleton.1 hu
      exact ⟨Nat.le_refl _, hself.ordered, Nat.le_refl _⟩
    rw [leafNodes_eq]
    cases hreading : t.typeReading with
    | named => exact hwhole
    | array c => exact hchild c (mem_children_of_array hreading)
    | joined =>
      intro u hu
      obtain ⟨c, hc, hu⟩ := List.mem_flatMap.1 hu
      exact hchild c (mem_children_of_mem_typeChildren hc) u hu
    | verbatim => exact hwhole

/-- Each leaf of a node stops before the next ones start. -/
theorem pairwise_leafNodes (h : ∀ u ∈ t.nodes, u.RangesFit) :
    t.leafNodes.Pairwise fun u v => u.stop ≤ v.start := by
  induction t using induction_children with
  | step t ih =>
    have hchild : ∀ c ∈ t.children, ∀ u ∈ c.nodes, u.RangesFit :=
      fun c hc u hu => h u (mem_nodes_of_child hc hu)
    rw [leafNodes_eq]
    cases hreading : t.typeReading with
    | named => exact List.pairwise_singleton _ _
    | array c =>
      have hc := mem_children_of_array hreading
      exact ih c hc (hchild c hc)
    | joined =>
      simp only [List.pairwise_flatMap]
      constructor
      · intro c hc
        have hc := mem_children_of_mem_typeChildren hc
        exact ih c hc (hchild c hc)
      · -- leaves of different children are as far apart as the children
        have hdisjoint : t.typeChildren.Pairwise fun c d => c.stop ≤ d.start :=
          (h t t.self_mem_nodes).disjoint.sublist List.filter_sublist
        apply hdisjoint.imp_of_mem
        intro c d hc hd hcd u hu v hv
        have hu := leafNodes_inside (hchild c (mem_children_of_mem_typeChildren hc)) u hu
        have hv := leafNodes_inside (hchild d (mem_children_of_mem_typeChildren hd)) v hv
        omega
    | verbatim => exact List.pairwise_singleton _ _

end

open Text.Utf8

/-- **The leaves of a type are slices of the source, in source order.** Where the ranges of a tree
fit, each leaf is the text of a range inside the node, that of its leaf node, and each range stops
before the next ones start. So the leaves, one behind the other, are the text of the node with some
characters left out: none is there twice or out of order. -/
theorem leaves_are_ordered_slices (source : List Char) (t : SyntaxTree)
    (h : ∀ u ∈ t.nodes, u.RangesFit) :
    ∃ (shape : Shape) (ranges : List (Nat × Nat)),
      (typeExpr (encode source) t).decompose = .ok shape ∧
      ranges = t.leafNodes.map (fun u => (u.start, u.stop)) ∧
      shape.leaves = ranges.map (fun r => String.ofList (slice (encode source) r.1 r.2)) ∧
      (∀ r ∈ ranges, t.start ≤ r.1 ∧ r.1 ≤ r.2 ∧ r.2 ≤ t.stop) ∧
      ranges.Pairwise (fun r r' => r.2 ≤ r'.1) ∧
      (shape.leaves.flatMap String.toList).Sublist (t.text (encode source)).toList := by
  have hleaves : (typeExpr (encode source) t).shape.leaves =
      (t.leafNodes.map fun u => (u.start, u.stop)).map
        fun r => String.ofList (slice (encode source) r.1 r.2) := by
    rw [leaves_typeExpr, List.map_map]
    rfl
  have hinside : ∀ r ∈ t.leafNodes.map fun u => (u.start, u.stop),
      t.start ≤ r.1 ∧ r.1 ≤ r.2 ∧ r.2 ≤ t.stop := by
    intro r hr
    obtain ⟨u, hu, rfl⟩ := List.mem_map.1 hr
    exact leafNodes_inside h u hu
  have hordered : (t.leafNodes.map fun u => (u.start, u.stop)).Pairwise fun r r' => r.2 ≤ r'.1 := by
    rw [List.pairwise_map]
    exact pairwise_leafNodes h
  refine ⟨(typeExpr (encode source) t).shape, t.leafNodes.map fun u => (u.start, u.stop),
    TypeExpr.decompose_of_wellFormed (flaw?_typeExpr _ t), rfl, hleaves, hinside, hordered, ?_⟩
  rw [hleaves, List.flatMap_map]
  simp only [String.toList_ofList, slice_encode, text]
  exact flatMap_wholeChars_sublist source hinside hordered

/-- The five names of `mixedSource` stand in five ranges, the first of which has two bytes. -/
theorem leaves_are_ordered_slices_mixedNode :
    (∀ u ∈ mixedNode.nodes, u.RangesFit) ∧
      ∃ (shape : Shape) (ranges : List (Nat × Nat)),
        (typeExpr (encode mixedSource) mixedNode).decompose = .ok shape ∧
        ranges = [(0, 2), (10, 11), (14, 15), (18, 19), (22, 23)] ∧
        shape.leaves = ranges.map (fun r => String.ofList (slice (encode mixedSource) r.1 r.2)) ∧
        (∀ r ∈ ranges, 0 ≤ r.1 ∧ r.1 ≤ r.2 ∧ r.2 ≤ 23) ∧
        ranges.Pairwise (fun r r' => r.2 ≤ r'.1) ∧
        shape.leaves = ["é", "B", "C", "D", "E"] := by
  have hfit : ∀ u ∈ mixedNode.nodes, u.RangesFit := by decide
  obtain ⟨shape, ranges, hshape, hranges, hleaves, hinside, hordered, -⟩ :=
    leaves_are_ordered_slices mixedSource mixedNode hfit
  have hfive : ranges = [(0, 2), (10, 11), (14, 15), (18, 19), (22, 23)] := by
    rw [hranges]
    decide +kernel
  refine ⟨hfit, shape, ranges, hshape, hfive, hleaves, hinside, hordered, ?_⟩
  rw [hleaves, hfive]
  decide +kernel

end TypeAtlas.SyntaxTree
