import TypeAtlas.Proofs.Guards
import TypeAtlas.Proofs.TreeWalk

/-! # Flattened types

`SyntaxTree.typeExpr` dissolves a union node inside a union node into it, and likewise an intersection
node. Beside this translation stands the direct one, which keeps every union and intersection where it
is.

* `SyntaxTree.nodes`: all nodes of a tree, and `SyntaxTree.induction_children`, induction from the
  children of a node to the node.
* `SyntaxTree.TypeReading`: how a type node is read. Both translations follow it (`typeExpr_eq`,
  `directExpr_eq`).
* `SyntaxTree.directExpr`: the direct translation.
* `TypeExpr.Flat`: no union is a member of a union, and no intersection of an intersection.

A shape does not tell nested bars from a row of bars, as long as there is something between the bars
(`Shape.alternatives_flatMap`). Main statement: `SyntaxTree.flattening_preserves_shape`. -/

namespace TypeAtlas

/-! ## Bars inside bars -/

namespace Shape

/-- Shapes are told apart by leaves and template. -/
theorem eq_of_leaves_of_template {s t : Shape} (hleaves : s.leaves = t.leaves)
    (htemplate : s.template = t.template) : s = t := by
  cases s
  cases t
  subst hleaves
  subst htemplate
  rfl

/-- It does not matter which of two bars comes first. -/
theorem beside_assoc (s t u : Shape) : beside (beside s t) u = beside s (beside t u) := by
  apply eq_of_leaves_of_template
  · simp [beside]
  · simp [beside, String.append_assoc]

/-- The first of several shapes stands before a bar. -/
theorem alternatives_cons (s : Shape) {ss : List Shape} (hne : ss ≠ []) :
    alternatives (s :: ss) = beside s (alternatives ss) := by
  cases ss with
  | nil => exact absurd rfl hne
  | cons t ss => rw [alternatives]; simp

/-- A bar stands between two rows of shapes. -/
theorem alternatives_append {ss ts : List Shape} (hs : ss ≠ []) (ht : ts ≠ []) :
    alternatives (ss ++ ts) = beside (alternatives ss) (alternatives ts) := by
  induction ss with
  | nil => exact absurd rfl hs
  | cons s ss ih =>
    by_cases hss : ss = []
    · subst hss
      exact alternatives_cons s ht
    · have hne : ss ++ ts ≠ [] := by simp [hss]
      rw [List.cons_append, alternatives_cons s hne, ih hss, alternatives_cons s hss, beside_assoc]

/-- **Rows of shapes inside a row are part of it**, when none of them is empty. An empty one would
leave a bar without a shape. -/
theorem alternatives_flatMap {α : Type} {f : α → List Shape} {as : List α}
    (hne : ∀ a ∈ as, f a ≠ []) :
    alternatives (as.flatMap f) = alternatives (as.map fun a => alternatives (f a)) := by
  induction as with
  | nil => rfl
  | cons a as ih =>
    have ha : f a ≠ [] := hne a List.mem_cons_self
    have hrest : ∀ b ∈ as, f b ≠ [] := fun b hb => hne b (List.mem_cons_of_mem a hb)
    cases as with
    | nil => simp [alternatives]
    | cons b as =>
      have hflat : (b :: as).flatMap f ≠ [] := by
        simp [hrest b List.mem_cons_self]
      have hmap : (b :: as).map (fun a => alternatives (f a)) ≠ [] := by simp
      rw [List.flatMap_cons, alternatives_append ha hflat, ih hrest, ← alternatives_cons _ hmap]
      rfl

end Shape

/-! ## Unions and intersections alike -/

/-- The kinds of nodes that join several types. -/
def SyntaxTree.joiningKinds : List String := ["union_type", "intersection_type"]

namespace TypeExpr

/-- The union or the intersection of several types, by the kind of its node. -/
def joined (kind : String) (members : List TypeExpr) : TypeExpr :=
  if kind = "union_type" then .union members else .inter members

/-- The kind of the nodes of unions and of intersections. -/
def joinedKind? : TypeExpr → Option String
  | .union _ => some "union_type"
  | .inter _ => some "intersection_type"
  | _ => none

/-- What is joined tells the kind of its node. -/
theorem joinedKind?_joined {kind : String} (h : kind ∈ SyntaxTree.joiningKinds) (ts : List TypeExpr) :
    (joined kind ts).joinedKind? = some kind := by
  have hkind : kind = "union_type" ∨ kind = "intersection_type" := by
    simpa [SyntaxTree.joiningKinds] using h
  rcases hkind with rfl | rfl <;> rfl

/-- No union is a member of a union, and no intersection is a member of an intersection, at any
depth. -/
inductive Flat : TypeExpr → Prop
  /-- No type. -/
  | absent : Flat .absent
  /-- A name. -/
  | named (name : String) : Flat (.named name)
  /-- An array of something flat. -/
  | array {t : TypeExpr} (ht : Flat t) : Flat (.array t)
  /-- A union of what is flat and no union. -/
  | union {ts : List TypeExpr} (hflat : ∀ t ∈ ts, Flat t) (hne : ∀ t ∈ ts, ∀ us, t ≠ .union us) :
      Flat (.union ts)
  /-- An intersection of what is flat and no intersection. -/
  | inter {ts : List TypeExpr} (hflat : ∀ t ∈ ts, Flat t) (hne : ∀ t ∈ ts, ∀ us, t ≠ .inter us) :
      Flat (.inter ts)
  /-- A text. -/
  | verbatim (text : String) : Flat (.verbatim text)
  /-- A value that is no expression. -/
  | malformed (text : String) : Flat (.malformed text)

/-- Several shapes are taken one by one. -/
theorem shapes_eq_map (ts : List TypeExpr) : shapes ts = ts.map shape := by
  induction ts with
  | nil => rfl
  | cons t ts ih => rw [shapes, List.map_cons, ih]

/-- Unions and intersections have the same shape. -/
theorem shape_joined (kind : String) (ts : List TypeExpr) :
    (joined kind ts).shape = Shape.alternatives (ts.map shape) := by
  rw [joined, ← shapes_eq_map]
  split <;> rfl

/-- The first flaw of a union or an intersection is that of its members. -/
theorem flaw?_joined (kind : String) (ts : List TypeExpr) :
    (joined kind ts).flaw? = flawAmong? ts := by
  rw [joined]
  split <;> rfl

/-- There is no flaw among expressions without one. -/
theorem flawAmong?_eq_none {ts : List TypeExpr} (h : ∀ t ∈ ts, t.flaw? = none) :
    flawAmong? ts = none := by
  induction ts with
  | nil => rfl
  | cons t ts ih =>
    have hrest : ∀ u ∈ ts, u.flaw? = none := fun u hu => h u (List.mem_cons_of_mem t hu)
    rw [flawAmong?, h t List.mem_cons_self, ih hrest, Option.or_none]

/-- What a flat union or intersection is made of. -/
theorem flat_joined_iff (kind : String) (ts : List TypeExpr) :
    (joined kind ts).Flat ↔ ∀ t ∈ ts, t.Flat ∧ ∀ us, t ≠ joined kind us := by
  simp only [joined]
  split
  · constructor
    · intro h
      cases h with
      | union hflat hne => exact fun t ht => ⟨hflat t ht, hne t ht⟩
    · intro h
      exact .union (fun t ht => (h t ht).1) fun t ht => (h t ht).2
  · constructor
    · intro h
      cases h with
      | inter hflat hne => exact fun t ht => ⟨hflat t ht, hne t ht⟩
    · intro h
      exact .inter (fun t ht => (h t ht).1) fun t ht => (h t ht).2

end TypeExpr

namespace SyntaxTree

/-! ## All nodes of a tree -/

/-- A child is smaller than its parent. -/
theorem sizeOf_lt_of_mem_children {t c : SyntaxTree} (hc : c ∈ t.children) : sizeOf c < sizeOf t := by
  obtain ⟨kind, start, stop, named, field, cs⟩ := t
  have hcs : sizeOf c < sizeOf cs := List.sizeOf_lt_of_mem hc
  simp only [node.sizeOf_spec]
  omega

/-- **Induction over a tree**, from the children of a node to the node. -/
theorem induction_children {P : SyntaxTree → Prop}
    (step : ∀ t, (∀ c ∈ t.children, P c) → P t) (t : SyntaxTree) : P t :=
  step t fun c _hc => induction_children step c
termination_by sizeOf t
decreasing_by exact sizeOf_lt_of_mem_children _hc

mutual

/-- A node and all nodes inside it. -/
def nodes : SyntaxTree → List SyntaxTree
  | .node kind start stop named field children =>
    .node kind start stop named field children :: nodesAmong children

/-- The nodes of several trees. -/
def nodesAmong : List SyntaxTree → List SyntaxTree
  | [] => []
  | t :: ts => nodes t ++ nodesAmong ts

end

/-- A node is among its nodes. -/
theorem self_mem_nodes (t : SyntaxTree) : t ∈ t.nodes := by
  obtain ⟨kind, start, stop, named, field, children⟩ := t
  exact List.mem_cons_self

/-- The nodes of a child are nodes of its parent. -/
theorem mem_nodes_of_child {t c u : SyntaxTree} (hc : c ∈ t.children) (hu : u ∈ c.nodes) :
    u ∈ t.nodes := by
  have hamong : ∀ ts : List SyntaxTree, c ∈ ts → u ∈ nodesAmong ts := by
    intro ts hts
    induction ts with
    | nil => cases hts
    | cons d ts ih =>
      rw [nodesAmong, List.mem_append]
      rcases List.mem_cons.1 hts with rfl | hts
      · exact Or.inl hu
      · exact Or.inr (ih hts)
  obtain ⟨kind, start, stop, named, field, children⟩ := t
  exact List.mem_cons_of_mem _ (hamong children hc)

/-! ## How a type node is read -/

/-- The children of a node that count where a type is due. -/
def typeChildren (t : SyntaxTree) : List SyntaxTree := t.children.filter isTypeNode

/-- What counts is a child. -/
theorem mem_children_of_mem_typeChildren {t c : SyntaxTree} (hc : c ∈ t.typeChildren) :
    c ∈ t.children := (List.mem_filter.1 hc).1

/-- The ways to read a type node. -/
inductive TypeReading where
  /-- As the name of a type. -/
  | named
  /-- As an array of what another node stands for. -/
  | array (element : SyntaxTree)
  /-- As a union or an intersection. -/
  | joined
  /-- As its source text. -/
  | verbatim

/-- How a type node is read. -/
def typeReading (t : SyntaxTree) : TypeReading :=
  if namingKinds.contains t.kind then .named
  else if t.kind = "array_type" then
    match t.typeChildren.head? with
    | some c => .array c
    | none => .verbatim
  else if joiningKinds.contains t.kind then .joined
  else .verbatim

mutual

/-- The type expression of a type node, with every union and intersection where it is. -/
def directExpr (bytes : SourceBytes) : SyntaxTree → TypeExpr
  | .node kind start stop named field children =>
    let source := text bytes (.node kind start stop named field children)
    if namingKinds.contains kind then .named source
    else if kind = "array_type" then
      match directMembers bytes children with
      | t :: _ => .array t
      | [] => .verbatim source
    else if kind = "union_type" then .union (directMembers bytes children)
    else if kind = "intersection_type" then .inter (directMembers bytes children)
    else .verbatim source

/-- The type expressions of the nodes that count. -/
def directMembers (bytes : SourceBytes) : List SyntaxTree → List TypeExpr
  | [] => []
  | t :: ts => if t.isTypeNode then directExpr bytes t :: directMembers bytes ts else directMembers bytes ts

end

section

variable (bytes : SourceBytes)

/-- What becomes of a node that counts, inside a node of kind `outer`. -/
def dissolved (outer : String) (t : SyntaxTree) : List TypeExpr :=
  if t.kind = outer then flatten bytes outer t.children else [typeExpr bytes t]

/-- Flattening goes from child to child. -/
theorem flatten_eq_flatMap (outer : String) (ts : List SyntaxTree) :
    flatten bytes outer ts = (ts.filter isTypeNode).flatMap (dissolved bytes outer) := by
  induction ts with
  | nil => rw [flatten, List.filter_nil, List.flatMap_nil]
  | cons t ts ih =>
    obtain ⟨kind, start, stop, named, field, children⟩ := t
    rw [flatten, ih, List.filter_cons]
    split
    · rw [List.flatMap_cons, dissolved]
      split <;> rename_i hkind <;> simp [SyntaxTree.kind, SyntaxTree.children, hkind]
    · rfl

/-- The first type among several nodes is that of the first node that counts. -/
theorem firstType?_eq_head? (ts : List SyntaxTree) :
    firstType? bytes ts = (ts.filter isTypeNode).head?.map (typeExpr bytes) := by
  induction ts with
  | nil => rw [firstType?, List.filter_nil, List.head?_nil, Option.map_none]
  | cons t ts ih =>
    rw [firstType?, ih, List.filter_cons]
    split
    · rw [List.head?_cons, Option.map_some]
    · rfl

/-- The direct translation goes from child to child. -/
theorem directMembers_eq_map (ts : List SyntaxTree) :
    directMembers bytes ts = (ts.filter isTypeNode).map (directExpr bytes) := by
  induction ts with
  | nil => rw [directMembers, List.filter_nil, List.map_nil]
  | cons t ts ih =>
    rw [directMembers, ih, List.filter_cons]
    split
    · rw [List.map_cons]
    · rfl

/-- A union or an intersection of what a node of its kind is made of. -/
theorem ite_joining (kind : String) (members : String → List TypeExpr) (other : TypeExpr) :
    (if kind = "union_type" then .union (members "union_type")
      else if kind = "intersection_type" then .inter (members "intersection_type") else other) =
      if joiningKinds.contains kind then .joined kind (members kind) else other := by
  by_cases hunion : kind = "union_type"
  · subst hunion
    rfl
  by_cases hinter : kind = "intersection_type"
  · subst hinter
    rfl
  · have hother : ¬ joiningKinds.contains kind = true := by simp [joiningKinds, hunion, hinter]
    rw [if_neg hunion, if_neg hinter, if_neg hother]

/-- **The type expression of a node**, by the way the node is read. -/
theorem typeExpr_eq (t : SyntaxTree) :
    typeExpr bytes t =
      match t.typeReading with
      | .named => .named (t.text bytes)
      | .array c => .array (typeExpr bytes c)
      | .joined => .joined t.kind (t.typeChildren.flatMap (dissolved bytes t.kind))
      | .verbatim => .verbatim (t.text bytes) := by
  obtain ⟨kind, start, stop, named, field, children⟩ := t
  rw [typeExpr, ite_joining kind (fun k => flatten bytes k children), flatten_eq_flatMap,
    firstType?_eq_head?, typeReading, typeChildren, SyntaxTree.kind, SyntaxTree.children]
  split
  · rfl
  split
  · cases (children.filter isTypeNode).head? <;> rfl
  split <;> rfl

/-- **The direct translation of a node**, by the way the node is read. -/
theorem directExpr_eq (t : SyntaxTree) :
    directExpr bytes t =
      match t.typeReading with
      | .named => .named (t.text bytes)
      | .array c => .array (directExpr bytes c)
      | .joined => .joined t.kind (t.typeChildren.map (directExpr bytes))
      | .verbatim => .verbatim (t.text bytes) := by
  obtain ⟨kind, start, stop, named, field, children⟩ := t
  rw [directExpr, directMembers_eq_map, ite_joining kind (fun _ => _), typeReading, typeChildren,
    SyntaxTree.kind, SyntaxTree.children]
  split
  · rfl
  split
  · cases children.filter isTypeNode <;> rfl
  split <;> rfl

end

section

variable {bytes : SourceBytes} {outer : String} {t c : SyntaxTree}

/-- The element of an array is a child. -/
theorem mem_children_of_array (h : t.typeReading = .array c) : c ∈ t.children := by
  simp only [typeReading] at h
  split at h
  · cases h
  split at h
  · split at h
    · rename_i hhead
      cases h
      exact mem_children_of_mem_typeChildren (List.mem_of_mem_head? hhead)
    · cases h
  split at h <;> cases h

/-- What is read as a union or an intersection is told by its kind. -/
theorem typeReading_eq_joined_iff : t.typeReading = .joined ↔ t.kind ∈ joiningKinds := by
  simp only [typeReading, ← List.contains_iff_mem]
  constructor
  · intro h
    split at h
    · cases h
    split at h
    · split at h <;> cases h
    split at h
    · assumption
    · cases h
  · intro h
    -- the kinds that join are no others
    have hkind : t.kind = "union_type" ∨ t.kind = "intersection_type" := by
      simpa [joiningKinds] using h
    rcases hkind with hkind | hkind <;> rw [hkind] <;> rfl

/-- The type expression of a node that joins types. -/
theorem typeExpr_of_joining (bytes : SourceBytes) (h : t.kind ∈ joiningKinds) :
    typeExpr bytes t = .joined t.kind (flatten bytes t.kind t.children) := by
  rw [typeExpr_eq, typeReading_eq_joined_iff.2 h, flatten_eq_flatMap]
  rfl

/-- Only a node that joins types is read as a union or an intersection, and as which by its kind. -/
theorem kind_of_typeExpr_eq_joined (houter : outer ∈ joiningKinds) {ts : List TypeExpr}
    (h : typeExpr bytes t = .joined outer ts) : t.kind = outer := by
  have hkind := TypeExpr.joinedKind?_joined houter ts
  rw [← h, typeExpr_eq] at hkind
  cases hreading : t.typeReading with
  | named =>
    rw [hreading] at hkind
    cases hkind
  | array c =>
    rw [hreading] at hkind
    cases hkind
  | joined =>
    have hjoining := typeReading_eq_joined_iff.1 hreading
    simp only [hreading, TypeExpr.joinedKind?_joined hjoining] at hkind
    exact Option.some.inj hkind
  | verbatim =>
    rw [hreading] at hkind
    cases hkind

end

/-! ## Nothing nested is left -/

/-- **The type expression of every node is flat**, whatever the tree. -/
theorem flat_typeExpr (bytes : SourceBytes) (t : SyntaxTree) : (typeExpr bytes t).Flat := by
  induction t using induction_children with
  | step t ih =>
    rw [typeExpr_eq]
    cases hreading : t.typeReading with
    | named => exact .named _
    | array c => exact .array (ih c (mem_children_of_array hreading))
    | joined =>
      have houter := typeReading_eq_joined_iff.1 hreading
      rw [TypeExpr.flat_joined_iff]
      intro e he
      obtain ⟨c, hc, hec⟩ := List.mem_flatMap.1 he
      have hflat := ih c (mem_children_of_mem_typeChildren hc)
      rw [dissolved] at hec
      split at hec
      · -- a member of a dissolved child was a member of that child, which is flat
        rename_i hkind
        rw [typeExpr_of_joining bytes (hkind ▸ houter), TypeExpr.flat_joined_iff, hkind] at hflat
        exact hflat e hec
      · rename_i hkind
        obtain rfl := List.mem_singleton.1 hec
        exact ⟨hflat, fun us hus => hkind (kind_of_typeExpr_eq_joined houter hus)⟩
    | verbatim => exact .verbatim _

/-! ## The shape is kept -/

/-- A node that joins types has a type to join. -/
def JoinsTypes (t : SyntaxTree) : Prop := t.kind ∈ joiningKinds → t.typeChildren ≠ []

instance (t : SyntaxTree) : Decidable t.JoinsTypes := inferInstanceAs (Decidable (_ → _))

/-- A node does not disappear when it is dissolved. -/
theorem dissolved_ne_nil (bytes : SourceBytes) {outer : String} (houter : outer ∈ joiningKinds)
    (t : SyntaxTree) (h : ∀ u ∈ t.nodes, u.JoinsTypes) : dissolved bytes outer t ≠ [] := by
  induction t using induction_children with
  | step t ih =>
    rw [dissolved]
    split
    · -- the first child that counts does not disappear
      rename_i hkind
      obtain ⟨c, cs, hcs⟩ := List.exists_cons_of_ne_nil (h t t.self_mem_nodes (hkind ▸ houter))
      have hc : c ∈ t.children := mem_children_of_mem_typeChildren (by simp [hcs])
      have hne := ih c hc fun u hu => h u (mem_nodes_of_child hc hu)
      rw [flatten_eq_flatMap, ← typeChildren, hcs, List.flatMap_cons]
      simp [hne]
    · simp

/-- What becomes of a node inside another has, between bars, the shape of the node. -/
theorem alternatives_dissolved (bytes : SourceBytes) {outer : String} (houter : outer ∈ joiningKinds)
    (t : SyntaxTree) :
    Shape.alternatives ((dissolved bytes outer t).map TypeExpr.shape) = (typeExpr bytes t).shape := by
  rw [dissolved]
  split
  · rename_i hkind
    rw [typeExpr_of_joining bytes (hkind ▸ houter), TypeExpr.shape_joined, hkind]
  · rw [List.map_singleton, Shape.alternatives]

/-- **Flattening keeps the shape.** -/
theorem shape_typeExpr (bytes : SourceBytes) (t : SyntaxTree) (h : ∀ u ∈ t.nodes, u.JoinsTypes) :
    (typeExpr bytes t).shape = (directExpr bytes t).shape := by
  induction t using induction_children with
  | step t ih =>
    have hchild : ∀ c ∈ t.children, (typeExpr bytes c).shape = (directExpr bytes c).shape :=
      fun c hc => ih c hc fun u hu => h u (mem_nodes_of_child hc hu)
    rw [typeExpr_eq, directExpr_eq]
    cases hreading : t.typeReading with
    | named => rfl
    | array c => exact congrArg Shape.array (hchild c (mem_children_of_array hreading))
    | joined =>
      have houter := typeReading_eq_joined_iff.1 hreading
      have hne : ∀ c ∈ t.typeChildren, (dissolved bytes t.kind c).map TypeExpr.shape ≠ [] := by
        intro c hc
        have hnodes : ∀ u ∈ c.nodes, u.JoinsTypes :=
          fun u hu => h u (mem_nodes_of_child (mem_children_of_mem_typeChildren hc) hu)
        simpa using dissolved_ne_nil bytes houter c hnodes
      have hmap : t.typeChildren.map (fun c => (typeExpr bytes c).shape) =
          t.typeChildren.map fun c => (directExpr bytes c).shape :=
        List.map_congr_left fun c hc => hchild c (mem_children_of_mem_typeChildren hc)
      -- no child leaves an empty row, so each row counts as the shape of its child
      simp only [TypeExpr.shape_joined, List.map_flatMap, Shape.alternatives_flatMap hne,
        alternatives_dissolved bytes houter, hmap, List.map_map, Function.comp_def]
    | verbatim => rfl

/-- The direct translation has no flaw. -/
theorem flaw?_directExpr (bytes : SourceBytes) (t : SyntaxTree) :
    (directExpr bytes t).flaw? = none := by
  induction t using induction_children with
  | step t ih =>
    rw [directExpr_eq]
    cases hreading : t.typeReading with
    | named => rfl
    | array c => exact ih c (mem_children_of_array hreading)
    | joined =>
      rw [TypeExpr.flaw?_joined]
      apply TypeExpr.flawAmong?_eq_none
      intro e he
      obtain ⟨c, hc, rfl⟩ := List.mem_map.1 he
      exact ih c (mem_children_of_mem_typeChildren hc)
    | verbatim => rfl

/-- **Flattening preserves the shape.** The type expression of a node has no union in a union and no
intersection in an intersection, at any depth. If every union and every intersection inside the node
joins at least one type, the expression is taken apart into the same leaves and the same template as
the direct translation, in which nothing is dissolved. -/
theorem flattening_preserves_shape (bytes : SourceBytes) (t : SyntaxTree) :
    (typeExpr bytes t).Flat ∧
      ((∀ u ∈ t.nodes, u.JoinsTypes) →
        ∃ shape, (typeExpr bytes t).decompose = .ok shape ∧
          (directExpr bytes t).decompose = .ok shape) := by
  refine ⟨flat_typeExpr bytes t, ?_⟩
  intro h
  refine ⟨(typeExpr bytes t).shape, TypeExpr.decompose_of_wellFormed (flaw?_typeExpr bytes t), ?_⟩
  rw [shape_typeExpr bytes t h]
  exact TypeExpr.decompose_of_wellFormed (flaw?_directExpr bytes t)

/-- A union of a union and of an intersection of an intersection, with a comment in between. -/
def mixedSource : List Char := "é | /**/ B | C & D & E".toList

/-- The node of the whole of `mixedSource`. -/
def mixedNode : SyntaxTree :=
  .node "union_type" 0 23 true none
    [.node "union_type" 0 11 true none
        [.node "type_identifier" 0 2 true none [], .node "|" 3 4 false none [],
          .node "comment" 5 9 true none [], .node "type_identifier" 10 11 true none []],
      .node "|" 12 13 false none [],
      .node "intersection_type" 14 23 true none
        [.node "intersection_type" 14 19 true none
            [.node "type_identifier" 14 15 true none [], .node "&" 16 17 false none [],
              .node "type_identifier" 18 19 true none []],
          .node "&" 20 21 false none [], .node "type_identifier" 22 23 true none []]]

/-- One row of bars is left of unions and intersections inside each other. -/
theorem flattening_preserves_shape_mixedNode :
    (∀ u ∈ mixedNode.nodes, u.JoinsTypes) ∧
      ∃ shape, (typeExpr (Text.Utf8.encode mixedSource) mixedNode).decompose = .ok shape ∧
        (directExpr (Text.Utf8.encode mixedSource) mixedNode).decompose = .ok shape ∧
        shape.template = "\x7b\x7d | \x7b\x7d | \x7b\x7d | \x7b\x7d | \x7b\x7d" := by
  have hjoins : ∀ u ∈ mixedNode.nodes, u.JoinsTypes := by decide
  obtain ⟨shape, hflat, hdirect⟩ :=
    (flattening_preserves_shape (Text.Utf8.encode mixedSource) mixedNode).2 hjoins
  refine ⟨hjoins, shape, hflat, hdirect, ?_⟩
  have hshape := TypeExpr.decompose_of_wellFormed
    (flaw?_directExpr (Text.Utf8.encode mixedSource) mixedNode)
  rw [← Except.ok.inj (hshape.symm.trans hdirect)]
  decide +kernel

-- An empty union disappears when it is dissolved, and leaves a bar when it is kept.
example :
    let t : SyntaxTree := .node "union_type" 0 1 true none
      [.node "union_type" 0 0 true none [], .node "type_identifier" 0 1 true none []]
    (typeExpr [] t).shape.template ≠ (directExpr [] t).shape.template := by
  decide +kernel

end SyntaxTree

end TypeAtlas
