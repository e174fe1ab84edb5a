import TypeAtlas.Proofs.Extraction
import TypeAtlas.SyntaxTree.Statements

/-! # The walk of a syntax tree

Whatever tree is walked, its statements (`SyntaxTree.statements`) are well-formed
(`SyntaxTree.wellFormed_statements`): a node in which no type is found is taken verbatim, and a missing
node is an absent type. Nothing is assumed of kinds, fields, children or ranges. -/

namespace TypeAtlas

/-- The first flaw among more expressions is the first flaw of either part. -/
theorem TypeExpr.flawAmong?_append (ts us : List TypeExpr) :
    flawAmong? (ts ++ us) = (flawAmong? ts).or (flawAmong? us) := by
  induction ts with
  | nil => rfl
  | cons t ts ih => rw [List.cons_append, flawAmong?, flawAmong?, ih, Option.or_assoc]

namespace SyntaxTree

variable (bytes : SourceBytes)

-- By recursion over the tree; a union or intersection node hands its children to `flatten`.
mutual

/-- The type expression of a node has no flaw. -/
theorem flaw?_typeExpr : (t : SyntaxTree) → (typeExpr bytes t).flaw? = none
  | .node kind start stop named field children => by
    rw [typeExpr]
    split
    · rfl
    split
    · -- an array node without an element is taken verbatim
      cases h : firstType? bytes children with
      | none => rfl
      | some t => exact flaw?_firstType? children t h
    split
    · exact flawAmong?_flatten "union_type" children
    split
    · exact flawAmong?_flatten "intersection_type" children
    · rfl

/-- The type expression of the first node that counts has no flaw. -/
theorem flaw?_firstType? : (ts : List SyntaxTree) → (e : TypeExpr) →
    firstType? bytes ts = some e → e.flaw? = none
  | [], e, h => by cases h
  | t :: ts, e, h => by
    rw [firstType?] at h
    split at h
    · rw [← Option.some.inj h]
      exact flaw?_typeExpr t
    · exact flaw?_firstType? ts e h

/-- The members of a flattened node have no flaw. -/
theorem flawAmong?_flatten (outer : String) : (ts : List SyntaxTree) →
    TypeExpr.flawAmong? (flatten bytes outer ts) = none
  | [] => by rw [flatten, TypeExpr.flawAmong?]
  | .node kind start stop named field children :: ts => by
    rw [flatten]
    split
    · split
      · rw [TypeExpr.flawAmong?_append, flawAmong?_flatten outer children,
          flawAmong?_flatten outer ts, Option.or_none]
      · rw [TypeExpr.flawAmong?, flawAmong?_flatten outer ts, Option.or_none]
        exact flaw?_typeExpr (.node kind start stop named field children)
    · exact flawAmong?_flatten outer ts

end

/-- The type of an annotation is well-formed, also when there is none. -/
theorem wellFormed_annotatedType (note : Option SyntaxTree) :
    (annotatedType bytes note).WellFormed := by
  rw [annotatedType]
  cases h : (note.map children).bind (firstType? bytes) with
  | none => rfl
  | some e =>
    obtain ⟨ts, -, hts⟩ := Option.bind_eq_some_iff.1 h
    exact flaw?_firstType? bytes ts e hts

/-- The member of a node is well-formed. -/
theorem wellFormed_member (t : SyntaxTree) (comment : Option Comment) :
    (member bytes t comment).WellFormed := by
  rw [member]
  split
  · exact wellFormed_annotatedType bytes (t.child? "type")
  · trivial

/-- The statement of a node is well-formed. -/
theorem wellFormed_statement (t : SyntaxTree) (comment : Option Comment) :
    (statement bytes t comment).WellFormed := by
  rw [statement]
  obtain ⟨d, exported⟩ := declaring t
  dsimp only
  split
  · intro m hm
    obtain ⟨p, -, rfl⟩ := List.mem_map.1 hm
    exact wellFormed_member bytes p.1 p.2
  split
  · -- an alias without a value is an alias of no type
    cases h : d.child? "value" with
    | none => rfl
    | some value => exact flaw?_typeExpr bytes value
  split
  · trivial
  · trivial

/-- **The statements of every tree are well-formed.** -/
theorem wellFormed_statements (root : SyntaxTree) :
    ∀ s ∈ statements bytes root, s.WellFormed := by
  intro s hs
  obtain ⟨p, -, rfl⟩ := List.mem_map.1 hs
  exact wellFormed_statement bytes p.1 p.2

end SyntaxTree

end TypeAtlas
