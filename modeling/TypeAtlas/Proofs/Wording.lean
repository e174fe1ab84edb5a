import TypeAtlas.Proofs.Appending
import TypeAtlas.Proofs.CommentDocs
import TypeAtlas.Proofs.TypeText

/-! # What documentation is written with

Which characters a linked type and the documentation of a property can hold, from the characters in the
statements.

* `Text.FreeOf`: a text without some characters.
* `TypeExpr.separators`: the bars that stand between the members of a type.
* `Statement.words`, `Statement.remarks`: the names and leaves in a statement, and the texts in its comments.

A type is printed as its leaves with brackets behind them and bars between them, so it is written in one
part more than it has separators (`TypeExpr.exists_parts`). A leaf is shown as itself, as a link, or as
a leaf of another declaration (`Resolver.freeOf_segment`). A description is made of comment texts with
line feeds between them (`Comment.freeOf_description`). -/

namespace TypeAtlas

open Text

/-! ## Texts without some characters -/

namespace Text

/-- A text holds none of some characters. -/
def FreeOf (cs : List Char) (s : String) : Prop := ∀ c ∈ cs, c ∉ s.toList

/-- Whether it does can be computed. -/
instance (cs : List Char) (s : String) : Decidable (FreeOf cs s) := List.decidableBAll _ cs

/-- The empty text holds nothing. -/
theorem freeOf_empty (cs : List Char) : FreeOf cs "" := fun _ _ => List.not_mem_nil

/-- Two texts hold what one of them holds. -/
theorem FreeOf.append {cs : List Char} {s t : String} (hs : FreeOf cs s) (ht : FreeOf cs t) :
    FreeOf cs (s ++ t) := by
  intro c hc
  rw [String.toList_append, List.mem_append, not_or]
  exact ⟨hs c hc, ht c hc⟩

/-- Texts that are joined hold what one of them holds, or what stands between them. -/
theorem freeOf_intercalate {cs : List Char} {sep : String} (hsep : FreeOf cs sep) {xs : List String}
    (h : ∀ x ∈ xs, FreeOf cs x) : FreeOf cs (sep.intercalate xs) := by
  induction xs with
  | nil => exact freeOf_empty cs
  | cons x xs ih =>
    obtain ⟨hx, hxs⟩ := List.forall_mem_cons.1 h
    by_cases hnil : xs = []
    · rwa [hnil, String.intercalate_singleton]
    · rw [String.intercalate_cons_of_ne_nil hnil]
      exact (hx.append hsep).append (ih hxs)

end Text

/-! ## The bars of a type -/

namespace TypeExpr

mutual

/-- The bars between the members of a type, at any depth. -/
def separators : TypeExpr → Nat
  | .array t => separators t
  | .union ts => separatorsAmong ts
  | .inter ts => separatorsAmong ts
  | _ => 0

/-- The bars between some types and inside of them. -/
def separatorsAmong : List TypeExpr → Nat
  | [] => 0
  | t :: ts => separators t + (if ts.isEmpty then 0 else 1) + separatorsAmong ts

end

/-- A leaf is one part. -/
theorem exists_parts_leaf {cs : List Char} {text : String} (h : FreeOf cs text) :
    ∃ parts : List String, text = " | ".intercalate parts ∧ parts.length = 1 ∧
      ∀ x ∈ parts, FreeOf cs x :=
  ⟨[text], String.intercalate_singleton.symm, rfl, List.forall_mem_singleton.2 h⟩

/-- Brackets behind texts that are joined stand behind the last of them. -/
theorem exists_parts_brackets {cs : List Char} (hcs : FreeOf cs "[]") {parts : List String}
    (hne : parts ≠ []) (hparts : ∀ x ∈ parts, FreeOf cs x) :
    ∃ parts', " | ".intercalate parts ++ "[]" = " | ".intercalate parts' ∧
      parts'.length = parts.length ∧ ∀ x ∈ parts', FreeOf cs x := by
  obtain ⟨before, x, rfl⟩ := (List.eq_nil_or_concat parts).resolve_left hne
  simp only [List.concat_eq_append, List.forall_mem_append, List.forall_mem_singleton] at hparts ⊢
  refine ⟨before ++ [x ++ "[]"], ?_, by simp, ?_⟩
  · by_cases hbefore : before = []
    · simp [hbefore]
    · rw [String.intercalate_append_of_ne_nil hbefore (by simp),
        String.intercalate_append_of_ne_nil hbefore (by simp), String.intercalate_singleton,
        String.intercalate_singleton, String.append_assoc]
  · rw [List.forall_mem_append, List.forall_mem_singleton]
    exact ⟨hparts.1, hparts.2.append hcs⟩

variable {f : String → String} {cs : List Char}

mutual

/-- **A type is written in one part more than it has separators**, and its parts hold what its leaves are
written with, brackets apart. -/
theorem exists_parts (hcs : FreeOf cs "[]") : (t : TypeExpr) →
    (∀ leaf ∈ t.shape.leaves, FreeOf cs (f leaf)) →
    ∃ parts, t.print f = " | ".intercalate parts ∧ parts.length = t.separators + 1 ∧
      ∀ x ∈ parts, FreeOf cs x
  | .absent, h => exists_parts_leaf (h unknown List.mem_cons_self)
  | .named name, h => exists_parts_leaf (h name List.mem_cons_self)
  | .array t, h => by
    obtain ⟨parts, hparts, hlength, hfree⟩ := exists_parts hcs t h
    have hne : parts ≠ [] := List.ne_nil_of_length_eq_add_one hlength
    obtain ⟨parts', hparts', hlength', hfree'⟩ := exists_parts_brackets hcs hne hfree
    exact ⟨parts', by rw [print, hparts, hparts'], hlength'.trans hlength, hfree'⟩
  | .union ts, h => exists_parts_among hcs ts h
  | .inter ts, h => exists_parts_among hcs ts h
  | .verbatim text, h => exists_parts_leaf (h text List.mem_cons_self)
  | .malformed text, h => exists_parts_leaf (h text List.mem_cons_self)

/-- The same for types with bars between them. -/
theorem exists_parts_among (hcs : FreeOf cs "[]") : (ts : List TypeExpr) →
    (∀ leaf ∈ (Shape.alternatives (shapes ts)).leaves, FreeOf cs (f leaf)) →
    ∃ parts, " | ".intercalate (printAll f ts) = " | ".intercalate parts ∧
      parts.length = separatorsAmong ts + 1 ∧ ∀ x ∈ parts, FreeOf cs x
  | [], _ => exists_parts_leaf (freeOf_empty cs)
  | t :: ts, h => by
    rw [Shape.leaves_alternatives, shapes, List.flatMap_cons, List.forall_mem_append,
      ← Shape.leaves_alternatives] at h
    obtain ⟨parts, hparts, hlength, hfree⟩ := exists_parts hcs t h.1
    by_cases hts : ts = []
    · subst hts
      exact ⟨parts, by rw [printAll, printAll, String.intercalate_singleton, hparts], hlength, hfree⟩
    · -- the parts of the first type come before those of the others
      obtain ⟨others, hothers, hlength', hfree'⟩ := exists_parts_among hcs ts h.2
      have hne : printAll f ts ≠ [] := by
        cases ts with
        | nil => exact absurd rfl hts
        | cons t' ts => simp [printAll]
      refine ⟨parts ++ others, ?_, ?_, List.forall_mem_append.2 ⟨hfree, hfree'⟩⟩
      · rw [printAll, String.intercalate_cons_of_ne_nil hne, hparts, hothers,
          String.intercalate_append_of_ne_nil (List.ne_nil_of_length_eq_add_one hlength)
            (List.ne_nil_of_length_eq_add_one hlength')]
      · rw [List.length_append, hlength, hlength', separatorsAmong]
        simp only [List.isEmpty_iff, hts, if_false]
        omega

end

end TypeExpr

/-! ## What linked types are written with -/

namespace Resolver

/-- The last alias of a chain names its leaf. -/
theorem AliasChain.exists_isAliasOf {r : Resolver} {name leaf : String} {via : List String}
    (h : r.AliasChain name via leaf) : ∃ n, r.IsAliasOf n leaf := by
  induction via generalizing name with
  | nil => exact ⟨name, (aliasChain_nil.1 h).1⟩
  | cons a via ih => exact ih (aliasChain_cons.1 h).2.2

variable {cs : List Char} {ds : List (Declaration Shape)} {inline : List String} {leaf : String}

/-- What a name comes down to is a leaf of one of the declarations. -/
theorem exists_leaf_of_inlineText? {text : String} (h : (knowing inline ds).inlineText? leaf = some text) :
    ∃ d ∈ ds, ∃ o ∈ d.ownedShapes, text ∈ o.2.leaves := by
  obtain ⟨via, hchain⟩ := inlineText?_eq_some_iff.1 h
  obtain ⟨n, declared, shape, description, exampleText, hfind, hleaves, -⟩ := hchain.exists_isAliasOf
  rw [find?_knowing] at hfind
  obtain ⟨d, hd, hdeclaration⟩ := Option.map_eq_some_iff.1 hfind
  cases hdeclaration
  exact ⟨_, Declaration.mem_of_lastNamed? hd, (declared, shape), List.mem_cons_self, by simp [hleaves]⟩

/-- A resolved leaf is written with what leaves are written with, the marks of a link apart. -/
theorem freeOf_segment (hcs : ∀ mark ∈ ["[", "](#", ")"], FreeOf cs mark)
    (hds : ∀ d ∈ ds, ∀ o ∈ d.ownedShapes, ∀ x ∈ o.2.leaves, FreeOf cs x) (hleaf : FreeOf cs leaf) :
    FreeOf cs (LinkedShape.markdown [(knowing inline ds).segment leaf]) := by
  have htext {x : String} (hx : FreeOf cs x) : FreeOf cs (LinkedShape.markdown [.text x]) :=
    hx.append (freeOf_empty cs)
  rw [segment]
  split
  · exact htext hleaf
  · split
    · rename_i text hinline
      obtain ⟨d, hd, o, ho, hmem⟩ := exists_leaf_of_inlineText? hinline
      exact htext (hds d hd o ho text hmem)
    · split
      · have hopen : FreeOf cs "[" := hcs _ (by simp)
        have hbetween : FreeOf cs "](#" := hcs _ (by simp)
        have hclose : FreeOf cs ")" := hcs _ (by simp)
        exact ((((hopen.append hleaf).append hbetween).append hleaf).append hclose).append
          (freeOf_empty cs)
      · exact htext hleaf

end Resolver

/-! ## Words and remarks -/

/-- The texts of a comment, if there is one. -/
def Comment.texts (c : Option Comment) : List String := (c.getD []).map Fragment.text

/-- The name of a member and the leaves of its type. -/
def Member.words : Member → List String
  | .property p => p.name :: p.type.shape.leaves
  | .other _ => []

/-- The texts in the comment of a member. -/
def Member.remarks : Member → List String
  | .property p => Comment.texts p.comment
  | .other _ => []

/-- The names in a statement and the leaves of its types. -/
def Statement.words : Statement → List String
  | .interface name _ members _ => name :: members.flatMap Member.words
  | .typeAlias name _ target _ => name :: target.shape.leaves
  | .importing _ => []
  | .other _ => []

/-- The texts in the comments of a statement. -/
def Statement.remarks : Statement → List String
  | .interface _ _ members comment => Comment.texts comment ++ members.flatMap Member.remarks
  | .typeAlias _ _ _ comment => Comment.texts comment
  | .importing _ => []
  | .other _ => []

/-- The documentation texts of a property. -/
def Property.remarks {σ : Type} (p : Property σ) : List String :=
  p.description.toList ++ p.defaultText.toList ++ p.exampleText.toList

/-- The leaves of a declaration are leaves in its statement. -/
theorem Statement.leaf_mem_words {s : Statement} {d : Declaration Shape} (h : s.declared? = some d)
    {o : String × Shape} (ho : o ∈ d.ownedShapes) {leaf : String} (hleaf : leaf ∈ o.2.leaves) :
    leaf ∈ s.words := by
  have hshape : o.2 ∈ s.exportedTypes.map TypeExpr.shape := by
    rw [← shapes_declared? h]
    exact List.mem_map_of_mem ho
  obtain ⟨t, ht, hto⟩ := List.mem_map.1 hshape
  rw [← hto] at hleaf
  cases s with
  | interface name exported members comment =>
    cases exported with
    | false => cases ht
    | true =>
      obtain ⟨m, hm, hmt⟩ := List.mem_filterMap.1 ht
      cases m with
      | other u => cases hmt
      | property p =>
        cases hmt
        exact List.mem_cons_of_mem _ (List.mem_flatMap.2 ⟨_, hm, List.mem_cons_of_mem _ hleaf⟩)
  | typeAlias name exported target comment =>
    cases exported with
    | false => cases ht
    | true =>
      obtain rfl := List.mem_singleton.1 ht
      exact List.mem_cons_of_mem _ hleaf
  | importing text => cases ht
  | other u => cases ht

/-- A property of a declaration is a member of its statement. -/
theorem Statement.exists_member {s : Statement} {name : String} {qs : List (Property Shape)}
    {description exampleText : Option String}
    (h : s.declared? = some (.interface name qs description exampleText)) {q : Property Shape}
    (hq : q ∈ qs) : ∃ p : PropertyMember, p.declared = q ∧ p.name ∈ s.words ∧
      ∀ x ∈ Comment.texts p.comment, x ∈ s.remarks := by
  cases s with
  | interface name exported members comment =>
    cases exported with
    | false => cases h
    | true =>
      cases h
      obtain ⟨m, hm, hmq⟩ := List.mem_filterMap.1 hq
      cases m with
      | other u => cases hmq
      | property p =>
        cases hmq
        refine ⟨p, rfl, ?_, ?_⟩
        · exact List.mem_cons_of_mem _ (List.mem_flatMap.2 ⟨_, hm, List.mem_cons_self⟩)
        · intro x hx
          exact List.mem_append_right _ (List.mem_flatMap.2 ⟨_, hm, hx⟩)
  | typeAlias name exported target comment =>
    cases exported <;> cases h
  | importing text => cases h
  | other u => cases h

namespace Comment

variable {cs : List Char} {c : Comment}

/-- A description is written with what the texts of its comment are written with, line feeds apart. -/
theorem freeOf_description (hcs : FreeOf cs "\n") (h : ∀ f ∈ c, FreeOf cs f.text) {x : String}
    (hx : (docs c).description = some x) : FreeOf cs x := by
  obtain ⟨rfl, -⟩ := nonEmpty_eq_some_iff.1 hx
  apply freeOf_intercalate hcs
  intro u hu
  obtain ⟨f, hf, hfu⟩ := List.mem_filterMap.1 hu
  split at hfu
  · obtain ⟨rfl, -⟩ := nonEmpty_eq_some_iff.1 hfu
    exact h f hf
  · cases hfu

/-- A text under a tag is a text of the comment. -/
theorem freeOf_tagged (h : ∀ f ∈ c, FreeOf cs f.text) {tag x : String} (hx : tagged tag c = some x) :
    FreeOf cs x := by
  obtain ⟨f, hf, hfx⟩ := Option.bind_eq_some_iff.1 hx
  obtain ⟨rfl, -⟩ := nonEmpty_eq_some_iff.1 hfx
  exact h f (List.mem_of_find?_eq_some hf)

end Comment

/-- The documentation of a property is written with what its comment is written with, line feeds apart. -/
theorem PropertyMember.freeOf_remarks {cs : List Char} (hcs : FreeOf cs "\n") {p : PropertyMember}
    (h : ∀ x ∈ Comment.texts p.comment, FreeOf cs x) : ∀ x ∈ p.declared.remarks, FreeOf cs x := by
  intro x hx
  simp only [Property.remarks, List.mem_append, Option.mem_toList] at hx
  cases hcomment : p.comment with
  | none =>
    simp [PropertyMember.declared, hcomment, Docs.of, Docs.none] at hx
  | some c =>
    have htexts : ∀ f ∈ c, FreeOf cs f.text := by
      intro f hf
      exact h _ (by rw [hcomment]; exact List.mem_map_of_mem hf)
    simp only [PropertyMember.declared, hcomment, Docs.of, Option.elim_some] at hx
    obtain (hx | hx) | hx := hx
    · exact Comment.freeOf_description hcs htexts hx
    · exact Comment.freeOf_tagged htexts hx
    · exact Comment.freeOf_tagged htexts hx

end TypeAtlas
