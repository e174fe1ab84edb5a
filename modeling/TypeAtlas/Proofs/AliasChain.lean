import Mathlib.Data.List.Chain
import TypeAtlas.Linked.Resolver

/-! # Alias chains

What an alias comes down to, said without a search, and the search (`Resolver.chase`) measured against it.

* `Resolver.IsAliasOf`: a name is declared as nothing but another name of a leaf.
* `Resolver.AliasChain`: a name leads to an inline leaf through aliases that are not inline.
* `Resolver.chaseWithin`: the search with a bound on the number of its calls.

A name has one leaf at most, so the chain from a name is unique (`AliasChain.unique`) and never comes
back to that name (`AliasChain.notMem`). That is why ending the search at a leaf that was seen before
loses no chain (`chase_eq_some_of_chain`), and `alias_inlining_exact` puts the parts together. -/

namespace TypeAtlas

/-- A candidate has an alias target exactly when it is an alias that is one leaf. -/
theorem Candidate.aliasTarget?_eq_some_iff {c : Candidate} {leaf : String} :
    c.aliasTarget? = some leaf ↔
      ∃ declared shape description exampleText,
        c = .declaration (.typeAlias declared shape description exampleText) ∧
          shape.leaves = [leaf] ∧ shape.template = Shape.single := by
  constructor
  · intro h
    unfold aliasTarget? at h
    split at h
    · rename_i declared shape description exampleText
      split at h
      · rename_i leaf' hleaves
        obtain ⟨htemplate, hleaf⟩ := Option.ite_none_right_eq_some.1 h
        obtain rfl := Option.some.inj hleaf
        exact ⟨declared, shape, description, exampleText, rfl, hleaves, htemplate⟩
      · cases h
    · cases h
  · rintro ⟨declared, shape, description, exampleText, rfl, hleaves, htemplate⟩
    simp [aliasTarget?, hleaves, htemplate]

namespace Resolver

variable {r : Resolver} {name leaf : String}

/-- `name` is declared as a type alias which is the one leaf `leaf` and nothing else. -/
def IsAliasOf (r : Resolver) (name leaf : String) : Prop :=
  ∃ (declared : String) (shape : Shape) (description exampleText : Option String),
    Catalogue.find? (some name) r.known =
        some (.declaration (.typeAlias declared shape description exampleText)) ∧
      shape.leaves = [leaf] ∧ shape.template = Shape.single

/-- A chain from `name` to the inline leaf `leaf`: every element but the last is an alias of the
next, and none of the aliases `via` on the way is inline. -/
def AliasChain (r : Resolver) (name : String) (via : List String) (leaf : String) : Prop :=
  List.IsChain r.IsAliasOf (name :: via ++ [leaf]) ∧
    (∀ a ∈ via, r.isInline a = false) ∧ r.isInline leaf = true

/-- The search reads off exactly the alias relation. -/
theorem aliasTarget?_eq_some_iff : r.aliasTarget? name = some leaf ↔ r.IsAliasOf name leaf := by
  rw [aliasTarget?, Option.bind_eq_some_iff]
  constructor
  · rintro ⟨c, hc, ht⟩
    obtain ⟨declared, shape, description, exampleText, rfl, hshape⟩ :=
      Candidate.aliasTarget?_eq_some_iff.1 ht
    exact ⟨declared, shape, description, exampleText, hc, hshape⟩
  · rintro ⟨declared, shape, description, exampleText, hc, hshape⟩
    exact ⟨_, hc, Candidate.aliasTarget?_eq_some_iff.2
      ⟨declared, shape, description, exampleText, rfl, hshape⟩⟩

/-- A name is an alias of one leaf at most. -/
theorem IsAliasOf.right_unique {leaf' : String} (h : r.IsAliasOf name leaf)
    (h' : r.IsAliasOf name leaf') : leaf = leaf' := by
  rw [← aliasTarget?_eq_some_iff] at h h'
  exact Option.some.inj (h.symm.trans h')

/-! ## Chains -/

/-- The shortest chain is an alias of an inline leaf. -/
theorem aliasChain_nil :
    r.AliasChain name [] leaf ↔ r.IsAliasOf name leaf ∧ r.isInline leaf = true := by
  simp [AliasChain]

/-- A longer chain starts with an alias of a leaf that is not inline. -/
theorem aliasChain_cons {a : String} {via : List String} :
    r.AliasChain name (a :: via) leaf ↔
      r.IsAliasOf name a ∧ r.isInline a = false ∧ r.AliasChain a via leaf := by
  simp only [AliasChain, List.cons_append, List.isChain_cons_cons, List.forall_mem_cons]
  tauto

/-- The part of a chain behind one of its aliases is a chain. -/
theorem AliasChain.drop {a : String} {before after : List String}
    (h : r.AliasChain name (before ++ a :: after) leaf) : r.AliasChain a after leaf := by
  induction before generalizing name with
  | nil => exact (aliasChain_cons.1 h).2.2
  | cons b before ih => exact ih (aliasChain_cons.1 h).2.2

/-- From one name there is one chain at most. -/
theorem AliasChain.unique {via via' : List String} {leaf' : String}
    (h : r.AliasChain name via leaf) (h' : r.AliasChain name via' leaf') :
    via = via' ∧ leaf = leaf' := by
  induction via generalizing name via' with
  | nil =>
    obtain ⟨halias, hinline⟩ := aliasChain_nil.1 h
    cases via' with
    | nil => exact ⟨rfl, halias.right_unique (aliasChain_nil.1 h').1⟩
    | cons b via' =>
      -- the other chain would go on through a leaf at which this one ends
      obtain ⟨hb, hnot, -⟩ := aliasChain_cons.1 h'
      rw [← halias.right_unique hb, hinline] at hnot
      cases hnot
  | cons a via ih =>
    obtain ⟨halias, hnot, hrest⟩ := aliasChain_cons.1 h
    cases via' with
    | nil =>
      obtain ⟨hb, hinline⟩ := aliasChain_nil.1 h'
      rw [← halias.right_unique hb, hnot] at hinline
      cases hinline
    | cons b via' =>
      obtain ⟨hb, -, hrest'⟩ := aliasChain_cons.1 h'
      obtain rfl := halias.right_unique hb
      obtain ⟨rfl, rfl⟩ := ih hrest hrest'
      exact ⟨rfl, rfl⟩

/-- A chain never comes back to the name it starts from. -/
theorem AliasChain.notMem {via : List String} (h : r.AliasChain name via leaf) : name ∉ via := by
  intro hmem
  obtain ⟨before, after, rfl⟩ := List.append_of_mem hmem
  -- the part behind `name` would be a second, shorter chain from `name`
  have hsame := (h.unique h.drop).1
  have hlength := congrArg List.length hsame
  simp only [List.length_append, List.length_cons] at hlength
  omega

/-! ## The search -/

/-- The search ends with nothing at a name that is no alias of one leaf. -/
theorem chase_of_none {seen : List String} (h : r.aliasTarget? name = none) :
    r.chase seen name = none := by
  rw [chase]
  split
  · rfl
  · rename_i target ht
    rw [h] at ht
    cases ht

/-- One step of the search, at an alias of `target`. -/
theorem chase_of_some {seen : List String} {target : String}
    (h : r.aliasTarget? name = some target) :
    r.chase seen name =
      if r.isInline target then some target
      else if target ∈ seen then none
      else r.chase (name :: seen) target := by
  rw [chase]
  split
  · rename_i hn
    rw [h] at hn
    cases hn
  · rename_i target' ht
    obtain rfl : target = target' := Option.some.inj (h.symm.trans ht)
    simp only [dite_eq_ite]

/-- What the search finds is at the end of a chain. -/
theorem exists_chain_of_chase {seen : List String} (h : r.chase seen name = some leaf) :
    ∃ via, r.AliasChain name via leaf := by
  fun_induction chase r seen name with
  | case1 => cases h
  | case2 seen name target ht hinline =>
    obtain rfl : target = leaf := Option.some.inj h
    exact ⟨[], aliasChain_nil.2 ⟨aliasTarget?_eq_some_iff.1 ht, hinline⟩⟩
  | case3 => cases h
  | case4 seen name target ht hnot hseen ih =>
    obtain ⟨via, hvia⟩ := ih h
    have hnot' : r.isInline target = false := by simpa using hnot
    exact ⟨target :: via, aliasChain_cons.2 ⟨aliasTarget?_eq_some_iff.1 ht, hnot', hvia⟩⟩

/-- The search finds the end of a chain, as long as no alias on the way was seen before. -/
theorem chase_eq_some_of_chain {seen via : List String} (h : r.AliasChain name via leaf)
    (hseen : ∀ a ∈ via, a ∉ seen) : r.chase seen name = some leaf := by
  -- `seen` grows by the start of the chain, which does not occur again
  induction via generalizing name seen with
  | nil =>
    obtain ⟨halias, hinline⟩ := aliasChain_nil.1 h
    rw [chase_of_some (aliasTarget?_eq_some_iff.2 halias), if_pos hinline]
  | cons a via ih =>
    obtain ⟨halias, hnot, hrest⟩ := aliasChain_cons.1 h
    have hfresh : a ∉ seen := hseen a List.mem_cons_self
    rw [chase_of_some (aliasTarget?_eq_some_iff.2 halias), hnot, if_neg Bool.false_ne_true,
      if_neg hfresh]
    apply ih hrest
    intro b hb
    rw [List.mem_cons, not_or]
    refine ⟨?_, hseen b (List.mem_cons_of_mem a hb)⟩
    rintro rfl
    exact h.notMem (List.mem_cons_of_mem a hb)

/-- A name comes down to a leaf exactly when a chain of aliases leads there. -/
theorem inlineText?_eq_some_iff :
    r.inlineText? name = some leaf ↔ ∃ via, r.AliasChain name via leaf := by
  constructor
  · exact exists_chain_of_chase
  · rintro ⟨via, h⟩
    exact chase_eq_some_of_chain h fun a _ => List.not_mem_nil

/-! ## The number of calls -/

/-- The search stopped after a number of calls; `none` says that it is not over by then. -/
def chaseWithin (r : Resolver) : (calls : Nat) → (seen : List String) → (name : String) →
    Option (Option String)
  | 0, _, _ => none
  | calls + 1, seen, name =>
    match r.aliasTarget? name with
    | none => some none
    | some target =>
      if r.isInline target then some (some target)
      else if target ∈ seen then some none
      else chaseWithin r calls (name :: seen) target

/-- As many calls suffice as there are declarations outside of `seen`, and one more, when a name that
was seen leads to a name that was seen. -/
theorem chaseWithin_eq_some_chase {calls : Nat} {seen : List String}
    (hclosed : name ∈ seen → ∀ target, r.aliasTarget? name = some target → target ∈ seen)
    (hcalls : Catalogue.countOutside (seen.map some) r.known < calls) :
    r.chaseWithin calls seen name = some (r.chase seen name) := by
  induction calls generalizing seen name with
  | zero => omega
  | succ calls ih =>
    rw [chaseWithin]
    cases ht : r.aliasTarget? name with
    | none => rw [chase_of_none ht]
    | some target =>
      rw [chase_of_some ht]
      by_cases hinline : r.isInline target = true
      · simp only [hinline, if_true]
      by_cases hseen : target ∈ seen
      · simp only [hinline, hseen, if_true, if_false, Bool.false_eq_true]
      simp only [hinline, hseen, if_false, Bool.false_eq_true]
      apply ih
      · -- only `name` itself can be both new and kept now, and it leads to itself
        intro hmem target' ht'
        obtain rfl | hmem := List.mem_cons.1 hmem
        · obtain rfl := Option.some.inj (ht.symm.trans ht')
          exact hmem
        · exact absurd hmem hseen
      · have hname : some name ∉ seen.map some := by
          intro hmem
          exact hseen (hclosed (by simpa using hmem) target ht)
        obtain ⟨c, hc, -⟩ := Option.bind_eq_some_iff.1 ht
        have hlt := Catalogue.countOutside_lt hc hname
        rw [List.map_cons]
        omega

/-- **Alias inlining is exact and always ends.** The search for what `name` comes down to is over
after one call more than there are declarations, whatever cycles the aliases form. It finds `leaf`
exactly when a chain of aliases leads from `name` to the inline leaf `leaf`. -/
theorem alias_inlining_exact (r : Resolver) (name : String) :
    r.chaseWithin (r.known.length + 1) [] name = some (r.inlineText? name) ∧
      ∀ leaf, r.inlineText? name = some leaf ↔ ∃ via, r.AliasChain name via leaf := by
  refine ⟨?_, fun leaf => ⟨exists_chain_of_chase, ?_⟩⟩
  · apply chaseWithin_eq_some_chase
    · intro hmem
      cases hmem
    · exact Nat.lt_succ_of_le (List.countP_le_length)
  · rintro ⟨via, h⟩
    exact chase_eq_some_of_chain h fun a _ => List.not_mem_nil

end Resolver

end TypeAtlas
