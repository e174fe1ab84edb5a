import Mathlib.Data.List.Nodup
import Mathlib.Data.Set.Basic
import TypeAtlas.Proofs.References

/-! # Resolvers that agree

What a leaf becomes (`Resolver.segment`) depends on the inline types as a set and on what is known under
the names that can be reached from it, and on nothing else: neither on the order of the declarations nor
on what stands under other names.

* `Resolver.AgreeOn`: two resolvers with the same inline leaves that know the same under some names,
  where an alias among these names leads to one of them.

Resolvers that agree on the leaves of a shape give it the same linked form (`AgreeOn.linkedShape_eq`).
Declarations with the same last declaration of every name make resolvers that agree on all names, which
is all that `linking_ignores_order` needs. -/

namespace TypeAtlas

namespace Resolver

/-! ## Agreement on names -/

/-- Two resolvers agree on some names: the same leaves are inline for both, they know the same under each
of these names, and an alias among them leads to one of them. -/
structure AgreeOn (names : Set String) (r r' : Resolver) : Prop where
  /-- The same leaves are inline. -/
  isInline_eq : ∀ leaf, r.isInline leaf = r'.isInline leaf
  /-- The same is known. -/
  find?_eq : ∀ name ∈ names,
    Catalogue.find? (some name) r.known = Catalogue.find? (some name) r'.known
  /-- No alias leads out of the names. -/
  closed : ∀ name ∈ names, ∀ target, r.aliasTarget? name = some target → target ∈ names

namespace AgreeOn

variable {names : Set String} {r r' : Resolver} (h : AgreeOn names r r')

include h

/-- The names on which resolvers agree are aliases of the same leaves. -/
theorem aliasTarget?_eq {name : String} (hname : name ∈ names) :
    r.aliasTarget? name = r'.aliasTarget? name := by
  rw [aliasTarget?, aliasTarget?, h.find?_eq name hname]

/-- The same search finds the same. -/
theorem chase_eq {seen : List String} {name : String} (hname : name ∈ names) :
    r.chase seen name = r'.chase seen name := by
  -- along the search for `r`; it stays among the names, so `r'` takes the same step
  fun_induction chase r seen name with
  | case1 seen name ht =>
    rw [h.aliasTarget?_eq hname] at ht
    rw [chase_of_none ht]
  | case2 seen name target ht hinline =>
    rw [h.aliasTarget?_eq hname] at ht
    rw [h.isInline_eq] at hinline
    rw [chase_of_some ht, if_pos hinline]
  | case3 seen name target ht hinline hseen =>
    rw [h.aliasTarget?_eq hname] at ht
    rw [h.isInline_eq] at hinline
    rw [chase_of_some ht, if_neg hinline, if_pos hseen]
  | case4 seen name target ht hinline hseen ih =>
    rw [ih (h.closed name hname target ht)]
    rw [h.aliasTarget?_eq hname] at ht
    rw [h.isInline_eq] at hinline
    rw [chase_of_some ht, if_neg hinline, if_neg hseen]

/-- A name on which resolvers agree becomes the same segment. -/
theorem segment_eq {leaf : String} (hleaf : leaf ∈ names) : r.segment leaf = r'.segment leaf := by
  rw [segment, segment, h.isInline_eq, inlineText?, inlineText?, h.chase_eq hleaf, Catalogue.has,
    Catalogue.has, h.find?_eq leaf hleaf]

/-- A shape whose leaves are names on which resolvers agree has the same linked form. -/
theorem linkedShape_eq {s : Shape} (hs : ∀ leaf ∈ s.leaves, leaf ∈ names) :
    r.linkedShape s = r'.linkedShape s := by
  rw [linkedShape, linkedShape]
  congr 2
  apply List.flatMap_congr
  intro p hp
  have hleaf : p.1 ∈ s.leaves := (List.of_mem_zip hp).1
  rw [h.segment_eq (hs p.1 hleaf)]

end AgreeOn

end Resolver

/-- Changes of shapes that agree on the shapes of a declaration have the same result. -/
theorem Declaration.map_congr {σ τ : Type} {f g : σ → τ} {d : Declaration σ}
    (h : ∀ o ∈ d.ownedShapes, f o.2 = g o.2) : d.map f = d.map g := by
  cases d with
  | interface name ps description exampleText =>
    have hps : ps.map (Property.map f) = ps.map (Property.map g) := by
      apply List.map_congr_left
      intro p hp
      rw [Property.map, Property.map, h _ (List.mem_map_of_mem hp)]
    rw [Declaration.map, Declaration.map, hps]
  | typeAlias name shape description exampleText =>
    rw [Declaration.map, Declaration.map, h _ List.mem_cons_self]

/-- Resolvers that agree on all leaves of a declaration give it the same linked form. -/
theorem Resolver.AgreeOn.map_eq {names : Set String} {r r' : Resolver} (h : AgreeOn names r r')
    {d : Declaration Shape} (hd : ∀ o ∈ d.ownedShapes, ∀ leaf ∈ o.2.leaves, leaf ∈ names) :
    d.map r.linkedShape = d.map r'.linkedShape :=
  Declaration.map_congr fun o ho => h.linkedShape_eq (hd o ho)

/-! ## Distinct names -/

/-- Distinct names are not repeated. -/
theorem repeatedAfter_of_nodup {before names : List String} (h : (before ++ names).Nodup) :
    repeatedAfter before names = [] := by
  induction names generalizing before with
  | nil => rfl
  | cons n names ih =>
    have hnew : n ∉ before := by
      intro hn
      exact (List.nodup_append.1 h).2.2 n hn n List.mem_cons_self rfl
    rw [repeatedAfter_cons, if_neg hnew, List.nil_append]
    apply ih
    rwa [List.append_assoc, List.singleton_append]

namespace Declaration

variable {σ : Type}

/-- The last declaration of a name is one of the declarations. -/
theorem mem_of_lastNamed? {ds : List (Declaration σ)} {n : String} {d : Declaration σ}
    (h : lastNamed? ds n = some d) : d ∈ ds :=
  List.mem_of_mem_filter (List.mem_of_getLast? h)

/-- Among declarations with distinct names, the last one of a name is the one that has it. -/
theorem lastNamed?_eq_some_iff {ds : List (Declaration σ)} (h : (ds.map name).Nodup) {n : String}
    {d : Declaration σ} : lastNamed? ds n = some d ↔ d ∈ ds ∧ d.name = n := by
  constructor
  · intro hlast
    exact ⟨mem_of_lastNamed? hlast, name_of_lastNamed? hlast⟩
  · rintro ⟨hd, rfl⟩
    have hhas := has_index_iff.2 (List.mem_map_of_mem hd)
    rw [Catalogue.has, find?_index] at hhas
    obtain ⟨e, he⟩ := Option.isSome_iff_exists.1 hhas
    have hsame : e = d :=
      List.inj_on_of_nodup_map h (mem_of_lastNamed? he) hd (name_of_lastNamed? he)
    rw [he, hsame]

/-- Declarations with distinct names are filed as they stand. -/
theorem index_of_nodup {ds : List (Declaration σ)} (h : (ds.map name).Nodup) :
    index ds = ds.map fun d => (d.name, d) := by
  induction ds using List.reverseRecOn with
  | nil => rfl
  | append_singleton ds d ih =>
    rw [List.map_append, List.map_singleton, List.nodup_append] at h
    have hnew : d.name ∉ (index ds).map Prod.fst := by
      rw [keys_index, List.mem_eraseDups]
      intro hmem
      exact h.2.2 _ hmem _ List.mem_cons_self rfl
    rw [index_concat, Catalogue.insert_of_notMem hnew, ih h.1, List.map_append, List.map_singleton]

/-- Declarations with distinct names have the same last declarations in any order. -/
theorem lastNamed?_of_perm {ds ds' : List (Declaration σ)} (h : (ds.map name).Nodup)
    (hperm : ds.Perm ds') (n : String) : lastNamed? ds n = lastNamed? ds' n := by
  have h' : (ds'.map name).Nodup := (hperm.map name).nodup_iff.1 h
  ext d
  rw [lastNamed?_eq_some_iff h, lastNamed?_eq_some_iff h', hperm.mem_iff]

end Declaration

/-- The loose leaves of a declaration depend on the inline types and on the declared names as sets. -/
theorem Declaration.looseLeaves_congr {inline inline' names names' : List String}
    (hinline : ∀ t, t ∈ inline ↔ t ∈ inline') (hnames : ∀ n, n ∈ names ↔ n ∈ names')
    (d : Declaration Shape) : d.looseLeaves inline names = d.looseLeaves inline' names' := by
  simp only [looseLeaves, hinline, hnames]

/-- With distinct names the unresolved leaves are those of one declaration after the other. -/
theorem unresolvedLeaves_of_nodup (inline : List String) {ds : List (Declaration Shape)}
    (h : (ds.map Declaration.name).Nodup) :
    unresolvedLeaves inline ds =
      ds.flatMap (Declaration.looseLeaves inline (ds.map Declaration.name)) := by
  have hnames : (ds.map Declaration.name).eraseDups = ds.map Declaration.name := by
    rw [← Declaration.keys_index, Declaration.index_of_nodup h, List.map_map]
    rfl
  rw [unresolvedLeaves, hnames, List.flatMap_map]
  apply List.flatMap_congr
  intro d hd
  rw [(Declaration.lastNamed?_eq_some_iff h).2 ⟨hd, rfl⟩, Option.toList_some, List.flatMap_singleton]

/-! ## The order of declarations -/

/-- Under a name stands the linked form of its last declaration. -/
theorem find?_linkedDocs (inline : List String) (ds : List (Declaration Shape)) (name : String) :
    Catalogue.find? name (linkedDocs inline ds) =
      (Declaration.lastNamed? ds name).map
        (Declaration.map (Resolver.knowing inline ds).linkedShape) := by
  rw [← Declaration.find?_index]
  exact Catalogue.find?_map (fun _ _ => id) _ name (Declaration.index ds)

/-- The inline types matter as a set only. -/
theorem Resolver.isInline_congr {inline inline' : List String} (h : ∀ t, t ∈ inline ↔ t ∈ inline')
    (known known' : Catalogue (Option String) Candidate) (leaf : String) :
    (⟨inline, known⟩ : Resolver).isInline leaf = (⟨inline', known'⟩ : Resolver).isInline leaf := by
  simp only [isInline, List.contains_eq_mem, h leaf]

/-- Resolvers of declarations with the same last declarations agree on all names. -/
theorem Resolver.agreeOn_of_lastNamed? {inline inline' : List String}
    (hinline : ∀ t, t ∈ inline ↔ t ∈ inline') {ds ds' : List (Declaration Shape)}
    (h : ∀ name, Declaration.lastNamed? ds name = Declaration.lastNamed? ds' name) :
    AgreeOn Set.univ (knowing inline ds) (knowing inline' ds') where
  isInline_eq := isInline_congr hinline _ _
  find?_eq name _ := by rw [find?_knowing, find?_knowing, h name]
  closed _ _ _ _ := Set.mem_univ _

/-- **Linking does not depend on the order of declarations.** Let two lists of inline types have the same
elements. Two lists of declarations with the same last declaration of every name are linked to the same
under every name. If the names of one list are distinct and the other is a permutation of it, then the
last declarations are the same, and what is said about one list is a permutation of what is said about
the other. -/
theorem linking_ignores_order {inline inline' : List String}
    (hinline : ∀ t, t ∈ inline ↔ t ∈ inline') (ds ds' : List (Declaration Shape)) :
    ((∀ name, Declaration.lastNamed? ds name = Declaration.lastNamed? ds' name) →
      ∃ docs docs', (linkDeclarations inline ds).outcome = .ok docs ∧
        (linkDeclarations inline' ds').outcome = .ok docs' ∧
        ∀ name, Catalogue.find? name docs = Catalogue.find? name docs') ∧
    ((ds.map Declaration.name).Nodup → ds.Perm ds' →
      (∀ name, Declaration.lastNamed? ds name = Declaration.lastNamed? ds' name) ∧
        (linkDeclarations inline ds).diagnostics.Perm
          (linkDeclarations inline' ds').diagnostics) := by
  constructor
  · intro hlast
    refine ⟨_, _, outcome_linkDeclarations inline ds, outcome_linkDeclarations inline' ds', ?_⟩
    intro name
    have hagree := Resolver.agreeOn_of_lastNamed? hinline hlast
    rw [find?_linkedDocs, find?_linkedDocs, hlast name]
    congr 1
    funext d
    exact hagree.map_eq fun _ _ _ _ => Set.mem_univ _
  · intro hnodup hperm
    refine ⟨Declaration.lastNamed?_of_perm hnodup hperm, ?_⟩
    have hnodup' : (ds'.map Declaration.name).Nodup :=
      (hperm.map Declaration.name).nodup_iff.1 hnodup
    have hloose : Declaration.looseLeaves inline (ds.map Declaration.name) =
        Declaration.looseLeaves inline' (ds'.map Declaration.name) := by
      funext d
      exact d.looseLeaves_congr hinline fun n => (hperm.map Declaration.name).mem_iff
    rw [diagnostics_linkDeclarations, diagnostics_linkDeclarations, repeatedNames, repeatedNames,
      repeatedAfter_of_nodup hnodup, repeatedAfter_of_nodup hnodup',
      unresolvedLeaves_of_nodup inline hnodup, unresolvedLeaves_of_nodup inline' hnodup', hloose]
    exact ((hperm.flatMap_right _).map _).append_left _

/-- An interface that refers forward to an alias of an alias, to a cycle, and to a name that is not
declared, with the cycle and the aliases behind it. -/
def forwardReferences : List (Declaration Shape) :=
  [.interface "C" [⟨"p", .beside (.leaf "A") (.leaf "X"), false, none, none, none⟩,
      ⟨"q", .array (.leaf "Lost"), true, none, none, none⟩] none none,
    .typeAlias "X" (.leaf "Y") none none, .typeAlias "A" (.leaf "B") none none,
    .typeAlias "Y" (.beside (.leaf "X") (.leaf "Gone")) none none,
    .typeAlias "B" (.leaf "string") none none]

/-- Backwards, the forward references are linked to the same, and the two messages change places. -/
theorem linking_ignores_order_forwardReferences :
    (∃ docs docs', (linkDeclarations ["string", "any"] forwardReferences).outcome = .ok docs ∧
      (linkDeclarations ["any", "string", "any"] forwardReferences.reverse).outcome = .ok docs' ∧
      Catalogue.find? "C" docs = Catalogue.find? "C" docs' ∧
      Catalogue.find? "C" docs =
        some (.interface "C" [⟨"p", [.text "string | ", .link "X"], false, none, none, none⟩,
          ⟨"q", [.text "Lost[]"], true, none, none, none⟩] none none)) ∧
      (linkDeclarations ["string", "any"] forwardReferences).diagnostics =
        [.unresolved "C.q" "Lost", .unresolved "Y" "Gone"] ∧
      (linkDeclarations ["string", "any"] forwardReferences).diagnostics.Perm
        (linkDeclarations ["any", "string", "any"] forwardReferences.reverse).diagnostics := by
  have hinline : ∀ t, t ∈ ["string", "any"] ↔ t ∈ ["any", "string", "any"] := by simp [or_comm]
  obtain ⟨hdocs, hdiagnostics⟩ :=
    linking_ignores_order hinline forwardReferences forwardReferences.reverse
  obtain ⟨hlast, hperm⟩ := hdiagnostics (by decide) (List.reverse_perm _).symm
  obtain ⟨docs, docs', hok, hok', hsame⟩ := hdocs hlast
  obtain rfl : linkedDocs ["string", "any"] forwardReferences = docs :=
    Except.ok.inj ((outcome_linkDeclarations _ _).symm.trans hok)
  exact ⟨⟨_, docs', hok, hok', hsame "C", by decide +kernel⟩, by decide +kernel, hperm⟩

end TypeAtlas
