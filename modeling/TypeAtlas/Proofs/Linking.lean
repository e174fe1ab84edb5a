import Mathlib.Data.List.Forall2
import Mathlib.Data.List.Induction
import TypeAtlas.Proofs.AliasChain
import TypeAtlas.Proofs.LinkedForm

/-! # What linking gives and says

`linkDeclarations` files declarations with `Resolver.collect` and links what is filed with
`Resolver.linkEntries`. Here its result and its messages are said by the list of declarations alone.

* `Declaration.lastNamed?`: the last declaration of a name.
* `repeatedNames`: the names that are declared again, in order.
* `unresolvedLeaves`: the leaves that name nothing, each with its owner, in the order of the result.
* `Resolver.Becomes`: what a leaf becomes; `Resolver.Fills`: leaves between the parts of a template.
* `Resolver.LinksTo`: a declaration and its linked form, which differ in their shapes only.

`Declaration.index` has the distinct names as keys (`Declaration.keys_index`) and the last declaration of
a name as its value (`Declaration.find?_index`), so an overwritten declaration has no part in anything but
the report that its name was repeated. Main statement: `linkDeclarations_exact`. -/

namespace TypeAtlas

/-! ## Catalogues as lists -/

namespace Catalogue

variable {κ α : Type} [DecidableEq κ]

/-- Filing keeps the keys distinct. -/
theorem nodup_keys_insert {c : Catalogue κ α} (h : (c.map Prod.fst).Nodup) (k : κ) (a : α) :
    ((insert k a c).map Prod.fst).Nodup := by
  rw [keys_insert]
  split
  · exact h
  · rename_i hk
    refine List.nodup_append.2 ⟨h, by simp, ?_⟩
    intro k' hk' b hb
    rw [List.mem_singleton.1 hb]
    exact fun e => hk (e ▸ hk')

/-- What is filed under distinct keys is found under its key. -/
theorem find?_of_mem {c : Catalogue κ α} (h : (c.map Prod.fst).Nodup) {p : κ × α} (hp : p ∈ c) :
    find? p.1 c = some p.2 := by
  induction c with
  | nil => cases hp
  | cons q c ih =>
    rw [List.map_cons, List.nodup_cons] at h
    rw [find?]
    rcases List.mem_cons.1 hp with rfl | hmem
    · rw [if_pos rfl]
    · have hne : q.1 ≠ p.1 := fun e => h.1 (e ▸ List.mem_map_of_mem hmem)
      rw [if_neg hne, ih h.2 hmem]

/-- A catalogue with distinct keys lists what is found under each of them. -/
theorem flatMap_eq_keys {β : Type} {c : Catalogue κ α} (h : (c.map Prod.fst).Nodup)
    (f : α → List β) :
    (c.flatMap fun p => f p.2) = (c.map Prod.fst).flatMap fun k => (find? k c).toList.flatMap f := by
  rw [List.flatMap_map]
  apply List.flatMap_congr
  intro p hp
  rw [find?_of_mem h hp, Option.toList_some, List.flatMap_singleton]

/-- One pair more is filed behind the others. -/
theorem ofList_concat (ps : List (κ × α)) (p : κ × α) :
    ofList (ps ++ [p]) = insert p.1 p.2 (ofList ps) := by
  rw [ofList, ofList, List.foldl_concat]

/-- The keys of filed pairs stand where they occur first. -/
theorem keys_ofList [BEq κ] [LawfulBEq κ] (ps : List (κ × α)) :
    (ofList ps).map Prod.fst = (ps.map Prod.fst).eraseDups := by
  induction ps using List.reverseRecOn with
  | nil => rfl
  | append_singleton ps p ih =>
    have hnew : ([p.1].removeAll (ps.map Prod.fst)).eraseDups =
        if p.1 ∈ ps.map Prod.fst then [] else [p.1] := by
      by_cases h : p.1 ∈ ps.map Prod.fst
      · rw [if_pos h, List.removeAll, List.filter_cons_of_neg (by simpa using h)]
        rfl
      · rw [if_neg h, List.removeAll, List.filter_cons_of_pos (by simpa using h)]
        rfl
    rw [ofList_concat, keys_insert, ih, List.map_append, List.map_singleton,
      List.eraseDups_append, hnew]
    by_cases h : p.1 ∈ ps.map Prod.fst
    · rw [if_pos h, if_pos (List.mem_eraseDups.2 h), List.append_nil]
    · rw [if_neg h, if_neg (mt List.mem_eraseDups.1 h)]

/-- Filed pairs have distinct keys. -/
theorem nodup_keys_ofList (ps : List (κ × α)) : ((ofList ps).map Prod.fst).Nodup := by
  induction ps using List.reverseRecOn with
  | nil => exact List.nodup_nil
  | append_singleton ps p ih =>
    rw [ofList_concat]
    exact nodup_keys_insert ih p.1 p.2

/-- Under a key stands what was filed last under it. -/
theorem find?_ofList (ps : List (κ × α)) (k : κ) :
    find? k (ofList ps) = (ps.filter fun p => p.1 = k).getLast?.map Prod.snd := by
  induction ps using List.reverseRecOn with
  | nil => rfl
  | append_singleton ps p ih =>
    rw [ofList_concat, List.filter_append, List.getLast?_append]
    by_cases h : p.1 = k
    · rw [← h, find?_insert_self]
      simp
    · rw [find?_insert_of_ne (Ne.symm h), ih]
      simp [h]

end Catalogue

/-! ## The index of declarations -/

namespace Declaration

variable {σ : Type}

/-- The last declaration of a name. -/
def lastNamed? (ds : List (Declaration σ)) (name : String) : Option (Declaration σ) :=
  (ds.filter fun d => d.name = name).getLast?

/-- The last declaration of a name has that name. -/
theorem name_of_lastNamed? {ds : List (Declaration σ)} {n : String} {d : Declaration σ}
    (h : lastNamed? ds n = some d) : d.name = n := by
  have hmem := List.mem_of_getLast? h
  simpa using (List.mem_filter.1 hmem).2

/-- One declaration more is the last one of its name. -/
theorem lastNamed?_concat (ds : List (Declaration σ)) (d : Declaration σ) (name : String) :
    lastNamed? (ds ++ [d]) name = if d.name = name then some d else lastNamed? ds name := by
  rw [lastNamed?, List.filter_append, List.getLast?_append]
  by_cases h : d.name = name
  · simp [h]
  · simp [h, lastNamed?]

/-- One declaration more is filed into the index. -/
theorem index_concat (ds : List (Declaration σ)) (d : Declaration σ) :
    index (ds ++ [d]) = Catalogue.insert d.name d (index ds) := by
  rw [index_eq_foldl, index_eq_foldl, List.foldl_concat]

/-- The keys of the index are the names, each where it occurs first. -/
theorem keys_index (ds : List (Declaration σ)) :
    (index ds).map Prod.fst = (ds.map name).eraseDups := by
  rw [index, Catalogue.keys_ofList, List.map_map]
  rfl

/-- The index has distinct keys. -/
theorem nodup_keys_index (ds : List (Declaration σ)) : ((index ds).map Prod.fst).Nodup :=
  Catalogue.nodup_keys_ofList _

/-- Under a name the index has the last declaration of that name. -/
theorem find?_index (ds : List (Declaration σ)) (name : String) :
    Catalogue.find? name (index ds) = lastNamed? ds name := by
  rw [index, Catalogue.find?_ofList, List.filter_map, List.getLast?_map, Option.map_map]
  exact Option.map_id'

/-- The index has something under a name exactly when that name is declared. -/
theorem has_index_iff {ds : List (Declaration σ)} {n : String} :
    Catalogue.has n (index ds) = true ↔ n ∈ ds.map name := by
  rw [Catalogue.has_iff_mem_keys, keys_index, List.mem_eraseDups]

end Declaration

/-! ## What is said -/

/-- The names that occur in `before` or earlier among `names`, one for each such occurrence, in
order. -/
def repeatedAfter (before names : List String) : List String :=
  (names.zipIdx.filter fun p => p.1 ∈ before ++ names.take p.2).map Prod.fst

/-- The names that occur earlier, one for each such occurrence, in order. -/
def repeatedNames (names : List String) : List String := repeatedAfter [] names

/-- A name is repeated when it occurs before, and from then on it is one of those before. -/
theorem repeatedAfter_cons (before : List String) (n : String) (names : List String) :
    repeatedAfter before (n :: names) =
      (if n ∈ before then [n] else []) ++ repeatedAfter (before ++ [n]) names := by
  have hrest : ((names.zipIdx.map (Prod.map id (· + 1))).filter fun p =>
      p.1 ∈ before ++ (n :: names).take p.2).map Prod.fst =
        repeatedAfter (before ++ [n]) names := by
    rw [repeatedAfter, List.filter_map, List.map_map]
    simp [Function.comp_def]
  rw [repeatedAfter, List.zipIdx_cons', List.filter_cons, ← hrest]
  by_cases h : n ∈ before
  · simp [h]
  · simp [h]

namespace Resolver

/-- Collecting behind what is filed already reports every repeated name. -/
theorem diagnostics_collect (before ds : List (Declaration Shape)) :
    (collect (declared (Declaration.index before)) (ds.map .declaration)).diagnostics =
      (repeatedAfter (before.map Declaration.name) (ds.map Declaration.name)).map .duplicate := by
  -- the declaration that is filed next moves to `before`
  induction ds generalizing before with
  | nil => rfl
  | cons d ds ih =>
    have hinsert : Catalogue.insert (some d.name) (.declaration d)
        (declared (Declaration.index before)) = declared (Declaration.index (before ++ [d])) := by
      rw [Declaration.index_concat]
      exact Catalogue.insert_map (fun _ _ => Option.some.inj) Candidate.declaration d.name d _
    have hrest := ih (before ++ [d])
    rw [List.map_append, List.map_singleton] at hrest
    rw [List.map_cons, collect, List.map_cons, repeatedAfter_cons, List.map_append, ← hrest]
    simp only [Candidate.key?, hinsert, has_declared]
    by_cases h : d.name ∈ before.map Declaration.name
    · rw [if_pos h, if_pos (Declaration.has_index_iff.2 h)]
      rfl
    · rw [if_neg h, if_neg (mt Declaration.has_index_iff.1 h)]
      rfl

end Resolver

/-- The leaves of the types in a declaration that are neither inline nor among `names`, each with the
owner of its type. -/
def Declaration.looseLeaves (inline names : List String) (d : Declaration Shape) :
    List (String × String) :=
  d.ownedShapes.flatMap fun o =>
    (o.2.leaves.filter fun leaf =>
      leaf ∉ inline ∧ isQuotedLiteral leaf = false ∧ leaf ∉ names).map fun leaf => (o.1, leaf)

/-- The leaves that are neither inline nor declared, each with the owner of its type. They stand in the
order of the names, then of the shapes in the last declaration of a name, then of the leaves in a
shape. -/
def unresolvedLeaves (inline : List String) (ds : List (Declaration Shape)) :
    List (String × String) :=
  (ds.map Declaration.name).eraseDups.flatMap fun name =>
    (Declaration.lastNamed? ds name).toList.flatMap
      (Declaration.looseLeaves inline (ds.map Declaration.name))

namespace Resolver

/-- A leaf is loose, by the declarations themselves, when it is neither inline nor among their names. -/
theorem isLoose_knowing {inline : List String} {ds : List (Declaration Shape)} {leaf : String} :
    (knowing inline ds).IsLoose leaf ↔
      leaf ∉ inline ∧ isQuotedLiteral leaf = false ∧ leaf ∉ ds.map Declaration.name := by
  rw [IsLoose, ← Bool.not_eq_true (Catalogue.has _ _), knowing, has_declared, Declaration.has_index_iff]

/-- What is said about a declaration are its loose leaves. -/
theorem declarationEvents_knowing (inline : List String) (ds : List (Declaration Shape))
    (d : Declaration Shape) :
    (knowing inline ds).declarationEvents d =
      (d.looseLeaves inline (ds.map Declaration.name)).map fun p =>
        .diagnostic (.unresolved p.1 p.2) := by
  rw [declarationEvents, Declaration.looseLeaves, List.map_flatMap]
  apply List.flatMap_congr
  intro o _
  rw [flatMap_leafEvents, List.map_map, List.map_map]
  simp only [isLoose_knowing]
  rfl

end Resolver

/-- The diagnostics of a note and of nothing but diagnostics behind it. -/
theorem Report.diagnostics_note_append {ε α : Type} (es : List Event) (stage : Stage)
    (text : String) (ds : List Diagnostic) (o : Except ε α) :
    (⟨es ++ .note stage text :: ds.map .diagnostic, o⟩ : Report ε α).diagnostics =
      (⟨es, o⟩ : Report ε α).diagnostics ++ ds := by
  rw [diagnostics, List.filterMap_append, List.filterMap_cons_none rfl, List.filterMap_map]
  exact congrArg (_ ++ ·) List.filterMap_some

/-- **What linking says**: the repeated names, then the unresolved leaves. -/
theorem diagnostics_linkDeclarations (inline : List String) (ds : List (Declaration Shape)) :
    (linkDeclarations inline ds).diagnostics =
      (repeatedNames (ds.map Declaration.name)).map .duplicate ++
        (unresolvedLeaves inline ds).map fun p => .unresolved p.1 p.2 := by
  have hentries : ((Declaration.index ds).flatMap fun p =>
      (Resolver.knowing inline ds).declarationEvents p.2) =
        ((unresolvedLeaves inline ds).map fun p => .unresolved p.1 p.2).map .diagnostic := by
    rw [Catalogue.flatMap_eq_keys (Declaration.nodup_keys_index ds), Declaration.keys_index,
      unresolvedLeaves, List.map_map, List.map_flatMap]
    simp only [Declaration.find?_index, List.map_flatMap,
      funext (Resolver.declarationEvents_knowing inline ds)]
    rfl
  rw [linkDeclarations, Report.diagnostics_mapError, Resolver.link, Resolver.resolve_declarations]
  dsimp only
  rw [hentries, Report.diagnostics_note_append]
  exact congrArg (· ++ _) (Resolver.diagnostics_collect [] ds)

/-! ## What is given -/

namespace Resolver

/-- Under a name `knowing` has the last declaration of that name. -/
theorem find?_knowing (inline : List String) (ds : List (Declaration Shape)) (name : String) :
    Catalogue.find? (some name) (knowing inline ds).known =
      (Declaration.lastNamed? ds name).map .declaration := by
  rw [knowing, find?_declared, Declaration.find?_index]

/-- What a leaf becomes, by what is inline and what is known. -/
inductive Becomes (r : Resolver) (leaf : String) : Segment → Prop
  /-- An inline leaf stays text. -/
  | inline (hinline : r.isInline leaf = true) : Becomes r leaf (.text leaf)
  /-- An alias that leads to an inline leaf becomes that leaf. -/
  | inlined {via : List String} {text : String} (hinline : r.isInline leaf = false)
      (hchain : r.AliasChain leaf via text) : Becomes r leaf (.text text)
  /-- Any other declared leaf becomes a link. -/
  | linked (hinline : r.isInline leaf = false) (hchain : ∀ via text, ¬ r.AliasChain leaf via text)
      (hknown : Catalogue.has (some leaf) r.known = true) : Becomes r leaf (.link leaf)
  /-- A leaf that names nothing stays text. -/
  | loose (hloose : r.IsLoose leaf) : Becomes r leaf (.text leaf)

/-- The parts of a template with what the leaves become between them, segment by segment. -/
inductive Fills (r : Resolver) : List String → List String → List Segment → Prop
  /-- Behind the last leaf stands the last part. -/
  | last (part : String) : Fills r [] [part] [.text part]
  /-- A leaf stands behind the part before it. -/
  | behind {leaf : String} {leaves parts : List String} {s : Segment} {ss : List Segment}
      (part : String) (hleaf : r.Becomes leaf s) (hrest : Fills r leaves parts ss) :
      Fills r (leaf :: leaves) (part :: parts) (.text part :: s :: ss)

/-- A shape and its linked form: the leaves between the parts are resolved, and texts side by side are
joined. -/
def LinksShape (r : Resolver) (s : Shape) (linked : LinkedShape) : Prop :=
  ∃ ss, r.Fills s.leaves s.parts ss ∧ linked = LinkedShape.join ss

/-- A property and its linked form: the shape is linked, all else is the same. -/
inductive LinksProperty (r : Resolver) : Property Shape → Property LinkedShape → Prop
  /-- The shape is linked. -/
  | linked {shape : Shape} {linkedShape : LinkedShape} (name : String) (optional : Bool)
      (description defaultText exampleText : Option String) (h : r.LinksShape shape linkedShape) :
      LinksProperty r ⟨name, shape, optional, description, defaultText, exampleText⟩
        ⟨name, linkedShape, optional, description, defaultText, exampleText⟩

/-- A declaration and its linked form: the shapes are linked, all else is the same. -/
inductive LinksTo (r : Resolver) : Declaration Shape → Declaration LinkedShape → Prop
  /-- The properties of an interface are linked one by one. -/
  | interface {ps : List (Property Shape)} {qs : List (Property LinkedShape)} (name : String)
      (description exampleText : Option String) (h : List.Forall₂ r.LinksProperty ps qs) :
      LinksTo r (.interface name ps description exampleText)
        (.interface name qs description exampleText)
  /-- The shape of an alias is linked. -/
  | typeAlias {shape : Shape} {linkedShape : LinkedShape} (name : String)
      (description exampleText : Option String) (h : r.LinksShape shape linkedShape) :
      LinksTo r (.typeAlias name shape description exampleText)
        (.typeAlias name linkedShape description exampleText)

/-- A leaf becomes its `segment`. -/
theorem becomes_segment (r : Resolver) (leaf : String) : r.Becomes leaf (r.segment leaf) := by
  rw [segment]
  by_cases hinline : r.isInline leaf = true
  · rw [if_pos hinline]
    exact .inline hinline
  rw [if_neg hinline]
  have hnot : r.isInline leaf = false := by simpa using hinline
  cases htext : r.inlineText? leaf with
  | some text =>
    obtain ⟨via, hchain⟩ := inlineText?_eq_some_iff.1 htext
    exact .inlined hnot hchain
  | none =>
    have hchain : ∀ via text, ¬ r.AliasChain leaf via text := by
      intro via text h
      cases htext.symm.trans (inlineText?_eq_some_iff.2 ⟨via, h⟩)
    by_cases hknown : Catalogue.has (some leaf) r.known = true
    · simp only [hknown, if_true]
      exact .linked hnot hchain hknown
    · simp only [hknown, if_false, Bool.false_eq_true]
      exact .loose (by simpa [IsLoose, isInline, hknown, and_assoc] using hnot)

/-- Leaves and the parts around them are filled with the segments of the leaves. -/
theorem fills_segments (r : Resolver) (first : String) {leaves after : List String}
    (h : leaves.length = after.length) :
    r.Fills leaves (first :: after)
      (.text first :: (leaves.zip after).flatMap fun p => [r.segment p.1, .text p.2]) := by
  -- each leaf takes the part before it along
  induction leaves generalizing first after with
  | nil =>
    obtain rfl := List.eq_nil_of_length_eq_zero h.symm
    exact .last first
  | cons leaf leaves ih =>
    obtain ⟨next, after, rfl⟩ := List.exists_cons_of_length_eq_add_one h.symm
    exact .behind first (r.becomes_segment leaf) (ih next (Nat.succ.inj h))

/-- The linked form of a shape is `linkedShape`. -/
theorem linksShape_linkedShape (r : Resolver) (s : Shape) : r.LinksShape s (r.linkedShape s) := by
  refine ⟨_, ?_, rfl⟩
  have hparts : s.parts = String.ofList (Template.cut s.template.toList).1 ::
      (Template.cut s.template.toList).2.map String.ofList := List.map_cons
  rw [hparts]
  exact r.fills_segments _ (length_leaves_eq_cut s)

/-- Linking the shape of a property gives its linked form. -/
theorem linksProperty_map (r : Resolver) (p : Property Shape) :
    r.LinksProperty p (p.map r.linkedShape) :=
  .linked p.name p.optional p.description p.defaultText p.exampleText
    (r.linksShape_linkedShape p.shape)

/-- Linking the shapes of a declaration gives its linked form. -/
theorem linksTo_map (r : Resolver) (d : Declaration Shape) : r.LinksTo d (d.map r.linkedShape) := by
  cases d with
  | interface name ps description exampleText =>
    refine .interface name description exampleText ?_
    rw [List.forall₂_map_right_iff, List.forall₂_same]
    intro p _
    exact r.linksProperty_map p
  | typeAlias name shape description exampleText =>
    exact .typeAlias name description exampleText (r.linksShape_linkedShape shape)

end Resolver

/-- **Linking is what it should be, exactly.** `linkDeclarations` always has a result. Its keys are the
declared names, each where it occurs first. Under a name stands the linked form of the last declaration
of that name, and all references in it are resolved against the last declarations (`Resolver.knowing`,
`Resolver.find?_knowing`): a leaf is text if it is inline, the inline leaf at the end of a chain of
aliases if there is one, else a link if it is declared, and else text (`Resolver.Becomes`). What is said
is one message for each repeated name, and then one for each leaf that is neither inline nor
declared. -/
theorem linkDeclarations_exact (inline : List String) (ds : List (Declaration Shape)) :
    ∃ docs, (linkDeclarations inline ds).outcome = .ok docs ∧
      docs.map Prod.fst = (ds.map Declaration.name).eraseDups ∧
      (∀ p ∈ docs, ∃ d, Declaration.lastNamed? ds p.1 = some d ∧
        (Resolver.knowing inline ds).LinksTo d p.2) ∧
      (linkDeclarations inline ds).messages =
        (repeatedNames (ds.map Declaration.name)).map
            (fun name => "Duplicate declaration " ++ name ++ ", keeping the last one") ++
          (unresolvedLeaves inline ds).map
            fun p => "Could not resolve type link for " ++ p.1 ++ ": " ++ p.2 := by
  refine ⟨linkedDocs inline ds, outcome_linkDeclarations inline ds, ?_, ?_, ?_⟩
  · rw [linkedDocs, List.map_map]
    exact Declaration.keys_index ds
  · intro p hp
    obtain ⟨q, hq, rfl⟩ := List.mem_map.1 hp
    refine ⟨q.2, ?_, Resolver.linksTo_map _ q.2⟩
    rw [← Declaration.find?_index]
    exact Catalogue.find?_of_mem (Declaration.nodup_keys_index ds) hq
  · rw [Report.messages, diagnostics_linkDeclarations, List.map_append, List.map_map, List.map_map]
    rfl

/-- Declarations of which some are overwritten. `Id` was an array and is an alias of an inline type at
last; `A` was an interface, then an alias of an inline type, and is an array at last. The type of `C.q`
refers to both, and twice to a name that is not declared. -/
def overwritten : List (Declaration Shape) :=
  [.typeAlias "Id" (.array (.leaf "string")) none none,
    .interface "A" [⟨"p", .leaf "Lost", false, none, none, none⟩] none none,
    .interface "C" [⟨"q", .beside (.leaf "X") (.beside (.leaf "Id") (.beside (.leaf "A") (.leaf "X"))),
      true, some "Two.", some "1", none⟩] none none,
    .typeAlias "A" (.leaf "string") none none,
    .typeAlias "A" (.array (.leaf "Y")) none (some "[]"),
    .typeAlias "Id" (.leaf "string") none none]

/-- The overwritten declarations leave their first place and nothing else: the reference to `Id` is
inlined, the one to `A` is a link, and each loose leaf is reported. -/
theorem linkDeclarations_exact_overwritten :
    ∃ docs, (linkDeclarations defaultInlineTypes overwritten).outcome = .ok docs ∧
      docs =
        [("Id", .typeAlias "Id" [.text "string"] none none),
          ("A", .typeAlias "A" [.text "Y[]"] none (some "[]")),
          ("C", .interface "C" [⟨"q", [.text "X | string | ", .link "A", .text " | X"], true,
            some "Two.", some "1", none⟩] none none)] ∧
      docs.map Prod.fst = (overwritten.map Declaration.name).eraseDups ∧
      (∀ p ∈ docs, ∃ d, Declaration.lastNamed? overwritten p.1 = some d ∧
        (Resolver.knowing defaultInlineTypes overwritten).LinksTo d p.2) ∧
      (linkDeclarations defaultInlineTypes overwritten).messages =
        ["Duplicate declaration A, keeping the last one",
          "Duplicate declaration A, keeping the last one",
          "Duplicate declaration Id, keeping the last one",
          "Could not resolve type link for A: Y", "Could not resolve type link for C.q: X",
          "Could not resolve type link for C.q: X"] := by
  obtain ⟨docs, hdocs, hkeys, hvalues, hmessages⟩ :=
    linkDeclarations_exact defaultInlineTypes overwritten
  refine ⟨docs, hdocs, ?_, hkeys, hvalues, hmessages.trans (by decide +kernel)⟩
  -- the run itself is evaluated, not its closed form
  exact Except.ok.inj (hdocs.symm.trans (by decide +kernel))

end TypeAtlas
