import TypeAtlas.Proofs.Linking

/-! # Sessions with a resolver

A `Resolver` is called again and again, to resolve candidates (`Resolver.resolve`) or to link a shape
(`Resolver.linkShape`). Candidates may hold
statements that are no declarations, so that a call may fail: while the candidates are filed, if one of
them has no place for a name, or while they are linked, if one that is left in the end is no
declaration. Filing comes first and linking changes nothing, so the first failure leaves the resolver as
it was, and the second one leaves it with the new candidates.

* `Resolver.Call`, `Resolver.Reply`, `Resolver.replies`: a session.
* `Candidate.survivors`: the last candidate of each name, in the order of the names.
* `Resolver.lastFiled?`: the candidates of the last call that could file its candidates.

One call leaves what `Resolver.fst_resolve_of_named` and `Resolver.fst_resolve_of_unnamed` say, a session
what `Resolver.after_eq` says. Main statement: `Resolver.sessions_forget_history`. -/

namespace TypeAtlas

/-! ## What is left of filed values -/

namespace Catalogue

variable {κ α : Type} [DecidableEq κ]

/-- The values under distinct keys are what is found under them, key by key. -/
theorem values_eq_keys {c : Catalogue κ α} (h : (c.map Prod.fst).Nodup) :
    c.map Prod.snd = (c.map Prod.fst).filterMap fun k => find? k c := by
  rw [List.filterMap_map, ← List.filterMap_eq_map]
  apply List.filterMap_congr
  intro p hp
  rw [Function.comp_apply, Function.comp_apply, find?_of_mem h hp]

end Catalogue

namespace Candidate

/-- Candidates with their keys; those without a place for a name are left out. -/
def keyed (cs : List Candidate) : List (Option String × Candidate) :=
  cs.filterMap fun c => c.key?.map fun key => (key, c)

/-- The last candidate of a key. -/
def lastKeyed? (cs : List Candidate) (key : Option String) : Option Candidate :=
  (cs.filter fun c => c.key? = some key).getLast?

/-- The last candidate of each key, in the order in which the keys occur first. -/
def survivors (cs : List Candidate) : List Candidate :=
  (cs.filterMap key?).eraseDups.filterMap (lastKeyed? cs)

/-- The statement that a candidate is in place of a declaration. -/
def unsupported? : Candidate → Option Unsupported
  | .unsupported u => some u
  | _ => none

/-- The keys of candidates. -/
theorem map_fst_keyed (cs : List Candidate) : (keyed cs).map Prod.fst = cs.filterMap key? := by
  rw [keyed, List.map_filterMap]
  simp only [Option.map_map, Function.comp_def, Option.map_id']

/-- The candidates under a key. -/
theorem map_snd_filter_keyed (cs : List Candidate) (key : Option String) :
    ((keyed cs).filter fun p => p.1 = key).map Prod.snd = cs.filter fun c => c.key? = some key := by
  induction cs with
  | nil => rfl
  | cons c cs ih =>
    rw [keyed, List.filterMap_cons, List.filter_cons, ← ih, ← keyed]
    cases hkey : c.key? with
    | none => simp
    | some k =>
      by_cases h : k = key
      · simp [h]
      · simp [h]

/-- Under a key the last candidate of that key is filed. -/
theorem find?_keyed (cs : List Candidate) (key : Option String) :
    Catalogue.find? key (Catalogue.ofList (keyed cs)) = lastKeyed? cs key := by
  rw [Catalogue.find?_ofList, ← List.getLast?_map, map_snd_filter_keyed, lastKeyed?]

/-- What is filed in the end are the survivors. -/
theorem values_keyed (cs : List Candidate) :
    (Catalogue.ofList (keyed cs)).map Prod.snd = survivors cs := by
  rw [Catalogue.values_eq_keys (Catalogue.nodup_keys_ofList _), Catalogue.keys_ofList,
    map_fst_keyed, survivors, funext (find?_keyed cs)]

/-- Every survivor has a place for a name. -/
theorem key?_of_mem_survivors {cs : List Candidate} {c : Candidate} (h : c ∈ survivors cs) :
    c.key? ≠ none := by
  obtain ⟨key, -, hlast⟩ := List.mem_filterMap.1 h
  have hkey := (List.mem_filter.1 (List.mem_of_getLast? hlast)).2
  simp only [decide_eq_true_eq] at hkey
  rw [hkey]
  exact Option.some_ne_none key

end Candidate

namespace Resolver

/-! ## Filing and linking -/

section Filing

variable {cs : List Candidate}

/-- Candidates that all have a place for a name are filed under their keys. -/
theorem outcome_collect_of_named (h : ∀ c ∈ cs, c.key? ≠ none)
    (known : Catalogue (Option String) Candidate) :
    (collect known cs).outcome =
      .ok ((Candidate.keyed cs).foldl (fun c p => Catalogue.insert p.1 p.2 c) known) := by
  induction cs generalizing known with
  | nil => rfl
  | cons c cs ih =>
    obtain ⟨hc, hcs⟩ := List.forall_mem_cons.1 h
    obtain ⟨key, hkey⟩ := Option.ne_none_iff_exists'.1 hc
    have hkeyed : Candidate.keyed (c :: cs) = (key, c) :: Candidate.keyed cs :=
      List.filterMap_cons_some (by rw [hkey, Option.map_some])
    rw [hkeyed, List.foldl_cons, ← ih hcs, collect]
    simp only [hkey]
    split <;> rfl

/-- A candidate without a place for a name ends the filing, wherever it stands. -/
theorem outcome_collect_of_unnamed (h : ∃ c ∈ cs, c.key? = none)
    (known : Catalogue (Option String) Candidate) :
    (collect known cs).outcome = .error .unnamed := by
  induction cs generalizing known with
  | nil =>
    obtain ⟨c, hc, -⟩ := h
    cases hc
  | cons c cs ih =>
    rw [collect]
    cases hkey : c.key? with
    | none => rfl
    | some key =>
      have hrest : ∃ d ∈ cs, d.key? = none := by
        obtain ⟨d, hd, hnone⟩ := h
        rcases List.mem_cons.1 hd with rfl | hmem
        · rw [hkey] at hnone
          cases hnone
        · exact ⟨d, hmem, hnone⟩
      have htail := ih hrest (Catalogue.insert key c known)
      dsimp only
      split <;> exact htail

/-- The entries of a catalogue are linked unless one is no declaration; the first of these is
reported. -/
theorem outcome_linkEntries_eq_error_iff {r : Resolver} {c : Catalogue (Option String) Candidate}
    (h : ∀ d ∈ c.map Prod.snd, d.key? ≠ none) {e : LinkFault} :
    (r.linkEntries c).outcome = .error e ↔
      ∃ u, (c.map Prod.snd).findSome? Candidate.unsupported? = some u ∧ e = .unsupported u := by
  induction c with
  | nil =>
    constructor
    · intro he
      cases he
    · rintro ⟨u, hu, -⟩
      cases hu
  | cons p c ih =>
    obtain ⟨key, d⟩ := p
    rw [List.map_cons, List.forall_mem_cons] at h
    cases d with
    | declaration d =>
      -- linked declarations before the first failure do not show in it
      rw [List.map_cons, List.findSome?_cons_of_isNone rfl, ← ih h.2, linkEntries,
        linkDeclaration_eq]
      cases hrest : (r.linkEntries c).outcome with
      | ok docs => simp [Report.andThen, hrest]
      | error e' => simp [Report.andThen, hrest]
    | unsupported u =>
      rw [List.map_cons, List.findSome?_cons_of_isSome rfl, linkEntries]
      constructor
      · intro he
        exact ⟨u, rfl, (Except.error.inj he).symm⟩
      · rintro ⟨u', hu, rfl⟩
        cases hu
        rfl
    | importing text => exact absurd rfl h.1

end Filing

/-! ## One call -/

section Resolve

variable {cs : List Candidate} (r : Resolver)

/-- A resolver keeps its inline types. -/
theorem inline_resolve (cs : List Candidate) : (r.resolve cs).1.inline = r.inline := by
  rw [resolve]
  dsimp only
  split <;> rfl

/-- What resolving gives and says does not depend on what was known. -/
theorem snd_resolve (cs : List Candidate) : (r.resolve cs).2 = link r.inline cs := by
  rw [link, resolve, resolve]
  dsimp only
  split <;> rfl

/-- When a candidate has no place for a name, the resolver stays as it was. -/
theorem fst_resolve_of_unnamed (h : ∃ c ∈ cs, c.key? = none) : (r.resolve cs).1 = r := by
  rw [resolve]
  simp only [outcome_collect_of_unnamed h []]

/-- When all candidates have a place for a name, the resolver knows the last one of each, and nothing
else. -/
theorem fst_resolve_of_named (h : ∀ c ∈ cs, c.key? ≠ none) :
    (r.resolve cs).1 = ⟨r.inline, Catalogue.ofList (Candidate.keyed cs)⟩ := by
  rw [resolve]
  simp only [outcome_collect_of_named h []]
  rfl

/-- When all candidates have a place for a name, the outcome is that of linking what was filed. -/
theorem outcome_resolve_of_named (h : ∀ c ∈ cs, c.key? ≠ none) :
    (r.resolve cs).2.outcome =
      (linkEntries ⟨r.inline, Catalogue.ofList (Candidate.keyed cs)⟩
        (Catalogue.ofList (Candidate.keyed cs))).outcome := by
  have hcollect := outcome_collect_of_named h []
  rw [resolve]
  simp only [hcollect]
  rw [Report.outcome_andThen hcollect]
  rfl

/-- Resolving fails for want of a name exactly when a candidate has no place for one. -/
theorem outcome_resolve_eq_unnamed_iff :
    (r.resolve cs).2.outcome = .error .unnamed ↔ ∃ c ∈ cs, c.key? = none := by
  constructor
  · intro hfail
    by_contra hnone
    have hnamed : ∀ c ∈ cs, c.key? ≠ none := fun c hc hkey => hnone ⟨c, hc, hkey⟩
    rw [outcome_resolve_of_named r hnamed, outcome_linkEntries_eq_error_iff] at hfail
    · obtain ⟨u, -, hu⟩ := hfail
      cases hu
    · rw [Candidate.values_keyed]
      exact fun _ => Candidate.key?_of_mem_survivors
  · intro h
    rw [resolve]
    simp only [outcome_collect_of_unnamed h []]

/-- Resolving fails for want of a declaration exactly when all candidates have a place for a name and one
of the survivors is none; the first such survivor is reported. -/
theorem outcome_resolve_eq_unsupported_iff {u : Unsupported} :
    (r.resolve cs).2.outcome = .error (.unsupported u) ↔
      (∀ c ∈ cs, c.key? ≠ none) ∧
        (Candidate.survivors cs).findSome? Candidate.unsupported? = some u := by
  by_cases hnamed : ∀ c ∈ cs, c.key? ≠ none
  · rw [outcome_resolve_of_named r hnamed, outcome_linkEntries_eq_error_iff,
      Candidate.values_keyed]
    · constructor
      · rintro ⟨u', hu', hsame⟩
        cases hsame
        exact ⟨hnamed, hu'⟩
      · rintro ⟨-, hu⟩
        exact ⟨u, hu, rfl⟩
    · rw [Candidate.values_keyed]
      exact fun _ => Candidate.key?_of_mem_survivors
  · constructor
    · intro hfail
      have hunnamed : ∃ c ∈ cs, c.key? = none := by simpa using hnamed
      rw [(outcome_resolve_eq_unnamed_iff r).2 hunnamed] at hfail
      cases hfail
    · rintro ⟨h, -⟩
      exact absurd h hnamed

end Resolve

/-! ## Sessions -/

/-- A call to a resolver. -/
inductive Call where
  /-- Resolve candidates, which are then known. -/
  | resolve (cs : List Candidate)
  /-- Link a shape of the type of `owner`. -/
  | link (owner : String) (shape : Shape)

/-- What a call gives and says. -/
inductive Reply where
  /-- The linked declarations. -/
  | docs (report : Report LinkFault LinkedDocs)
  /-- The linked shape. -/
  | shape (report : Report LinkFault LinkedShape)

/-- The resolver after a call, and the reply. -/
def call (r : Resolver) : Call → Resolver × Reply
  | .resolve cs => ((r.resolve cs).1, .docs (r.resolve cs).2)
  | .link owner shape => (r, .shape (r.linkShape owner shape))

/-- The resolver after some calls. -/
def after (r : Resolver) (calls : List Call) : Resolver := calls.foldl (fun r c => (r.call c).1) r

/-- The replies to some calls, one after the other. -/
def replies (r : Resolver) : List Call → List Reply
  | [] => []
  | c :: calls => (r.call c).2 :: replies (r.call c).1 calls

/-- A resolver that was never called. -/
def fresh (inline : List String) : Resolver := ⟨inline, []⟩

/-- The candidates of a call that files its candidates: all of them have a place for a name. -/
def Call.filed? : Call → Option (List Candidate)
  | .resolve cs => if cs.all fun c => c.key?.isSome then some cs else none
  | .link .. => none

/-- The candidates of the last call that files its candidates. -/
def lastFiled? (calls : List Call) : Option (List Candidate) :=
  (calls.filterMap Call.filed?).getLast?

/-- The resolver that was called once at most, to resolve what was filed last. -/
def standIn (inline : List String) (calls : List Call) : Resolver :=
  match lastFiled? calls with
  | none => fresh inline
  | some cs => ((fresh inline).resolve cs).1

/-- A call that resolves files its candidates when all of them have a place for a name. -/
theorem Call.filed?_of_named {cs : List Candidate} (h : ∀ c ∈ cs, c.key? ≠ none) :
    (Call.resolve cs).filed? = some cs := by
  rw [filed?, if_pos]
  rw [List.all_eq_true]
  intro c hc
  exact Option.isSome_iff_ne_none.2 (h c hc)

/-- A call that resolves files nothing when a candidate has no place for a name. -/
theorem Call.filed?_of_unnamed {cs : List Candidate} (h : ∃ c ∈ cs, c.key? = none) :
    (Call.resolve cs).filed? = none := by
  obtain ⟨c, hc, hkey⟩ := h
  rw [filed?, if_neg]
  intro hall
  have hsome := List.all_eq_true.1 hall c hc
  rw [hkey] at hsome
  cases hsome

/-- **One call**: a resolver keeps what it knows unless the call files candidates, and then it knows
what a fresh one would know. -/
theorem fst_call (r : Resolver) (c : Call) :
    (r.call c).1 =
      match c.filed? with
      | none => r
      | some cs => ((fresh r.inline).resolve cs).1 := by
  cases c with
  | link owner shape => rfl
  | resolve cs =>
    by_cases hnamed : ∀ c ∈ cs, c.key? ≠ none
    · rw [Call.filed?_of_named hnamed]
      exact (fst_resolve_of_named r hnamed).trans
        (fst_resolve_of_named (fresh r.inline) hnamed).symm
    · have hunnamed : ∃ c ∈ cs, c.key? = none := by simpa using hnamed
      rw [Call.filed?_of_unnamed hunnamed]
      exact fst_resolve_of_unnamed r hunnamed

/-- A resolver keeps its inline types through a call. -/
theorem inline_call (r : Resolver) (c : Call) : (r.call c).1.inline = r.inline := by
  cases c with
  | resolve cs => exact inline_resolve r cs
  | link owner shape => rfl

/-- A resolver keeps its inline types through a session. -/
theorem inline_after (r : Resolver) (calls : List Call) : (r.after calls).inline = r.inline := by
  induction calls generalizing r with
  | nil => rfl
  | cons c calls ih => exact (ih _).trans (inline_call r c)

/-- **A whole session** leaves what the last call that filed its candidates left. -/
theorem after_eq (inline : List String) (calls : List Call) :
    (fresh inline).after calls = standIn inline calls := by
  induction calls using List.reverseRecOn with
  | nil => rfl
  | append_singleton calls c ih =>
    have hinline := inline_after (fresh inline) calls
    rw [after, List.foldl_concat, ← after, fst_call, hinline, standIn, lastFiled?,
      List.filterMap_append, List.getLast?_append]
    cases hfiled : c.filed? with
    | none =>
      rw [List.filterMap_cons_none hfiled]
      exact ih
    | some cs =>
      rw [List.filterMap_cons_some hfiled]
      rfl

/-- Replies to more calls come behind the others. -/
theorem replies_append (r : Resolver) (calls calls' : List Call) :
    r.replies (calls ++ calls') = r.replies calls ++ (r.after calls).replies calls' := by
  induction calls generalizing r with
  | nil => rfl
  | cons c calls ih =>
    rw [List.cons_append, replies, replies, ih, List.cons_append]
    rfl

/-- There is one reply to each call. -/
theorem length_replies (r : Resolver) (calls : List Call) :
    (r.replies calls).length = calls.length := by
  induction calls generalizing r with
  | nil => rfl
  | cons c calls ih => rw [replies, List.length_cons, ih, List.length_cons]

/-- A session around one call: the replies before it, its own, and those of what it leaves. -/
theorem replies_around (inline : List String) (before later : List Call) (c : Call) :
    (fresh inline).replies (before ++ c :: later) =
      (fresh inline).replies before ++ ((standIn inline before).call c).2 ::
        ((standIn inline before).call c).1.replies later := by
  rw [replies_append, after_eq, replies]

/-- The reply to a call in a session is that of the stand-in for what came before. -/
theorem getElem?_replies (inline : List String) (before later : List Call) (c : Call) :
    ((fresh inline).replies (before ++ c :: later))[before.length]? =
      some ((standIn inline before).call c).2 := by
  have hlength := length_replies (fresh inline) before
  rw [replies_around, List.getElem?_append_right (Nat.le_of_eq hlength), hlength, Nat.sub_self,
    List.getElem?_cons_zero]

/-- **A session with a resolver has no memory but for what was filed last.** In any session, whatever
calls come before and later:

* a call to resolve is replied to as by a fresh resolver;
* a call to link a shape is replied to as by a resolver that did nothing but resolve the candidates
  that were filed last;
* resolving fails for want of a name exactly when a candidate has no place for one, and then all other
  replies are as if that call had not been made;
* resolving fails for want of a declaration exactly when all candidates have a place for a name and one
  of the survivors is no declaration, of which the first one is reported;
* whenever all candidates have a place for a name, the resolver knows the last one of each name and
  nothing else from then on, whether they can be linked or not. -/
theorem sessions_forget_history (inline : List String) (before later : List Call) :
    (∀ cs, ((fresh inline).replies (before ++ .resolve cs :: later))[before.length]? =
      some (.docs ((fresh inline).resolve cs).2)) ∧
    (∀ owner shape,
      ((fresh inline).replies (before ++ .link owner shape :: later))[before.length]? =
        some (.shape ((standIn inline before).linkShape owner shape))) ∧
    (∀ cs, (((fresh inline).resolve cs).2.outcome = .error .unnamed ↔ ∃ c ∈ cs, c.key? = none) ∧
      ((∃ c ∈ cs, c.key? = none) →
        ((fresh inline).replies (before ++ .resolve cs :: later)).eraseIdx before.length =
          (fresh inline).replies (before ++ later))) ∧
    (∀ cs, (∀ u, ((fresh inline).resolve cs).2.outcome = .error (.unsupported u) ↔
        (∀ c ∈ cs, c.key? ≠ none) ∧
          (Candidate.survivors cs).findSome? Candidate.unsupported? = some u) ∧
      ((∀ c ∈ cs, c.key? ≠ none) → ∀ key,
        Catalogue.find? key ((fresh inline).after (before ++ [.resolve cs])).known =
          Candidate.lastKeyed? cs key)) := by
  have hinline : (standIn inline before).inline = inline := by
    rw [← after_eq]
    exact inline_after _ before
  refine ⟨?_, ?_, ?_, ?_⟩
  · intro cs
    rw [getElem?_replies, call, snd_resolve, snd_resolve, hinline]
    rfl
  · intro owner shape
    rw [getElem?_replies, call]
  · intro cs
    refine ⟨outcome_resolve_eq_unnamed_iff _, ?_⟩
    intro hunnamed
    have hlength := length_replies (fresh inline) before
    rw [replies_around, call, fst_resolve_of_unnamed _ hunnamed, replies_append, after_eq,
      List.eraseIdx_append_of_length_le (Nat.le_of_eq hlength), hlength, Nat.sub_self]
    rfl
  · intro cs
    refine ⟨fun u => outcome_resolve_eq_unsupported_iff _, ?_⟩
    intro hnamed key
    rw [after, List.foldl_concat, call, fst_resolve_of_named _ hnamed, Candidate.find?_keyed]

/-- An alias that comes down to an inline type. -/
def plainAlias : List Candidate := [.declaration (.typeAlias "Id" (.leaf "string") none none)]

/-- An interface of the same name behind an import. -/
def behindImport : List Candidate :=
  [.importing "import x", .declaration (.interface "Id" [] none none)]

/-- A function that an alias of the same name replaces, and an enumeration named like the plain
alias. -/
def replacedFunction : List Candidate :=
  [.unsupported ⟨"function_declaration", "function f() ", some "f"⟩,
    .unsupported ⟨"enum_declaration", "enum Id ", some "Id"⟩,
    .declaration (.typeAlias "f" (.leaf "Lost") none none)]

/-- Both kinds of failure in one session. The import leaves the plain alias known, and all other replies
are as without that call; the enumeration is known in its place although it is reported. -/
theorem sessions_forget_history_failures :
    ((fresh ["string"]).resolve behindImport).2.outcome = .error .unnamed ∧
      ((fresh ["string"]).replies [.resolve plainAlias, .resolve behindImport,
        .link "o" (.leaf "Id")]).eraseIdx 1 =
          (fresh ["string"]).replies [.resolve plainAlias, .link "o" (.leaf "Id")] ∧
      ((fresh ["string"]).replies [.resolve plainAlias, .resolve behindImport,
        .link "o" (.leaf "Id")])[2]? = some (.shape ⟨[], .ok [.text "string"]⟩) ∧
      ((fresh ["string"]).resolve replacedFunction).2.outcome =
        .error (.unsupported ⟨"enum_declaration", "enum Id ", some "Id"⟩) ∧
      Catalogue.find? (some "f")
        ((fresh ["string"]).after [.resolve plainAlias, .resolve replacedFunction]).known =
          some (.declaration (.typeAlias "f" (.leaf "Lost") none none)) ∧
      ((fresh ["string"]).replies [.resolve plainAlias, .resolve replacedFunction,
        .link "o" (.leaf "Id")])[2]? = some (.shape ⟨[], .ok [.link "Id"]⟩) := by
  obtain ⟨-, -, hunnamed, hnamed⟩ :=
    sessions_forget_history ["string"] [.resolve plainAlias] [.link "o" (.leaf "Id")]
  obtain ⟨-, himport, -, -⟩ :=
    sessions_forget_history ["string"] [.resolve plainAlias, .resolve behindImport] []
  obtain ⟨-, henum, -, -⟩ :=
    sessions_forget_history ["string"] [.resolve plainAlias, .resolve replacedFunction] []
  have hbehind : ∃ c ∈ behindImport, c.key? = none := ⟨_, List.mem_cons_self, rfl⟩
  have hreplaced : ∀ c ∈ replacedFunction, c.key? ≠ none := by decide
  have hkept : ((standIn ["string"] [.resolve plainAlias, .resolve behindImport]).linkShape "o"
      (.leaf "Id") : Report LinkFault LinkedShape) = ⟨[], .ok [.text "string"]⟩ := by
    rw [linkShape_eq]
    congr 1
    decide +kernel
  have hswitched : ((standIn ["string"] [.resolve plainAlias, .resolve replacedFunction]).linkShape
      "o" (.leaf "Id") : Report LinkFault LinkedShape) = ⟨[], .ok [.link "Id"]⟩ := by
    rw [linkShape_eq]
    congr 1
    decide +kernel
  refine ⟨(hunnamed _).1.2 hbehind, (hunnamed _).2 hbehind, ?_, ?_, ?_, ?_⟩
  · rw [← hkept]
    exact himport "o" (.leaf "Id")
  · exact ((hnamed _).1 _).2 ⟨hreplaced, by decide +kernel⟩
  · exact ((hnamed _).2 hreplaced (some "f")).trans (by decide +kernel)
  · rw [← hswitched]
    exact henum "o" (.leaf "Id")

end Resolver

end TypeAtlas
