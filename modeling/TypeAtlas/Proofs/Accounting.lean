import TypeAtlas.Proofs.Extraction
import TypeAtlas.Proofs.LinkedForm

/-! # Accounting for statements

Nothing is left out in silence. What `Declaration.extract` says can be written down statement by
statement, and each message shows by its opening what it is about, so the messages can be counted
against what was there and what was extracted.

* `Diagnostic.opening`: what a message opens with. No opening is the start of another one, so the
  opening tells the cause (`opens_message_iff`).
* `Statement.diagnostics`: what is said about a statement (`Declaration.diagnostics_extract`).
* `Outline`: the kind and the name of a declaration, and of an interface its properties.
* `Accounted`: declarations and messages that account for some statements.

A statement accounts for itself (`Statement.accounted`), and accounts add up (`Accounted.append`). Main
statement: `extraction_accounts_for_everything`. -/

namespace TypeAtlas

/-! ## How messages open -/

/-- Whether a message opens with a text. -/
def opens (opening message : String) : Bool := opening.toList.isPrefixOf message.toList

/-- How many messages open with a text. -/
def countOpening (opening : String) (messages : List String) : Nat :=
  messages.countP (opens opening)

@[simp] theorem countOpening_append (opening : String) (ms ms' : List String) :
    countOpening opening (ms ++ ms') = countOpening opening ms + countOpening opening ms' :=
  List.countP_append

/-- What the message of a diagnostic opens with. -/
def Diagnostic.opening : Diagnostic → String
  | .unexportedInterface _ => "Skipping non-exported "
  | .unexportedAlias _ => "Skipping non-exported "
  | .importIgnored _ => "Importing is not supported yet, ignoring "
  | .unsupportedStatement _ => "Skipping unsupported statement "
  | .skippedMember .. => "Skipping non-property member "
  | .unknownType .. => "Type of "
  | .duplicate _ => "Duplicate declaration "
  | .unresolved .. => "Could not resolve type link for "

/-- The openings of what extraction says. -/
def extractionOpenings : List String :=
  ["Skipping non-exported ", "Importing is not supported yet, ignoring ",
    "Skipping unsupported statement ", "Skipping non-property member ", "Type of "]

/-- The openings of what linking says. -/
def linkingOpenings : List String := ["Duplicate declaration ", "Could not resolve type link for "]

/-- Every diagnostic has one of these openings. -/
theorem Diagnostic.opening_mem (d : Diagnostic) :
    d.opening ∈ extractionOpenings ++ linkingOpenings := by
  cases d <;> simp [opening, extractionOpenings, linkingOpenings]

/-- What starts a text starts it with more behind it. -/
theorem prefix_toList_append {start text : String} (h : start.toList <+: text.toList)
    (more : String) : start.toList <+: (text ++ more).toList := by
  rw [String.toList_append]
  exact h.trans (List.prefix_append _ _)

/-- A message opens as its cause says. -/
theorem Diagnostic.opening_prefix_message (d : Diagnostic) :
    d.opening.toList <+: d.message.toList := by
  have hself : ∀ text more : String, text.toList <+: (text ++ more).toList :=
    fun text => prefix_toList_append (List.prefix_refl _)
  have hinterface : "Skipping non-exported ".toList <+: "Skipping non-exported interface ".toList := by
    decide +kernel
  have htype : "Skipping non-exported ".toList <+: "Skipping non-exported type ".toList := by
    decide +kernel
  cases d with
  | unexportedInterface name => exact prefix_toList_append hinterface name
  | unexportedAlias name => exact prefix_toList_append htype name
  | importIgnored text => exact hself _ text
  | unsupportedStatement u =>
    exact prefix_toList_append (prefix_toList_append (prefix_toList_append (hself _ _) _) _) _
  | skippedMember u owner => exact prefix_toList_append (prefix_toList_append (hself _ _) _) _
  | unknownType owner leaf =>
    exact prefix_toList_append (prefix_toList_append (prefix_toList_append (hself _ _) _) _) _
  | duplicate name => exact prefix_toList_append (hself _ _) _
  | unresolved owner leaf => exact prefix_toList_append (prefix_toList_append (hself _ _) _) _

/-- No opening is the start of another one. -/
theorem openings_prefix_free : ∀ o ∈ extractionOpenings ++ linkingOpenings,
    ∀ o' ∈ extractionOpenings ++ linkingOpenings, o.toList <+: o'.toList → o = o' := by
  decide +kernel

/-- **The opening tells the cause.** A message opens with one of the openings exactly when that is the
one of its diagnostic. -/
theorem opens_message_iff {o : String} (ho : o ∈ extractionOpenings ++ linkingOpenings)
    (d : Diagnostic) : opens o d.message = true ↔ d.opening = o := by
  rw [opens, List.isPrefixOf_iff_prefix]
  constructor
  · intro h
    -- of two starts of one message, one starts the other
    rcases List.prefix_or_prefix_of_prefix h d.opening_prefix_message with hle | hle
    · exact (openings_prefix_free _ ho _ d.opening_mem hle).symm
    · exact openings_prefix_free _ d.opening_mem _ ho hle
  · rintro rfl
    exact d.opening_prefix_message

/-- Messages are counted by their causes. -/
theorem countOpening_message {o : String} (ho : o ∈ extractionOpenings ++ linkingOpenings)
    (ds : List Diagnostic) :
    countOpening o (ds.map Diagnostic.message) = ds.countP fun d => d.opening = o := by
  rw [countOpening, List.countP_map]
  apply List.countP_congr
  intro d _
  rw [Function.comp_apply, opens_message_iff ho, decide_eq_true_eq]

/-! ## What extraction says -/

/-- What is said about the type of `owner`: that it has an unknown leaf, if it has one. -/
def TypeExpr.diagnostics (owner : String) (t : TypeExpr) : List Diagnostic :=
  if t.shape.leaves.contains unknown then [.unknownType owner unknown] else []

/-- What is said about a member of `owner`. -/
def Member.diagnostics (owner : String) : Member → List Diagnostic
  | .property p => p.type.diagnostics (owner ++ "." ++ p.name)
  | .other u => [.skippedMember u owner]

/-- What is said about a statement: that it is left out, or what is said about its types and
members. -/
def Statement.diagnostics : Statement → List Diagnostic
  | .interface name true members _ => members.flatMap (Member.diagnostics name)
  | .interface name false _ _ => [.unexportedInterface name]
  | .typeAlias name true target _ => target.diagnostics name
  | .typeAlias name false _ _ => [.unexportedAlias name]
  | .importing text => [.importIgnored text]
  | .other u => [.unsupportedStatement u]

namespace Declaration

open Report

theorem diagnostics_extractShape {t : TypeExpr} (h : t.WellFormed) (owner : String) :
    (extractShape owner t).diagnostics = t.diagnostics owner := by
  have hcheck : (checkUnknown owner t.shape).diagnostics = t.diagnostics owner := by
    rw [checkUnknown, TypeExpr.diagnostics]
    split <;> rfl
  rw [extractShape, TypeExpr.decompose_of_wellFormed h, bind_eq, diagnostics_andThen rfl, bind_eq,
    diagnostics_andThen (outcome_checkUnknown owner t.shape), hcheck]
  exact List.append_nil _

theorem diagnostics_extractProperty {p : PropertyMember} (h : p.type.WellFormed)
    (owner : String) :
    (extractProperty owner p).diagnostics = p.type.diagnostics (owner ++ "." ++ p.name) := by
  rw [extractProperty, bind_eq, diagnostics_andThen (outcome_extractShape h _),
    diagnostics_extractShape h]
  exact List.append_nil _

theorem diagnostics_extractMembers (owner : String) {ms : List Member}
    (h : ∀ m ∈ ms, m.WellFormed) :
    (extractMembers owner ms).diagnostics = ms.flatMap (Member.diagnostics owner) := by
  induction ms with
  | nil => rfl
  | cons m ms ih =>
    obtain ⟨hm, hms⟩ := List.forall_mem_cons.1 h
    rw [List.flatMap_cons, ← ih hms]
    cases m with
    | other u =>
      rw [extractMembers, bind_eq, diagnostics_andThen rfl]
      rfl
    | property p =>
      rw [extractMembers, bind_eq, diagnostics_andThen (outcome_extractProperty hm owner), bind_eq,
        diagnostics_andThen (outcome_extractMembers owner hms), diagnostics_extractProperty hm]
      -- nothing more is said when the results are put together
      exact congrArg (_ ++ ·) (List.append_nil _)

/-- What is said about a well-formed statement. -/
theorem diagnostics_extractStatement {s : Statement} (h : s.WellFormed) :
    (extractStatement s).diagnostics = s.diagnostics := by
  cases s with
  | interface name exported members comment =>
    cases exported with
    | false => rfl
    | true =>
      have hinterface : (extractInterface name members comment).diagnostics =
          members.flatMap (Member.diagnostics name) := by
        rw [extractInterface, bind_eq, diagnostics_andThen rfl, bind_eq,
          diagnostics_andThen (outcome_extractMembers name h), diagnostics_extractMembers name h]
        exact List.append_nil _
      rw [extractStatement, bind_eq, diagnostics_andThen (outcome_extractInterface name h comment),
        hinterface]
      exact List.append_nil _
  | typeAlias name exported target comment =>
    cases exported with
    | false => rfl
    | true =>
      have halias : (extractAlias name target comment).diagnostics = target.diagnostics name := by
        rw [extractAlias, bind_eq, diagnostics_andThen rfl, bind_eq,
          diagnostics_andThen (outcome_extractShape h name), diagnostics_extractShape h]
        exact List.append_nil _
      rw [extractStatement, bind_eq, diagnostics_andThen (outcome_extractAlias name h comment),
        halias]
      exact List.append_nil _
  | importing text => rfl
  | other u => rfl

/-- **What extraction says** is what is said about one statement after the other. -/
theorem diagnostics_extract {ss : List Statement} (h : ∀ s ∈ ss, s.WellFormed) :
    (extract ss).diagnostics = ss.flatMap Statement.diagnostics := by
  induction ss with
  | nil => rfl
  | cons s ss ih =>
    obtain ⟨hs, hss⟩ := List.forall_mem_cons.1 h
    rw [extract, bind_eq, diagnostics_andThen (outcome_extractStatement hs), bind_eq,
      diagnostics_andThen (outcome_extract hss), diagnostics_extractStatement hs, ih hss,
      List.flatMap_cons]
    exact congrArg (_ ++ ·) (List.append_nil _)

end Declaration

/-! ## Accounts -/

/-- The kind and the name of a declaration; of an interface also the names of its properties and whether
they may be missing. -/
inductive Outline where
  /-- An interface. -/
  | interface (name : String) (properties : List (String × Bool))
  /-- A type alias. -/
  | typeAlias (name : String)
  deriving DecidableEq, Repr

/-- The name of a property and whether it may be missing, as it is written. -/
def Member.outline? : Member → Option (String × Bool)
  | .property p => some (p.name, p.optional)
  | .other _ => none

/-- The outline of an exported interface or type alias, as it is written. -/
def Statement.outline? : Statement → Option Outline
  | .interface name true members _ => some (.interface name (members.filterMap Member.outline?))
  | .typeAlias name true _ _ => some (.typeAlias name)
  | _ => none

/-- The members of an exported interface. -/
def Statement.exportedMembers : Statement → List Member
  | .interface _ true members _ => members
  | _ => []

namespace Declaration

variable {σ : Type}

/-- The outline of a declaration. -/
def outline : Declaration σ → Outline
  | .interface name ps _ _ => .interface name (ps.map fun p => (p.name, p.optional))
  | .typeAlias name _ _ _ => .typeAlias name

/-- The properties of an interface; an alias has none. -/
def properties : Declaration σ → List (Property σ)
  | .interface _ ps _ _ => ps
  | .typeAlias .. => []

end Declaration

/-- Declarations and messages that account for some statements. -/
structure Accounted (ss : List Statement) (ds : List (Declaration Shape))
    (messages : List String) : Prop where
  /-- There is one declaration for each exported interface or alias, and one property for each member
  that is one, in order. -/
  outlines : ds.map Declaration.outline = ss.filterMap Statement.outline?
  /-- A statement is extracted or reported. -/
  statements : ds.length + (countOpening "Skipping non-exported " messages +
      countOpening "Importing is not supported yet, ignoring " messages +
      countOpening "Skipping unsupported statement " messages) = ss.length
  /-- A member of an exported interface is extracted or reported. -/
  members : (ds.flatMap Declaration.properties).length +
      countOpening "Skipping non-property member " messages =
    (ss.flatMap Statement.exportedMembers).length
  /-- An extracted type with an unknown leaf is reported. -/
  types : countOpening "Type of " messages =
    (ds.flatMap Declaration.ownedShapes).countP fun o => o.2.leaves.contains "any"
  /-- Nothing else is reported. -/
  openings : ∀ m ∈ messages, ∃ o ∈ extractionOpenings, opens o m = true

/-- Accounts add up. -/
theorem Accounted.append {ss ss' : List Statement} {ds ds' : List (Declaration Shape)}
    {ms ms' : List String} (h : Accounted ss ds ms) (h' : Accounted ss' ds' ms') :
    Accounted (ss ++ ss') (ds ++ ds') (ms ++ ms') where
  outlines := by
    rw [List.map_append, List.filterMap_append, h.outlines, h'.outlines]
  statements := by
    have hs := h.statements
    have hs' := h'.statements
    simp only [countOpening_append, List.length_append]
    omega
  members := by
    have hm := h.members
    have hm' := h'.members
    simp only [countOpening_append, List.flatMap_append, List.length_append]
    omega
  types := by
    rw [countOpening_append, List.flatMap_append, List.countP_append, h.types, h'.types]
  openings m hm := by
    rcases List.mem_append.1 hm with hm | hm
    · exact h.openings m hm
    · exact h'.openings m hm

/-! ## Types and members -/

/-- All that is said about a type is that it is unknown. -/
theorem TypeExpr.opening_diagnostics (owner : String) (t : TypeExpr) :
    ∀ d ∈ t.diagnostics owner, d.opening = "Type of " := by
  intro d hd
  rw [diagnostics] at hd
  split at hd
  · rw [List.mem_singleton.1 hd]
    rfl
  · cases hd

/-- A type is reported once if it has an unknown leaf. -/
theorem TypeExpr.length_diagnostics (owner : String) (t : TypeExpr) :
    (t.diagnostics owner).length = if t.shape.leaves.contains "any" then 1 else 0 := by
  rw [diagnostics, unknown]
  split <;> rfl

/-- What is said about a member says that it is left out or that its type is unknown. -/
theorem Member.opening_diagnostics (owner : String) (m : Member) :
    ∀ d ∈ m.diagnostics owner,
      d.opening = "Skipping non-property member " ∨ d.opening = "Type of " := by
  intro d hd
  cases m with
  | property p => exact .inr (TypeExpr.opening_diagnostics _ p.type d hd)
  | other u =>
    rw [List.mem_singleton.1 hd]
    exact .inl rfl

/-- Diagnostics of one opening are all counted under it. -/
theorem countP_opening_of_forall {ds : List Diagnostic} {o : String}
    (h : ∀ d ∈ ds, d.opening = o) (o' : String) :
    (ds.countP fun d => d.opening = o') = if o = o' then ds.length else 0 := by
  split
  · rename_i heq
    rw [List.countP_eq_length]
    intro d hd
    simpa using (h d hd).trans heq
  · rename_i hne
    rw [List.countP_eq_zero]
    intro d hd
    rw [h d hd]
    simpa using hne

section Members

variable (owner : String) (ms : List Member)

/-- A member is a property or reported. -/
theorem length_declared_add_skipped :
    (ms.filterMap Member.declared?).length +
      (ms.flatMap (Member.diagnostics owner)).countP
        (fun d => d.opening = "Skipping non-property member ") = ms.length := by
  induction ms with
  | nil => rfl
  | cons m ms ih =>
    rw [List.flatMap_cons, List.countP_append, List.length_cons, ← ih]
    cases m with
    | property p =>
      -- what is said about a property is said about its type
      have hdeclared : (Member.property p).declared? = some p.declared := rfl
      rw [List.filterMap_cons_some hdeclared, List.length_cons, Member.diagnostics,
        countP_opening_of_forall (TypeExpr.opening_diagnostics _ p.type), if_neg (by decide)]
      omega
    | other u =>
      have hskipped : ((Member.other u).diagnostics owner).countP
          (fun d => d.opening = "Skipping non-property member ") = 1 := rfl
      rw [List.filterMap_cons_none rfl, hskipped]
      omega

/-- A property is reported if its type has an unknown leaf. -/
theorem countP_unknown_members :
    (ms.flatMap (Member.diagnostics owner)).countP (fun d => d.opening = "Type of ") =
      (ms.filterMap Member.declared?).countP fun p => p.shape.leaves.contains "any" := by
  induction ms with
  | nil => rfl
  | cons m ms ih =>
    rw [List.flatMap_cons, List.countP_append, ih]
    cases m with
    | property p =>
      have hdeclared : (Member.property p).declared? = some p.declared := rfl
      rw [List.filterMap_cons_some hdeclared, List.countP_cons, Member.diagnostics,
        countP_opening_of_forall (TypeExpr.opening_diagnostics _ p.type), if_pos rfl,
        TypeExpr.length_diagnostics, Nat.add_comm]
      rfl
    | other u =>
      have hskipped : ((Member.other u).diagnostics owner).countP
          (fun d => d.opening = "Type of ") = 0 := rfl
      rw [List.filterMap_cons_none rfl, hskipped, Nat.zero_add]

end Members

/-! ## Statements -/

/-- An account by causes is an account by messages. -/
theorem Accounted.of_diagnostics {ss : List Statement} {ds : List (Declaration Shape)}
    {gs : List Diagnostic} (houtlines : ds.map Declaration.outline = ss.filterMap Statement.outline?)
    (hstatements : ds.length + (gs.countP (fun d => d.opening = "Skipping non-exported ") +
        gs.countP (fun d => d.opening = "Importing is not supported yet, ignoring ") +
        gs.countP (fun d => d.opening = "Skipping unsupported statement ")) = ss.length)
    (hmembers : (ds.flatMap Declaration.properties).length +
        gs.countP (fun d => d.opening = "Skipping non-property member ") =
      (ss.flatMap Statement.exportedMembers).length)
    (htypes : gs.countP (fun d => d.opening = "Type of ") =
      (ds.flatMap Declaration.ownedShapes).countP fun o => o.2.leaves.contains "any")
    (hopenings : ∀ d ∈ gs, d.opening ∈ extractionOpenings) :
    Accounted ss ds (gs.map Diagnostic.message) where
  outlines := houtlines
  statements := by
    rw [countOpening_message (by decide), countOpening_message (by decide),
      countOpening_message (by decide), hstatements]
  members := by rw [countOpening_message (by decide), hmembers]
  types := by rw [countOpening_message (by decide), htypes]
  openings m hm := by
    obtain ⟨d, hd, rfl⟩ := List.mem_map.1 hm
    exact ⟨d.opening, hopenings d hd, (opens_message_iff d.opening_mem d).2 rfl⟩

/-- An exported interface is accounted for by its properties and by what is said about its members. -/
theorem accounted_interface (name : String) (members : List Member) (comment : Option Comment) :
    Accounted [.interface name true members comment]
      (Statement.interface name true members comment).declared?.toList
      ((members.flatMap (Member.diagnostics name)).map Diagnostic.message) := by
  have hmember : ∀ d ∈ members.flatMap (Member.diagnostics name),
      d.opening = "Skipping non-property member " ∨ d.opening = "Type of " := by
    intro d hd
    obtain ⟨m, -, hm⟩ := List.mem_flatMap.1 hd
    exact m.opening_diagnostics name d hm
  -- nothing is said about the statement itself
  have hzero : ∀ o, o ≠ "Skipping non-property member " → o ≠ "Type of " →
      (members.flatMap (Member.diagnostics name)).countP (fun d => d.opening = o) = 0 := by
    intro o hne hne'
    rw [List.countP_eq_zero]
    intro d hd
    rcases hmember d hd with h | h
    · simpa [h] using Ne.symm hne
    · simpa [h] using Ne.symm hne'
  refine .of_diagnostics ?_ ?_ ?_ ?_ ?_
  · have hps : (members.filterMap Member.declared?).map (fun p => (p.name, p.optional)) =
        members.filterMap Member.outline? := by
      rw [List.map_filterMap]
      congr 1
      funext m
      cases m <;> rfl
    simp only [Statement.declared?, Option.toList_some, List.map_singleton, Declaration.outline, hps,
      Statement.outline?, List.filterMap_cons, List.filterMap_nil]
  · rw [hzero _ (by decide) (by decide), hzero _ (by decide) (by decide),
      hzero _ (by decide) (by decide)]
    rfl
  · simpa [Statement.declared?, Declaration.properties, Statement.exportedMembers] using
      length_declared_add_skipped name members
  · rw [countP_unknown_members]
    simp [Statement.declared?, Declaration.ownedShapes, List.countP_map, Function.comp_def]
  · intro d hd
    rcases hmember d hd with h | h <;> simp [h, extractionOpenings]

/-- An exported alias is accounted for by its declaration and by what is said about its type. -/
theorem accounted_alias (name : String) (target : TypeExpr) (comment : Option Comment) :
    Accounted [.typeAlias name true target comment]
      (Statement.typeAlias name true target comment).declared?.toList
      ((target.diagnostics name).map Diagnostic.message) := by
  have hcount := countP_opening_of_forall (target.opening_diagnostics name)
  refine .of_diagnostics rfl ?_ ?_ ?_ ?_
  · rw [hcount, hcount, hcount, if_neg (by decide), if_neg (by decide), if_neg (by decide)]
    rfl
  · rw [hcount, if_neg (by decide)]
    rfl
  · rw [hcount, if_pos rfl, TypeExpr.length_diagnostics]
    simp [Statement.declared?, Declaration.ownedShapes, List.countP_cons]
  · intro d hd
    rw [target.opening_diagnostics name d hd]
    simp [extractionOpenings]

/-- **One statement** is accounted for by its declaration and by what is said about it. -/
theorem Statement.accounted (s : Statement) :
    Accounted [s] s.declared?.toList (s.diagnostics.map Diagnostic.message) := by
  cases s with
  | interface name exported members comment =>
    cases exported with
    | false =>
      exact .of_diagnostics rfl rfl rfl rfl
        (List.forall_mem_singleton.2 (by simp [Diagnostic.opening, extractionOpenings]))
    | true => exact accounted_interface name members comment
  | typeAlias name exported target comment =>
    cases exported with
    | false =>
      exact .of_diagnostics rfl rfl rfl rfl
        (List.forall_mem_singleton.2 (by simp [Diagnostic.opening, extractionOpenings]))
    | true => exact accounted_alias name target comment
  | importing text =>
    exact .of_diagnostics rfl rfl rfl rfl
      (List.forall_mem_singleton.2 (by simp [Diagnostic.opening, extractionOpenings]))
  | other u =>
    exact .of_diagnostics rfl rfl rfl rfl
      (List.forall_mem_singleton.2 (by simp [Diagnostic.opening, extractionOpenings]))

/-- **Any number of statements** are accounted for. -/
theorem accounted_statements (ss : List Statement) :
    Accounted ss (ss.filterMap Statement.declared?)
      ((ss.flatMap Statement.diagnostics).map Diagnostic.message) := by
  induction ss with
  | nil => exact .of_diagnostics rfl rfl rfl rfl (by simp)
  | cons s ss ih =>
    have hdeclared : (s :: ss).filterMap Statement.declared? =
        s.declared?.toList ++ ss.filterMap Statement.declared? := by
      rw [List.filterMap_cons]
      cases s.declared? <;> rfl
    rw [hdeclared, List.flatMap_cons, List.map_append]
    exact s.accounted.append ih

/-! ## Extraction -/

/-- **Extraction accounts for everything.** Well-formed statements are extracted: there is one declaration
for each exported interface or alias and one property for each member that is one, in order. Each
statement is extracted or reported, each member of an exported interface is a property or reported,
each extracted type with an unknown leaf is reported, and nothing else is. Declarations and messages of
some statements and of others behind them are those of the former followed by those of the latter. -/
theorem extraction_accounts_for_everything {xs ys : List Statement} (hxs : ∀ s ∈ xs, s.WellFormed)
    (hys : ∀ s ∈ ys, s.WellFormed) :
    ∃ ds ds', (Declaration.extract xs).outcome = .ok ds ∧
      (Declaration.extract ys).outcome = .ok ds' ∧
      Accounted xs ds (Declaration.extract xs).messages ∧
      (Declaration.extract (xs ++ ys)).outcome = .ok (ds ++ ds') ∧
      (Declaration.extract (xs ++ ys)).messages =
        (Declaration.extract xs).messages ++ (Declaration.extract ys).messages := by
  have hboth : ∀ s ∈ xs ++ ys, s.WellFormed := List.forall_mem_append.2 ⟨hxs, hys⟩
  refine ⟨_, _, Declaration.outcome_extract hxs, Declaration.outcome_extract hys, ?_, ?_, ?_⟩
  · rw [Report.messages, Declaration.diagnostics_extract hxs]
    exact accounted_statements xs
  · rw [Declaration.outcome_extract hboth, List.filterMap_append]
  · rw [Report.messages, Report.messages, Report.messages, Declaration.diagnostics_extract hboth,
      Declaration.diagnostics_extract hxs, Declaration.diagnostics_extract hys,
      List.flatMap_append, List.map_append]

/-- An interface with a method and unknown types at two depths, a hidden interface with members of its
own, an import, and an alias. -/
def partlyShown : List Statement :=
  [.interface "A" true
      [.property ⟨"p", .union [.named "B", .array .absent, .absent], true, none⟩,
        .other ⟨"method_signature", "m(): any", some "m"⟩,
        .property ⟨"q", .inter [.union [], .verbatim "'any'"], false, none⟩] none,
    .interface "Hidden" false [.property ⟨"r", .absent, false, none⟩,
      .other ⟨"call_signature", "(): any", none⟩] none,
    .importing "import x from 'y'",
    .typeAlias "B" true (.array (.named "any")) none]

/-- A class and a hidden alias. -/
def notShown : List Statement :=
  [.other ⟨"class_declaration", "class C", some "C"⟩, .typeAlias "D" false .absent none]

/-- Of the first four statements two are extracted, with two of three members. Five messages are about
them, and the two statements behind them add one each. -/
theorem extraction_accounts_for_everything_partlyShown :
    ∃ ds ds', (Declaration.extract partlyShown).outcome = .ok ds ∧
      (Declaration.extract notShown).outcome = .ok ds' ∧
      Accounted partlyShown ds (Declaration.extract partlyShown).messages ∧
      (Declaration.extract (partlyShown ++ notShown)).outcome = .ok (ds ++ ds') ∧
      (Declaration.extract (partlyShown ++ notShown)).messages =
        ["Type of A.p falls back to 'any'", "Skipping non-property member m of A",
          "Skipping non-exported interface Hidden",
          "Importing is not supported yet, ignoring import x from 'y'",
          "Type of B falls back to 'any'", "Skipping unsupported statement C (class_declaration)",
          "Skipping non-exported type D"] := by
  have hshown : ∀ s ∈ partlyShown, s.WellFormed := by decide
  have hother : ∀ s ∈ notShown, s.WellFormed := by decide
  obtain ⟨ds, ds', hds, hds', haccounted, hboth, hmessages⟩ :=
    extraction_accounts_for_everything hshown hother
  exact ⟨ds, ds', hds, hds', haccounted, hboth, hmessages.trans (by decide +kernel)⟩

end TypeAtlas
