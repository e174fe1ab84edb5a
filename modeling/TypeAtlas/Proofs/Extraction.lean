import TypeAtlas.Declaration.Extract

/-! # Extraction of well-formed statements

A statement is well-formed when every type in it is. `Declaration.extract` fails on no such statement, and
its result can be written down without the reports on the way.

* `Statement.WellFormed`: no type in a statement is malformed.
* `Statement.declared?`: the declaration that a statement makes, if documentation shows it.
* `Statement.exportedName?`, `Statement.exportedTypes`: its name and its types, as they are written.

Main statement: `Declaration.outcome_extract`. -/

namespace TypeAtlas

/-- A member whose type, if it has one, is well-formed. -/
def Member.WellFormed : Member → Prop
  | .property p => p.type.WellFormed
  | .other _ => True

/-- A statement without malformed types. -/
def Statement.WellFormed : Statement → Prop
  | .interface _ _ members _ => ∀ m ∈ members, m.WellFormed
  | .typeAlias _ _ target _ => target.WellFormed
  | .importing _ => True
  | .other _ => True

instance (m : Member) : Decidable m.WellFormed :=
  match m with
  | .property p => inferInstanceAs (Decidable p.type.WellFormed)
  | .other _ => isTrue trivial

instance (s : Statement) : Decidable s.WellFormed :=
  match s with
  | .interface _ _ members _ => inferInstanceAs (Decidable (∀ m ∈ members, m.WellFormed))
  | .typeAlias _ _ target _ => inferInstanceAs (Decidable target.WellFormed)
  | .importing _ => isTrue trivial
  | .other _ => isTrue trivial

/-! ## Declarations of statements -/

/-- The documented form of a property. -/
def PropertyMember.declared (p : PropertyMember) : Property Shape :=
  let docs := Docs.of p.comment
  ⟨p.name, p.type.shape, p.optional, docs.description, docs.defaultText, docs.exampleText⟩

/-- The property that a member declares, if it is one. -/
def Member.declared? : Member → Option (Property Shape)
  | .property p => some p.declared
  | .other _ => none

/-- The declaration that a statement makes, if documentation shows it. -/
def Statement.declared? : Statement → Option (Declaration Shape)
  | .interface name true members comment =>
    let docs := Docs.of comment
    some (.interface name (members.filterMap Member.declared?) docs.description docs.exampleText)
  | .typeAlias name true target comment =>
    let docs := Docs.of comment
    some (.typeAlias name target.shape docs.description docs.exampleText)
  | _ => none

/-- The name of an exported interface or type alias. -/
def Statement.exportedName? : Statement → Option String
  | .interface name true _ _ => some name
  | .typeAlias name true _ _ => some name
  | _ => none

/-- The type of a member, if it is a property. -/
def Member.type? : Member → Option TypeExpr
  | .property p => some p.type
  | .other _ => none

/-- The types of the properties of an exported interface, or the type of an exported alias. -/
def Statement.exportedTypes : Statement → List TypeExpr
  | .interface _ true members _ => members.filterMap Member.type?
  | .typeAlias _ true target _ => [target]
  | _ => []

/-- The name of a declaration is the name that its statement exports. -/
theorem Statement.name_declared? (s : Statement) :
    s.declared?.map Declaration.name = s.exportedName? := by
  cases s with
  | interface name exported members comment => cases exported <;> rfl
  | typeAlias name exported target comment => cases exported <;> rfl
  | importing text => rfl
  | other u => rfl

namespace Declaration

open Report

/-- An unknown leaf is no fault. -/
theorem outcome_checkUnknown (owner : String) (s : Shape) :
    (checkUnknown owner s).outcome = .ok () := by
  rw [checkUnknown]
  split <;> rfl

/-- The shape of a well-formed type is found. -/
theorem outcome_extractShape {t : TypeExpr} (h : t.WellFormed) (owner : String) :
    (extractShape owner t).outcome = .ok t.shape := by
  rw [extractShape, TypeExpr.decompose_of_wellFormed h, bind_eq, outcome_andThen rfl, bind_eq,
    outcome_andThen (outcome_checkUnknown owner t.shape)]
  rfl

/-- A well-formed property is extracted. -/
theorem outcome_extractProperty {p : PropertyMember} (h : p.type.WellFormed) (owner : String) :
    (extractProperty owner p).outcome = .ok p.declared := by
  rw [extractProperty, bind_eq, outcome_andThen (outcome_extractShape h _)]
  rfl

/-- The properties among well-formed members are extracted, in order. -/
theorem outcome_extractMembers (owner : String) {ms : List Member}
    (h : ∀ m ∈ ms, m.WellFormed) :
    (extractMembers owner ms).outcome = .ok (ms.filterMap Member.declared?) := by
  induction ms with
  | nil => rfl
  | cons m ms ih =>
    obtain ⟨hm, hms⟩ := List.forall_mem_cons.1 h
    cases m with
    | other u =>
      rw [extractMembers, bind_eq, outcome_andThen rfl, ih hms]
      rfl
    | property p =>
      rw [extractMembers, bind_eq, outcome_andThen (outcome_extractProperty hm owner), bind_eq,
        outcome_andThen (ih hms)]
      rfl

/-- An interface with well-formed members is extracted. -/
theorem outcome_extractInterface (name : String) {members : List Member}
    (h : ∀ m ∈ members, m.WellFormed) (comment : Option Comment) :
    (extractInterface name members comment).outcome =
      .ok (.interface name (members.filterMap Member.declared?) (Docs.of comment).description
        (Docs.of comment).exampleText) := by
  rw [extractInterface, bind_eq, outcome_andThen rfl, bind_eq,
    outcome_andThen (outcome_extractMembers name h)]
  rfl

/-- An alias of a well-formed type is extracted. -/
theorem outcome_extractAlias (name : String) {target : TypeExpr} (h : target.WellFormed)
    (comment : Option Comment) :
    (extractAlias name target comment).outcome =
      .ok (.typeAlias name target.shape (Docs.of comment).description
        (Docs.of comment).exampleText) := by
  rw [extractAlias, bind_eq, outcome_andThen rfl, bind_eq,
    outcome_andThen (outcome_extractShape h name)]
  rfl

/-- The declaration of a well-formed statement is extracted, if it makes one. -/
theorem outcome_extractStatement {s : Statement} (h : s.WellFormed) :
    (extractStatement s).outcome = .ok s.declared? := by
  cases s with
  | interface name exported members comment =>
    cases exported with
    | false => rfl
    | true =>
      rw [extractStatement, bind_eq, outcome_andThen (outcome_extractInterface name h comment)]
      rfl
  | typeAlias name exported target comment =>
    cases exported with
    | false => rfl
    | true =>
      rw [extractStatement, bind_eq, outcome_andThen (outcome_extractAlias name h comment)]
      rfl
  | importing text => rfl
  | other u => rfl

/-- **Extraction fails on no well-formed statement**, and gives their declarations in order. -/
theorem outcome_extract {ss : List Statement} (h : ∀ s ∈ ss, s.WellFormed) :
    (extract ss).outcome = .ok (ss.filterMap Statement.declared?) := by
  induction ss with
  | nil => rfl
  | cons s ss ih =>
    obtain ⟨hs, hss⟩ := List.forall_mem_cons.1 h
    rw [extract, bind_eq, outcome_andThen (outcome_extractStatement hs), bind_eq,
      outcome_andThen (ih hss), List.filterMap_cons]
    cases s.declared? <;> rfl

end Declaration

end TypeAtlas
