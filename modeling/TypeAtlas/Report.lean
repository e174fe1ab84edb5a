import TypeAtlas.Statement

/-! # Reports (specification §5 and §7)

A stage of documentation gives a result or fails, and on the way says things: diagnostics for the
user and progress notes. A `Report` keeps both, in order. Main definitions:

* `Diagnostic`: each cause for a message to the user, and its wording.
* `Event`: a diagnostic, or a progress note of a stage.
* `Report`: what was said and how it ended. Reports chain as a monad; what was said before a failure
  stays said. -/

namespace TypeAtlas

/-- Something the user should know. -/
inductive Diagnostic where
  /-- An interface is left out, as it is not exported. -/
  | unexportedInterface (name : String)
  /-- A type alias is left out, as it is not exported. -/
  | unexportedAlias (name : String)
  /-- An import is left out. -/
  | importIgnored (text : String)
  /-- A statement is left out, as its kind is not documented. -/
  | unsupportedStatement (u : Unsupported)
  /-- A member is left out, as it is no property. -/
  | skippedMember (u : Unsupported) (owner : String)
  /-- A type has a leaf that says nothing. -/
  | unknownType (owner leaf : String)
  /-- A name is declared again. -/
  | duplicate (name : String)
  /-- A leaf names no declaration. -/
  | unresolved (owner leaf : String)
  deriving DecidableEq, Repr

/-- The wording of a diagnostic. -/
def Diagnostic.message : Diagnostic → String
  | .unexportedInterface name => "Skipping non-exported interface " ++ name
  | .unexportedAlias name => "Skipping non-exported type " ++ name
  | .importIgnored text => "Importing is not supported yet, ignoring " ++ text
  | .unsupportedStatement u => "Skipping unsupported statement " ++ u.label ++ " (" ++ u.kind ++ ")"
  | .skippedMember u owner => "Skipping non-property member " ++ u.label ++ " of " ++ owner
  | .unknownType owner leaf => "Type of " ++ owner ++ " falls back to '" ++ leaf ++ "'"
  | .duplicate name => "Duplicate declaration " ++ name ++ ", keeping the last one"
  | .unresolved owner leaf => "Could not resolve type link for " ++ owner ++ ": " ++ leaf

/-- A stage of documentation that says how far it is. -/
inductive Stage where
  /-- Reading source text. -/
  | parsing
  /-- Selecting declarations. -/
  | extract
  /-- Resolving references. -/
  | linking
  /-- Writing markdown. -/
  | render
  /-- A job as a whole. -/
  | pipeline
  deriving DecidableEq, Repr

/-- Something that is said on the way. -/
inductive Event where
  /-- A progress note. -/
  | note (stage : Stage) (text : String)
  /-- A diagnostic. -/
  | diagnostic (d : Diagnostic)
  deriving DecidableEq, Repr

/-- What a stage said, and how it ended. -/
structure Report (ε α : Type) where
  /-- What was said, in order. -/
  events : List Event
  /-- The result, or why there is none. -/
  outcome : Except ε α

namespace Report

variable {ε ε' α β : Type}

/-- A result about which nothing is said. -/
def done (a : α) : Report ε α := ⟨[], .ok a⟩

/-- A failure about which nothing more is said. -/
def fail (e : ε) : Report ε α := ⟨[], .error e⟩

/-- A report, and if it ends well, what follows from its result. -/
def andThen (r : Report ε α) (f : α → Report ε β) : Report ε β :=
  match r.outcome with
  | .ok a => ⟨r.events ++ (f a).events, (f a).outcome⟩
  | .error e => ⟨r.events, .error e⟩

instance : Monad (Report ε) where
  pure := done
  bind := andThen

/-- One event. -/
def say (e : Event) : Report ε Unit := ⟨[e], .ok ()⟩

/-- One diagnostic. -/
def warn (d : Diagnostic) : Report ε Unit := say (.diagnostic d)

/-- One progress note. -/
def note (stage : Stage) (text : String) : Report ε Unit := say (.note stage text)

/-- The end of a silent stage. -/
def ofExcept (r : Except ε α) : Report ε α := ⟨[], r⟩

/-- A report whose failure is seen as one of another kind. -/
def mapError (f : ε → ε') (r : Report ε α) : Report ε' α := ⟨r.events, r.outcome.mapError f⟩

/-- The diagnostics of a report, in order. -/
def diagnostics (r : Report ε α) : List Diagnostic :=
  r.events.filterMap fun
    | .diagnostic d => some d
    | .note .. => none

/-- The messages of the diagnostics, in order. -/
def messages (r : Report ε α) : List String := r.diagnostics.map Diagnostic.message

@[simp] theorem pure_eq (a : α) : (pure a : Report ε α) = ⟨[], .ok a⟩ := rfl

@[simp] theorem bind_eq (r : Report ε α) (f : α → Report ε β) : r >>= f = r.andThen f := rfl

@[simp] theorem andThen_ok (es : List Event) (a : α) (f : α → Report ε β) :
    andThen ⟨es, .ok a⟩ f = ⟨es ++ (f a).events, (f a).outcome⟩ := rfl

@[simp] theorem andThen_error (es : List Event) (e : ε) (f : α → Report ε β) :
    andThen ⟨es, .error e⟩ f = ⟨es, .error e⟩ := rfl

/-- After a good end, the outcome is that of what follows. -/
theorem outcome_andThen {r : Report ε α} {a : α} (h : r.outcome = .ok a) (f : α → Report ε β) :
    (r.andThen f).outcome = (f a).outcome := by
  rw [andThen, h]

/-- After a good end, the diagnostics of what follows come behind those that were there. -/
theorem diagnostics_andThen {r : Report ε α} {a : α} (h : r.outcome = .ok a)
    (f : α → Report ε β) :
    (r.andThen f).diagnostics = r.diagnostics ++ (f a).diagnostics := by
  rw [andThen, h]
  exact List.filterMap_append

@[simp] theorem diagnostics_mapError (f : ε → ε') (r : Report ε α) :
    (r.mapError f).diagnostics = r.diagnostics := rfl

/-- A good end stays the same when failures are seen as others. -/
theorem outcome_mapError_of_ok {r : Report ε α} {a : α} (h : r.outcome = .ok a) (f : ε → ε') :
    (r.mapError f).outcome = .ok a := by
  rw [mapError, h]
  rfl

end Report

end TypeAtlas
