import TypeAtlas.Journal

/-! # Worlds

What a run can see and change: files (`FileTree`), the console, which takes every text, and the journal
(`Journal`). Main definitions:

* `World`: the state.
* `Action`: a step that changes the world and gives a result or fails. What was changed before a
  failure stays changed.
* `World.record`, `Action.tell`: records written to the journal.
* `Action.setUpJournal`: the journal set up anew. -/

namespace TypeAtlas

/-- What a run can see and change. -/
structure World where
  /-- Files and directories. -/
  files : FileTree
  /-- The working directory. -/
  cwd : Location
  /-- Where records go. -/
  journal : Journal
  /-- The point in time that is written in front of records. -/
  stamp : String
  /-- What was written as output. -/
  stdout : String
  /-- What was written to the console. -/
  stderr : String

namespace World

/-- The world after some output. -/
def print (text : String) (w : World) : World := { w with stdout := w.stdout ++ text }

/-- The world after some text on the console. -/
def printError (text : String) (w : World) : World := { w with stderr := w.stderr ++ text }

/-- The world after a text was added to the file at a location. -/
def addTo (place : Location) (text : String) (w : World) : World :=
  match w.files.append [] (Path.absolute place) (Text.Utf8.encode text.toList) with
  | .ok files => { w with files }
  | .error _ => w

/-- The world after a record. -/
def record (r : Record) (w : World) : World :=
  let w := w.printError (w.journal.consoleText r)
  match w.journal.fileText w.stamp r with
  | none => w
  | some (place, text) => w.addTo place text

/-- The world after a file or a directory with all in it was deleted. -/
def remove (place : Location) (w : World) : World :=
  { w with files := w.files.remove place, journal := w.journal.forget place }

end World

/-- A step that changes the world and gives a result or fails. -/
abbrev Action (ε α : Type) := ExceptT ε (StateM World) α

namespace Action

variable {ε ε' α : Type}

/-- A step that only looks at the world. -/
def look (f : World → Except ε α) : Action ε α := fun w => (f w, w)

/-- A step that only changes the world. -/
def change (f : World → World) : Action ε Unit := fun w => (.ok (), f w)

/-- A step whose failure is seen as one of another kind. -/
def adapt (f : ε → ε') (a : Action ε α) : Action ε' α := fun w =>
  let (r, w) := a w
  (r.mapError f, w)

/-- One record. -/
def record (r : Record) : Action ε Unit := change (World.record r)

/-- A report: all that it says is recorded, and it ends as it does. -/
def tell (r : Report ε α) : Action ε α := fun w =>
  (r.outcome, r.events.foldl (fun w e => w.record e.record) w)

/-- The text of a file written over what was there. -/
def writeFile (p : Path) (text : String) : Action FileFault Unit := fun w =>
  match w.files.write w.cwd p (Text.Utf8.encode text.toList) with
  | .ok files => (.ok (), { w with files })
  | .error e => (.error e, w)

/-- The journal set up anew. A log file is made if it is not there; if it cannot be opened, the journal
is left with the console alone. -/
def setUpJournal (verbose : Bool) (logFile : Option Path) : Action FileFault Unit := do
  change fun w => { w with journal := .setUp verbose none }
  if let some p := logFile then
    let place ← look fun w => .ok (p.normal w.cwd)
    let path : Path := ⟨if p.anchor = .doubled then .doubled else .root, place⟩
    let files ← look fun w => w.files.append w.cwd path []
    change fun w => { w with files, journal := .setUp verbose (some place) }

/-- A step that ends well goes on from its result. -/
theorem bind_of_ok {β : Type} {a : Action ε α} {w w' : World} {x : α} (h : a w = (.ok x, w'))
    (f : α → Action ε β) : (a >>= f) w = f x w' := by
  change ExceptT.bindCont f (a w).1 (a w).2 = f x w'
  rw [h]
  rfl

/-- A step that fails is the last one. -/
theorem bind_of_error {β : Type} {a : Action ε α} {w w' : World} {e : ε} (h : a w = (.error e, w'))
    (f : α → Action ε β) : (a >>= f) w = (.error e, w') := by
  change ExceptT.bindCont f (a w).1 (a w).2 = (.error e, w')
  rw [h]
  rfl

@[simp] theorem look_apply (f : World → Except ε α) (w : World) : look f w = (f w, w) := rfl

/-- A look that finds something. -/
theorem look_of_ok {f : World → Except ε α} {w : World} {a : α} (h : f w = .ok a) :
    look f w = (.ok a, w) := by
  rw [look_apply, h]

/-- A look that fails. -/
theorem look_of_error {f : World → Except ε α} {w : World} {e : ε} (h : f w = .error e) :
    look f w = (.error e, w) := by
  rw [look_apply, h]

@[simp] theorem change_apply (f : World → World) (w : World) :
    (change f : Action ε Unit) w = (.ok (), f w) := rfl

@[simp] theorem record_apply (r : Record) (w : World) :
    (record r : Action ε Unit) w = (.ok (), w.record r) := rfl

@[simp] theorem tell_apply (r : Report ε α) (w : World) :
    tell r w = (r.outcome, r.events.foldl (fun w e => w.record e.record) w) := rfl

end Action

end TypeAtlas
