import TypeAtlas.Proofs.CleanExit
import TypeAtlas.Proofs.Handlers

/-! # The delivery of records

A `Journal` keeps nothing of its setups (`Action.setUpJournal`) but the last one. That is enough: what
it writes is what the handlers of that setup write.

* `World.LogsTo`: a journal that is set up and whose log file, if there is one, is open.
* `World.WrittenOnce`: what one record adds to the console and to the files.
* `LogStep`, `Loggers.after`: setups and records in any order.

A setup opens the log file (`World.logsTo_setUpJournal`), records leave it open (`World.LogsTo.record`),
and each of them is written by the handlers that are due (`World.LogsTo.record_eq_writes`). Main
statement: `records_reach_last_setup`. -/

namespace TypeAtlas

/-! ## Where log files are -/

namespace Path

/-- No double dot is left of a path that was collapsed. -/
theorem dots_notMem_collapse {done parts : List String} (h : ".." ∉ done) :
    ".." ∉ collapse done parts := by
  fun_induction collapse done parts with
  | case1 done => simpa using h
  | case2 done r ih => exact ih fun hmem => h (List.mem_of_mem_tail hmem)
  | case3 done p r hp ih =>
    refine ih ?_
    rw [List.mem_cons, not_or]
    exact ⟨fun e => hp e.symm, h⟩

/-- No double dot is left in an absolute path. -/
theorem dots_notMem_normal (cwd : List String) (p : Path) : ".." ∉ p.normal cwd := by
  rw [normal]
  split <;> exact dots_notMem_collapse List.not_mem_nil

end Path

namespace FileTree

variable {files : FileTree} {place l : Location} {path path' : String}

/-- Parts without double dots lead where they say. -/
theorem walk_eq_append {ps : List String} (hdots : ".." ∉ ps) (h : walk files path place ps = .ok l) :
    l = place ++ ps := by
  induction ps generalizing place with
  | nil =>
    cases h
    simp
  | cons p ps ih =>
    rw [List.mem_cons, not_or] at hdots
    rw [walk, if_neg (Ne.symm hdots.1)] at h
    split at h
    · split at h
      · cases h
      · simpa using ih hdots.2 h
    · cases h
    · cases h

/-- Where parts lead does not depend on the path that a fault would name. -/
theorem walk_of_path {ps : List String} (h : walk files path place ps = .ok l) :
    walk files path' place ps = .ok l := by
  induction ps generalizing place with
  | nil => exact h
  | cons p ps ih =>
    rw [walk] at h ⊢
    split at h
    · split at h
      · cases h
      · rename_i hlimit
        rw [if_neg hlimit]
        exact ih h
    · cases h
    · cases h

/-- An absolute path without double dots leads where it says, with one slash in front or with two. -/
theorem locate_absolute {cwd : Location} {anchor : Anchor} {ps : List String} (hanchor : anchor ≠ .none)
    (hdots : ".." ∉ ps) (h : files.locate cwd ⟨anchor, ps⟩ = .ok l) :
    l = ps ∧ files.locate [] (Path.absolute ps) = .ok ps := by
  rw [locate] at h
  split at h
  · cases h
  · rename_i hnul
    split at h
    · cases h
    · rename_i hlimit
      have hl : l = ps := by simpa using walk_eq_append hdots h
      subst hl
      refine ⟨rfl, ?_⟩
      -- one slash is no longer than two
      have hshort : (Path.absolute l).text.utf8ByteSize ≤ (Path.text ⟨anchor, l⟩).utf8ByteSize := by
        cases anchor with
        | none => exact absurd rfl hanchor
        | root => exact Nat.le_refl _
        | doubled =>
          simp [Path.absolute, Path.text, Path.anchorText]
          decide
      have hnul' : ¬ (Path.absolute l).hasNul = true := hnul
      rw [locate, if_neg hnul', if_neg (by omega)]
      exact walk_of_path h

/-- What is added to a file that is there comes behind what it holds, and nothing else changes. -/
theorem exists_append {cwd : Location} {p : Path} {old : List UInt8} (hlocate : files.locate cwd p = .ok place)
    (hfile : files.lookup? place = some (.file old)) (bytes : List UInt8) :
    ∃ files', files.append cwd p bytes = .ok files' ∧
      ∀ l, files'.lookup? l = if l = place then some (.file (old ++ bytes)) else files.lookup? l := by
  have hdirectory : files.lookup? place ≠ some .directory := by
    rw [hfile]
    simp
  have hne : place ≠ [] := ne_nil_of_lookup? hdirectory
  refine ⟨Catalogue.insert place (.file (old ++ bytes)) files, ?_, lookup?_insert hne _ files⟩
  rw [append, modify, hlocate]
  simp only [hfile]
  rfl

end FileTree

/-! ## Journals that are set up -/

namespace World

variable {w w' : World} {verbose : Bool} {log? : Option Location}

/-- The journal is set up, and the log file is open if there is one. -/
structure LogsTo (verbose : Bool) (log? : Option Location) (w : World) : Prop where
  /-- The journal is set up in this way. -/
  journal_eq : w.journal = .setUp verbose log?
  /-- The log file is where it is said to be. -/
  opened : ∀ place, log? = some place → w.files.locate [] (Path.absolute place) = .ok place ∧
    ∃ bytes, w.files.lookup? place = some (.file bytes)

/-- What one record adds: a line on the console if its level is high enough for that, a line in the log
file if there is one and the level is high enough for that, and nothing anywhere else. -/
structure WrittenOnce (verbose : Bool) (log? : Option Location) (r : Record) (w w' : World) : Prop where
  /-- One line on the console, or none. -/
  console : w'.stderr = w.stderr ++ if Journal.consoleLevel verbose ≤ r.level then r.consoleLine else ""
  /-- One line in the log file, or none. -/
  file : ∀ place, log? = some place → ∃ bytes, w.files.lookup? place = some (.file bytes) ∧
    w'.files.lookup? place = some (.file (bytes ++
      if .debug ≤ r.level then Text.Utf8.encode (r.fileLine w.stamp).toList else []))
  /-- Nothing in any other file. -/
  others : ∀ l, log? ≠ some l → w'.files.lookup? l = w.files.lookup? l
  /-- No output. -/
  stdout : w'.stdout = w.stdout

/-- A setup that ends well opens the log file. -/
theorem logsTo_setUpJournal {logFile : Option Path}
    (h : Action.setUpJournal verbose logFile w = (.ok (), w')) :
    w'.LogsTo verbose (logFile.map (·.normal w.cwd)) ∧ w'.cwd = w.cwd := by
  cases logFile with
  | none =>
    cases h
    exact ⟨⟨rfl, by simp⟩, rfl⟩
  | some p =>
    rw [Action.setUpJournal_some] at h
    split at h
    · rename_i files happend
      cases h
      obtain ⟨l, hlocate, hfile, hlookup⟩ := FileTree.lookup?_append happend
      have hanchor : (if p.anchor = .doubled then Anchor.doubled else .root) ≠ .none := by
        split <;> decide
      obtain ⟨rfl, habsolute⟩ :=
        FileTree.locate_absolute hanchor (Path.dots_notMem_normal w.cwd p) hlocate
      have hdirectories := FileTree.sameDirectories_of_lookup? hfile hlookup
      refine ⟨⟨rfl, ?_⟩, rfl⟩
      rintro place hat
      cases hat
      exact ⟨(FileTree.locate_eq_ok_iff hdirectories _ _).1 habsolute, _, by rw [hlookup, if_pos rfl]⟩
    · cases h

/-- Records leave the log file open. -/
theorem LogsTo.record (h : w.LogsTo verbose log?) (r : Record) : (w.record r).LogsTo verbose log? := by
  have hlogs := onlyLogs_record r w
  refine ⟨hlogs.journal_eq.trans h.journal_eq, ?_⟩
  intro place hat
  obtain ⟨hlocate, bytes, hfile⟩ := h.opened place hat
  refine ⟨(FileTree.locate_eq_ok_iff hlogs.sameDirectories _ _).1 hlocate, ?_⟩
  rcases hlogs.holds place with hsame | ⟨-, -, more, hmore⟩
  · exact ⟨bytes, hsame.trans hfile⟩
  · exact ⟨_, hmore⟩

/-- No text on the console leaves the world as it is. -/
theorem printError_empty (w : World) : w.printError "" = w := by
  simp [printError]

/-- What a journal that is set up writes to the console. -/
theorem LogsTo.consoleText_eq (h : w.LogsTo verbose log?) (r : Record) :
    w.journal.consoleText r = if Journal.consoleLevel verbose ≤ r.level then r.consoleLine else "" := by
  rw [h.journal_eq]
  rfl

/-- What a journal that is set up writes to its log file. -/
theorem LogsTo.fileText_eq (h : w.LogsTo verbose log?) (r : Record) :
    w.journal.fileText w.stamp r =
      if .debug ≤ r.level then log?.map fun place => (place, r.fileLine w.stamp) else none := by
  rw [h.journal_eq]
  cases log? with
  | none => simp [Journal.fileText]
  | some place => rfl

/-- A record without a line for the log file goes to the console. -/
theorem record_of_none {r : Record} (h : w.journal.fileText w.stamp r = none) :
    w.record r = w.printError (w.journal.consoleText r) := by
  have hfile : (w.printError (w.journal.consoleText r)).journal.fileText
      (w.printError (w.journal.consoleText r)).stamp r = none := h
  rw [World.record]
  simp only [hfile]

/-- A record with a line for the log file goes to the console and then there. -/
theorem record_of_some {r : Record} {place : Location} {text : String}
    (h : w.journal.fileText w.stamp r = some (place, text)) :
    w.record r = (w.printError (w.journal.consoleText r)).addTo place text := by
  have hfile : (w.printError (w.journal.consoleText r)).journal.fileText
      (w.printError (w.journal.consoleText r)).stamp r = some (place, text) := h
  rw [World.record]
  simp only [hfile]

/-- **A journal writes what the handlers of its setup write.** -/
theorem LogsTo.record_eq_writes (h : w.LogsTo verbose log?) (setup : Nat) (r : Record) :
    w.record r = (Loggers.due setup verbose log? r.level).foldl (fun w h => h.write r w) w := by
  -- first the console, then the log file
  have hconsole : w.printError (w.journal.consoleText r) =
      (if Journal.consoleLevel verbose ≤ r.level then
        [(⟨setup, .console, Journal.consoleLevel verbose⟩ : Handler)] else []).foldl
          (fun w h => h.write r w) w := by
    rw [h.consoleText_eq]
    split
    · rfl
    · exact printError_empty w
  have hfile := h.fileText_eq r
  rw [Loggers.due, List.foldl_append, ← hconsole]
  by_cases hdebug : Level.debug ≤ r.level
  · rw [if_pos hdebug] at hfile ⊢
    cases log? with
    | none => exact record_of_none hfile
    | some place => exact record_of_some hfile
  · rw [if_neg hdebug] at hfile ⊢
    exact record_of_none hfile

/-- **A record is written once** to the console and to the log file, as its level asks for. -/
theorem LogsTo.writtenOnce (h : w.LogsTo verbose log?) (r : Record) :
    WrittenOnce verbose log? r w (w.record r) := by
  have hfile := h.fileText_eq r
  by_cases hnone : w.journal.fileText w.stamp r = none
  · -- nothing but the console changes
    rw [record_of_none hnone]
    refine ⟨by rw [printError, h.consoleText_eq], ?_, fun _ _ => rfl, rfl⟩
    intro place hat
    subst hat
    obtain ⟨-, bytes, hbytes⟩ := h.opened place rfl
    have hdebug : ¬ Level.debug ≤ r.level := by
      intro hle
      rw [hnone, if_pos hle] at hfile
      cases hfile
    exact ⟨bytes, hbytes, by rw [if_neg hdebug, List.append_nil]; exact hbytes⟩
  · -- the log file is there, so the line is added to it
    obtain ⟨hdebug, place, rfl⟩ : Level.debug ≤ r.level ∧ ∃ place, log? = some place := by
      rw [hfile, ite_eq_right_iff, Classical.not_imp, Option.map_eq_none_iff] at hnone
      exact ⟨hnone.1, Option.ne_none_iff_exists'.1 hnone.2⟩
    rw [if_pos hdebug] at hfile
    obtain ⟨hlocate, bytes, hbytes⟩ := h.opened place rfl
    obtain ⟨files, happend, hlookup⟩ := FileTree.exists_append hlocate hbytes
      (Text.Utf8.encode (r.fileLine w.stamp).toList)
    have hrecord : w.record r = { w.printError (w.journal.consoleText r) with files := files } := by
      have hfiles : (w.printError (w.journal.consoleText r)).files = w.files := rfl
      rw [record_of_some hfile, addTo, hfiles, happend]
    rw [hrecord]
    refine ⟨by simp only [printError, h.consoleText_eq], ?_, ?_, rfl⟩
    · rintro l hl
      cases hl
      exact ⟨bytes, hbytes, by rw [hlookup, if_pos rfl, if_pos hdebug]⟩
    · intro l hl
      rw [hlookup, if_neg fun e => hl (by rw [e])]

end World

/-! ## Setups and records in any order -/

/-- A setup, or a record. -/
inductive LogStep where
  /-- The journal is set up. -/
  | setUp (verbose : Bool) (logFile : Option Path)
  /-- A message is recorded, by the name of its logger below the logger of the program. -/
  | record (name : Option String) (level : Level) (message : String)

namespace LogStep

/-- What a step does to the world. -/
def run : LogStep → Action FileFault Unit
  | .setUp verbose logFile => Action.setUpJournal verbose logFile
  | .record name level message => Action.record (.of name level message)

/-- What steps do to the world, up to the first one that fails. -/
def runAll : List LogStep → Action FileFault Unit
  | [] => pure ()
  | step :: steps => do
    step.run
    runAll steps

/-- What a step does to the loggers, in a working directory. -/
def apply (cwd : Location) (s : Loggers) : LogStep → Loggers
  | .setUp verbose logFile => s.setUp verbose (logFile.map (·.normal cwd))
  | .record .. => s

/-- A step that records a message. -/
def IsRecord : LogStep → Prop
  | .setUp .. => False
  | .record .. => True

end LogStep

/-- The loggers after some steps. -/
def Loggers.after (cwd : Location) (s : Loggers) (steps : List LogStep) : Loggers :=
  steps.foldl (LogStep.apply cwd) s

namespace LogStep

variable {w w' : World} {steps : List LogStep}

/-- Steps that end well do so one after the other. -/
theorem runAll_cons {step : LogStep} (h : runAll (step :: steps) w = (.ok (), w')) :
    ∃ w₁, step.run w = (.ok (), w₁) ∧ runAll steps w₁ = (.ok (), w') := by
  rw [runAll] at h
  cases hstep : step.run w with
  | mk r w₁ =>
    cases r with
    | error e =>
      rw [Action.bind_of_error hstep] at h
      cases h
    | ok u =>
      rw [Action.bind_of_ok hstep] at h
      exact ⟨w₁, rfl, h⟩

/-- No step moves to another working directory. -/
theorem cwd_of_run {step : LogStep} (h : step.run w = (.ok (), w')) : w'.cwd = w.cwd := by
  cases step with
  | setUp verbose logFile => exact (World.logsTo_setUpJournal h).2
  | record name level message =>
    cases h
    exact (World.onlyLogs_record _ w).cwd_eq

/-- Steps behind others are run from where these end. -/
theorem runAll_append {history : List LogStep} (h : runAll (history ++ steps) w = (.ok (), w')) :
    ∃ w₁, w₁.cwd = w.cwd ∧ runAll steps w₁ = (.ok (), w') := by
  induction history generalizing w with
  | nil => exact ⟨w, rfl, h⟩
  | cons step history ih =>
    obtain ⟨w₁, hstep, hrest⟩ := runAll_cons h
    obtain ⟨w₂, hcwd, hsteps⟩ := ih hrest
    exact ⟨w₂, hcwd.trans (cwd_of_run hstep), hsteps⟩

/-- Records leave a journal that is set up as it is. -/
theorem logsTo_of_records {verbose : Bool} {log? : Option Location} (hlogs : w.LogsTo verbose log?)
    (hsteps : ∀ step ∈ steps, step.IsRecord) (h : runAll steps w = (.ok (), w')) :
    w'.LogsTo verbose log? := by
  induction steps generalizing w with
  | nil =>
    cases h
    exact hlogs
  | cons step steps ih =>
    obtain ⟨hrecord, hrest⟩ := List.forall_mem_cons.1 hsteps
    obtain ⟨w₁, hstep, hrun⟩ := runAll_cons h
    cases step with
    | setUp verbose logFile => cases hrecord
    | record name level message =>
      cases hstep
      exact ih (hlogs.record _) hrest hrun

end LogStep

namespace Loggers

/-- A setup gives no level to a logger below that of the program. -/
theorem childrenOpen_setUp {s : Loggers} (h : s.thresholds.ChildrenOpen) (verbose : Bool)
    (log? : Option Location) : (s.setUp verbose log?).thresholds.ChildrenOpen := by
  rw [setUp_eq]
  exact h.insert _

/-- Nor do steps. -/
theorem childrenOpen_after {s : Loggers} (h : s.thresholds.ChildrenOpen) (cwd : Location)
    (steps : List LogStep) : (s.after cwd steps).thresholds.ChildrenOpen := by
  induction steps generalizing s with
  | nil => exact h
  | cons step steps ih =>
    cases step with
    | setUp verbose logFile => exact ih (childrenOpen_setUp h verbose _)
    | record name level message => exact ih h

/-- Records leave the loggers as they are. -/
theorem after_records (cwd : Location) (s : Loggers) {steps : List LogStep}
    (h : ∀ step ∈ steps, step.IsRecord) : s.after cwd steps = s := by
  induction steps with
  | nil => rfl
  | cons step steps ih =>
    obtain ⟨hrecord, hrest⟩ := List.forall_mem_cons.1 h
    cases step with
    | setUp verbose logFile => cases hrecord
    | record name level message => exact ih hrest

/-- **After any steps, the handlers are those of the last setup among them.** -/
theorem configured_after {s : Loggers} (h : s.thresholds.ChildrenOpen) (cwd : Location)
    (history : List LogStep) (verbose : Bool) (logFile : Option Path) {records : List LogStep}
    (hrecords : ∀ step ∈ records, step.IsRecord) :
    (s.after cwd (history ++ .setUp verbose logFile :: records)).Configured verbose
      (logFile.map (·.normal cwd)) := by
  have hsplit : s.after cwd (history ++ .setUp verbose logFile :: records) =
      ((s.after cwd history).setUp verbose (logFile.map (·.normal cwd))).after cwd records := by
    rw [after, List.foldl_append]
    rfl
  rw [hsplit, after_records cwd _ hrecords]
  exact configured_setUp (childrenOpen_after h cwd history) verbose _

end Loggers

/-- **After any steps, the journal is that of the last setup among them.** -/
theorem LogStep.logsTo_of_runAll {w w' : World} {history records : List LogStep} {verbose : Bool}
    {logFile : Option Path} (hrecords : ∀ step ∈ records, step.IsRecord)
    (h : runAll (history ++ .setUp verbose logFile :: records) w = (.ok (), w')) :
    w'.LogsTo verbose (logFile.map (·.normal w.cwd)) := by
  obtain ⟨w₁, hcwd, hrest⟩ := runAll_append h
  obtain ⟨w₂, hsetUp, hrun⟩ := runAll_cons hrest
  have hlogs := (World.logsTo_setUpJournal hsetUp).1
  rw [hcwd] at hlogs
  exact logsTo_of_records hlogs hrecords hrun

/-- **Every record is written once, and by the last setup alone.** Whatever handlers there are at first,
and after any setups and records that end well: the levels of the logger and of its handlers are those of
the journal; a record reaches the console of the last setup if its level is at least that of errors, or of
debugging when that setup was verbose; it reaches the log file of that setup, if there is one, if its level
is at least that of debugging; and it reaches no other handler, of an earlier setup or from elsewhere. What
these handlers write is what the record does to the world: one line on the console, one line in the log
file, and nothing besides. -/
theorem records_reach_last_setup (s : Loggers) (w w' : World) (history records : List LogStep)
    (verbose : Bool) (logFile : Option Path) (hchildren : s.thresholds.ChildrenOpen)
    (hrecords : ∀ step ∈ records, step.IsRecord)
    (hrun : LogStep.runAll (history ++ .setUp verbose logFile :: records) w = (.ok (), w'))
    (name : Option String) (level : Level) (message : String) :
    ∃ s', s.after w.cwd (history ++ .setUp verbose logFile :: records) = s' ∧
      s'.thresholds.effective (loggerName name) = w'.journal.level ∧
      s'.handlers.map (·.least) = w'.journal.outlets ∧
      s'.receivers (.of name level message) =
        (if (if verbose then .debug else .error) ≤ level then
          [⟨s'.setups, .console, if verbose then .debug else .error⟩] else []) ++
        (if .debug ≤ level then
          logFile.toList.map fun p => ⟨s'.setups, .file (p.normal w.cwd), .debug⟩ else []) ∧
      w'.record (.of name level message) =
        (s'.receivers (.of name level message)).foldl
          (fun w h => h.write (.of name level message) w) w' ∧
      World.WrittenOnce verbose (logFile.map (·.normal w.cwd)) (.of name level message) w'
        (w'.record (.of name level message)) := by
  have hconfigured := Loggers.configured_after hchildren w.cwd history verbose logFile hrecords
  have hlogs := LogStep.logsTo_of_runAll hrecords hrun
  refine ⟨_, rfl, ?_, ?_, ?_, ?_, hlogs.writtenOnce _⟩
  · rw [hconfigured.effective, hlogs.journal_eq]
  · rw [hconfigured.handlers, hlogs.journal_eq]
    cases logFile with
    | none => rfl
    | some p => rfl
  · rw [hconfigured.receivers_eq, Loggers.due, Journal.consoleLevel]
    cases logFile with
    | none => rfl
    | some p => rfl
  · rw [hconfigured.receivers_eq]
    exact hlogs.record_eq_writes _ _

/-- Loggers to which others attached handlers. -/
def Loggers.inUse : Loggers where
  setups := 0
  thresholds := Catalogue.insert (loggerName none) .error []
  handlers := [⟨0, .console, .warning⟩]
  propagates := true
  above := [⟨0, .console, .debug⟩]

/-- Two setups, both with a console that shows everything, and a record between them. -/
def LogStep.loudSetups : List LogStep :=
  [.setUp true none, .record (some "linking") .debug "one", .setUp true (some (Path.ofString "a.log"))]

/-- After a third setup that shows errors only, a warning reaches nothing but the log file of this setup. -/
theorem records_reach_last_setup_quietConsole :
    ∃ w', LogStep.runAll (LogStep.loudSetups ++ [.setUp false (some (Path.ofString "b.log")),
          .record none .error "two"]) (CommandLine.oneFile "a.ts" []) = (.ok (), w') ∧
      (Loggers.inUse.after [] (LogStep.loudSetups ++ [.setUp false (some (Path.ofString "b.log")),
          .record none .error "two"])).receivers (.of (some "extract") .warning "three") =
        [⟨3, .file ["b.log"], .debug⟩] ∧
      World.WrittenOnce false (some ["b.log"]) (.of (some "extract") .warning "three") w'
        (w'.record (.of (some "extract") .warning "three")) := by
  have hok : (LogStep.runAll (LogStep.loudSetups ++ [.setUp false (some (Path.ofString "b.log")),
      .record none .error "two"]) (CommandLine.oneFile "a.ts" [])).1 = .ok () := by decide +kernel
  have hnormal : (Path.ofString "b.log").normal [] = ["b.log"] := by decide +kernel
  obtain ⟨s', hs, -, -, hreceivers, -, honce⟩ := records_reach_last_setup Loggers.inUse
    (CommandLine.oneFile "a.ts" []) _ LogStep.loudSetups [.record none .error "two"] false
    (some (Path.ofString "b.log")) (Thresholds.ChildrenOpen.insert (fun _ => rfl) _)
    (by simp [LogStep.IsRecord]) (Prod.ext hok rfl) (some "extract") .warning "three"
  have hcwd : (CommandLine.oneFile "a.ts" []).cwd = [] := rfl
  have hsetups : s'.setups = 3 := by
    rw [← hs]
    rfl
  rw [Option.map_some, hcwd, hnormal] at honce
  refine ⟨_, Prod.ext hok rfl, ?_, honce⟩
  rw [← hcwd, hs, hreceivers, hsetups, hcwd]
  simp [hnormal, show ¬ Level.error ≤ Level.warning by decide, show Level.debug ≤ Level.warning by decide]

end TypeAtlas
