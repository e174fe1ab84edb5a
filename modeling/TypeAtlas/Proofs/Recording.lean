import TypeAtlas.World
import TypeAtlas.Proofs.FileFrame

/-! # What records change

`World.record` writes to the console and to the log file, if the journal has one. Nothing else changes,
and what is in the log file stays at its start.

* `World.recordAll`: a world after some records.
* `World.logFile?`: where the log file is.
* `World.OnlyLogs`: a world and what records can make of it.

Main statements: `World.onlyLogs_record` for one record, `World.onlyLogs_recordAll` for any number of
them. -/

namespace TypeAtlas

/-- Only a journal with a log file has a text for it. -/
theorem Journal.eq_setUp_of_fileText {j : Journal} {stamp : String} {r : Record} {place : Location}
    {text : String} (h : j.fileText stamp r = some (place, text)) :
    ∃ verbose, j = .setUp verbose (some place) := by
  match j with
  | .plain => cases h
  | .setUp verbose none => cases h
  | .setUp verbose (some l) =>
    rw [fileText] at h
    split at h
    · cases h
      exact ⟨verbose, rfl⟩
    · cases h

namespace World

/-- The world after some records, in order. -/
def recordAll (rs : List Record) (w : World) : World := rs.foldl (fun w r => w.record r) w

/-- Where the log file is, if the journal has one. -/
def logFile? (w : World) : Option Location :=
  match w.journal with
  | .setUp _ (some place) => (w.files.locate [] (Path.absolute place)).toOption
  | _ => none

/-- The log file is found by the journal and the directories. -/
theorem logFile?_congr {w w' : World} (hjournal : w'.journal = w.journal)
    (hfiles : FileTree.SameDirectories w.files w'.files) : w'.logFile? = w.logFile? := by
  rw [logFile?, logFile?, hjournal]
  split
  · rename_i place _
    have hlocate : ∀ l, w.files.locate [] (Path.absolute place) = .ok l ↔
        w'.files.locate [] (Path.absolute place) = .ok l := fun l =>
      FileTree.locate_eq_ok_iff hfiles [] (Path.absolute place)
    cases h : w.files.locate [] (Path.absolute place) with
    | ok l => rw [(hlocate l).1 h]
    | error e =>
      cases h' : w'.files.locate [] (Path.absolute place) with
      | ok l => rw [(hlocate l).2 h'] at h; cases h
      | error e' => rfl
  · rfl

/-- The log file is the one that the journal names. -/
theorem logFile?_of_setUp {w : World} {verbose : Bool} {place l : Location}
    (hjournal : w.journal = .setUp verbose (some place))
    (hlocate : w.files.locate [] (Path.absolute place) = .ok l) : w.logFile? = some l := by
  rw [logFile?, hjournal]
  simp only [hlocate]
  rfl

/-- What records can make of a world: apart from the console, only the log file is another, and it
starts with what was in it. -/
structure OnlyLogs (w w' : World) : Prop where
  /-- Output is as it was. -/
  stdout_eq : w'.stdout = w.stdout
  /-- The working directory is as it was. -/
  cwd_eq : w'.cwd = w.cwd
  /-- The journal is as it was. -/
  journal_eq : w'.journal = w.journal
  /-- Files and directories are as they were, up to the log. -/
  holds : ∀ l, w'.files.Holds w.logFile? l (w.files.lookup? l)

namespace OnlyLogs

variable {w w' w'' : World}

/-- Records make no directory and take none away. -/
theorem sameDirectories (h : w.OnlyLogs w') : FileTree.SameDirectories w.files w'.files :=
  FileTree.sameDirectories_of_holds h.holds

/-- The log file stays where it is. -/
theorem logFile?_eq (h : w.OnlyLogs w') : w'.logFile? = w.logFile? :=
  logFile?_congr h.journal_eq h.sameDirectories

theorem refl (w : World) : w.OnlyLogs w := ⟨rfl, rfl, rfl, fun _ => .inl rfl⟩

theorem trans (h : w.OnlyLogs w') (h' : w'.OnlyLogs w'') : w.OnlyLogs w'' where
  stdout_eq := h'.stdout_eq.trans h.stdout_eq
  cwd_eq := h'.cwd_eq.trans h.cwd_eq
  journal_eq := h'.journal_eq.trans h.journal_eq
  holds l := by
    have hlater := h'.holds l
    rw [h.logFile?_eq] at hlater
    exact hlater.trans (h.holds l)

/-- Records before some output might as well come after it. -/
theorem print (h : w.OnlyLogs w') (text : String) : (w.print text).OnlyLogs (w'.print text) :=
  ⟨congrArg (· ++ text) h.stdout_eq, h.cwd_eq, h.journal_eq, h.holds⟩

/-- A file that is written between records: output is as it was, the file is where its path led from
the start and holds what was written, and nothing else changes, all of it up to the log. -/
theorem holds_of_write {p : Path} {bytes : List UInt8} {files : FileTree} (h : w.OnlyLogs w')
    (hwrite : w'.files.write w'.cwd p bytes = .ok files)
    (h' : OnlyLogs { w' with files } w'') :
    ∃ place, w.files.locate w.cwd p = .ok place ∧
      w''.files.Holds w.logFile? place (some (.file bytes)) ∧
      ∀ l, l ≠ place → w''.files.Holds w.logFile? l (w.files.lookup? l) := by
  obtain ⟨place, hlocate, hfile, hlookup⟩ := FileTree.lookup?_write hwrite
  have hdirectories : FileTree.SameDirectories w'.files files :=
    FileTree.sameDirectories_of_lookup? hfile hlookup
  have hsame : logFile? { w' with files } = w'.logFile? := logFile?_congr rfl hdirectories
  have hlog : logFile? { w' with files } = w.logFile? := hsame.trans h.logFile?_eq
  have hlater : ∀ l, w''.files.Holds w.logFile? l (files.lookup? l) := fun l => hlog ▸ h'.holds l
  refine ⟨place, ?_, ?_, fun l hl => ?_⟩
  · rw [h.cwd_eq] at hlocate
    exact (FileTree.locate_eq_ok_iff h.sameDirectories w.cwd p).2 hlocate
  · have hat := hlater place
    rwa [hlookup, if_pos rfl] at hat
  · have hl' := hlater l
    rw [hlookup, if_neg hl] at hl'
    exact hl'.trans (h.holds l)

end OnlyLogs

/-- Text that is added to the log file. -/
theorem onlyLogs_addTo {w : World} {verbose : Bool} {place : Location}
    (hjournal : w.journal = .setUp verbose (some place)) (text : String) :
    w.OnlyLogs (w.addTo place text) := by
  rw [addTo]
  split
  · rename_i files happend
    obtain ⟨l, hlocate, hfile, hlookup⟩ := FileTree.lookup?_append happend
    refine ⟨rfl, rfl, rfl, fun l' => ?_⟩
    by_cases hl : l' = l
    · subst hl
      exact .inr ⟨logFile?_of_setUp hjournal hlocate, hfile, _, by rw [hlookup, if_pos rfl]⟩
    · exact .inl (by rw [hlookup, if_neg hl])
  · exact .refl w

/-- **One record** goes to the console and the log file only. -/
theorem onlyLogs_record (r : Record) (w : World) : w.OnlyLogs (w.record r) := by
  have hconsole : w.OnlyLogs (w.printError (w.journal.consoleText r)) :=
    ⟨rfl, rfl, rfl, fun _ => .inl rfl⟩
  rw [record]
  split
  · exact hconsole
  · rename_i place text hsome
    obtain ⟨verbose, hjournal⟩ := Journal.eq_setUp_of_fileText hsome
    exact hconsole.trans (onlyLogs_addTo hjournal text)

/-- **Any number of records** go to the console and the log file only. -/
theorem onlyLogs_recordAll (rs : List Record) (w : World) : w.OnlyLogs (w.recordAll rs) := by
  induction rs generalizing w with
  | nil => exact .refl w
  | cons r rs ih => exact (onlyLogs_record r w).trans (ih (w.record r))

end World

end TypeAtlas
