import TypeAtlas.Sink
import TypeAtlas.World

/-! # Handlers

A record passes two filters: the least level of its logger, then that of each handler that it reaches.
Setting up a journal sets both, and takes the handlers of earlier setups off the logger of the program.

* `Handler`, `Loggers`: the logger of the program with its handlers, and those of the loggers above.
* `Loggers.setUp`, `Loggers.receivers`: what a setup changes, and which handlers a record reaches.
* `Loggers.due`: the handlers that are to get a record, by the last setup alone.

Whatever was attached before, the handlers that a record reaches are those of the last setup
(`Loggers.configured_setUp`, `Loggers.Configured.receivers_eq`). -/

namespace TypeAtlas

/-! ## Levels of loggers -/

/-- The record of a message, by the name of its logger below the logger of the program. -/
def Record.of (name : Option String) (level : Level) (message : String) : Record :=
  ⟨level, loggerName name, message⟩

namespace Thresholds

/-- No logger below the logger of the program has a least level of its own. -/
def ChildrenOpen (t : Thresholds) : Prop :=
  ∀ n, ((Catalogue.find? (loggerName none ++ "." ++ n) t).filter (· ≠ 0)) = none

/-- A least level of the logger of the program is none of those below. -/
theorem ChildrenOpen.insert {t : Thresholds} (h : t.ChildrenOpen) (least : Level) :
    ChildrenOpen (Catalogue.insert (loggerName none) least t) := by
  intro n
  have hne : loggerName none ++ "." ++ n ≠ loggerName none := by
    intro e
    have hlength := congrArg String.length e
    simp only [String.length_append, show ".".length = 1 from rfl] at hlength
    omega
  rw [Catalogue.find?_insert_of_ne hne, h n]

/-- The loggers above one whose name starts with `top`: those of the rest of the name, below `top`, and
then `top` itself. -/
theorem lineage_concat (ps : List String) (top : String) :
    lineage (ps ++ [top]) = (lineage ps).map (top ++ "." ++ ·) ++ [top] := by
  induction ps with
  | nil => simp [lineage]
  | cons p ps ih =>
    have hname : String.intercalate "." (p :: (ps ++ [top])).reverse =
        top ++ "." ++ String.intercalate "." (p :: ps).reverse := by
      rw [← List.cons_append, List.reverse_append, List.reverse_singleton, List.singleton_append,
        String.intercalate_cons_of_ne_nil (by simp)]
    rw [List.cons_append, lineage, hname, ih, lineage, List.map_cons, List.cons_append]

/-- The loggers above a logger of the program, nearest first: loggers below that of the program, and then
that one. -/
theorem exists_lineage_loggerName (name : Option String) : ∃ ns : List String,
    lineage ((Text.splitAt '.' (loggerName name).toList).map String.ofList).reverse =
      ns.map (loggerName none ++ "." ++ ·) ++ [loggerName none] := by
  have hsingle : (Text.splitAt '.' (loggerName none).toList).map String.ofList = [loggerName none] := by
    decide
  by_cases hname : loggerName name = loggerName none
  · exact ⟨[], by rw [hname, hsingle]; rfl⟩
  · obtain ⟨n, hn⟩ : ∃ n, loggerName name = loggerName none ++ "." ++ n := by
      cases name with
      | none => exact absurd rfl hname
      | some n =>
        by_cases hn : n = ""
        · exact absurd (if_pos hn) hname
        · exact ⟨n, if_neg hn⟩
    have hchars : (loggerName name).toList = (loggerName none).toList ++ '.' :: n.toList := by
      rw [hn]
      simp
    rw [hchars, Text.splitAt_append_cons, List.map_append, hsingle, List.reverse_append,
      List.reverse_singleton, lineage_concat]
    exact ⟨_, rfl⟩

/-- A logger of the program without a level of its own has that of the logger of the program. -/
theorem effective_insert {t : Thresholds} (h : t.ChildrenOpen) {least : Level} (hleast : least ≠ 0)
    (name : Option String) :
    effective (Catalogue.insert (loggerName none) least t) (loggerName name) = least := by
  have htop : ((Catalogue.find? (loggerName none) (Catalogue.insert (loggerName none) least t)).filter
      (· ≠ 0)) = some least := by
    simp [hleast]
  obtain ⟨ns, hns⟩ := exists_lineage_loggerName name
  -- none of the loggers on the way up has a level
  have hnone : (ns.map (loggerName none ++ "." ++ ·)).findSome? (fun n =>
      (Catalogue.find? n (Catalogue.insert (loggerName none) least t)).filter (· ≠ 0)) = none := by
    rw [List.findSome?_eq_none_iff]
    intro n hn
    obtain ⟨m, -, rfl⟩ := List.mem_map.1 hn
    exact h.insert least m
  rw [effective]
  simp only [hns, List.findSome?_append, hnone, Option.none_or, List.findSome?_cons, htop]
  rfl

end Thresholds

/-! ## Handlers -/

/-- Where a handler writes. -/
inductive Outlet where
  /-- To the console. -/
  | console
  /-- To the file at a location. -/
  | file (place : Location)
  deriving DecidableEq, Repr

/-- A handler of a logger. -/
structure Handler where
  /-- The setup that attached it, by number. -/
  setup : Nat
  /-- Where it writes. -/
  outlet : Outlet
  /-- The least level that it writes. -/
  least : Level
  deriving DecidableEq, Repr

/-- A record as a line on the console. -/
def Record.consoleLine (r : Record) : String :=
  "[interface-docs] " ++ r.level.name ++ " " ++ r.message ++ "\n"

/-- A record as a line in a log file, at a point in time. -/
def Record.fileLine (stamp : String) (r : Record) : String :=
  stamp ++ " " ++ r.level.name ++ " " ++ r.logger ++ ": " ++ r.message ++ "\n"

/-- The world after a handler has written a record. -/
def Handler.write (h : Handler) (r : Record) (w : World) : World :=
  match h.outlet with
  | .console => w.printError r.consoleLine
  | .file place => w.addTo place (r.fileLine w.stamp)

/-- The logger of the program, and what is above it. The loggers below it have no handlers. -/
structure Loggers where
  /-- How often a journal was set up. -/
  setups : Nat
  /-- The least levels of loggers. -/
  thresholds : Thresholds
  /-- The handlers of the logger of the program. -/
  handlers : List Handler
  /-- Whether its records go on to the loggers above. -/
  propagates : Bool
  /-- The handlers of the loggers above. -/
  above : List Handler

namespace Loggers

/-- A handler is attached, unless it is already. -/
def add (h : Handler) (s : Loggers) : Loggers :=
  if h ∈ s.handlers then s else { s with handlers := s.handlers ++ [h] }

/-- A handler is taken off. -/
def remove (s : Loggers) (h : Handler) : Loggers := { s with handlers := s.handlers.erase h }

/-- Every handler that is attached is taken off. -/
def clear (s : Loggers) : Loggers := s.handlers.foldl remove s

/-- A setup begins: the logger of the program gets a least level, and its records stay with it. -/
def begin (least : Level) (s : Loggers) : Loggers :=
  { s with
    setups := s.setups + 1
    thresholds := Catalogue.insert (loggerName none) least s.thresholds
    propagates := false }

/-- A journal is set up: the level is set, the handlers of earlier setups are taken off, and the console
and the log file, if there is one, are attached. -/
def setUp (verbose : Bool) (log? : Option Location) (s : Loggers) : Loggers :=
  let cleared := (s.begin (if log?.isSome then .debug else Journal.consoleLevel verbose)).clear
  let shown := cleared.add ⟨cleared.setups, .console, Journal.consoleLevel verbose⟩
  match log? with
  | none => shown
  | some place => shown.add ⟨cleared.setups, .file place, .debug⟩

/-- The handlers that a record reaches: those that take its level, if its logger takes it. -/
def receivers (s : Loggers) (r : Record) : List Handler :=
  if s.thresholds.takes r.logger r.level then
    (s.handlers ++ if s.propagates then s.above else []).filter fun h => h.least ≤ r.level
  else []

/-- The handlers of one setup that are to get a record of a level. -/
def due (setup : Nat) (verbose : Bool) (log? : Option Location) (level : Level) : List Handler :=
  (if Journal.consoleLevel verbose ≤ level then
    [⟨setup, .console, Journal.consoleLevel verbose⟩] else []) ++
    if .debug ≤ level then log?.toList.map fun place => ⟨setup, .file place, .debug⟩ else []

/-- The handlers are those of the last setup, and records stay with the logger of the program. -/
structure Configured (verbose : Bool) (log? : Option Location) (s : Loggers) : Prop where
  /-- The loggers of the program have the level of the setup. -/
  effective : ∀ name, s.thresholds.effective (loggerName name) = Journal.level (.setUp verbose log?)
  /-- There is the console, and the log file if there is one. -/
  handlers : s.handlers = ⟨s.setups, .console, Journal.consoleLevel verbose⟩ ::
    log?.toList.map fun place => ⟨s.setups, .file place, .debug⟩
  /-- Records do not go on. -/
  propagates : s.propagates = false

/-- Taking off one handler after the other leaves none of them. -/
theorem foldl_remove (s : Loggers) (hs : List Handler) :
    hs.foldl remove { s with handlers := hs } = { s with handlers := [] } := by
  induction hs with
  | nil => rfl
  | cons h hs ih =>
    have hstep : remove { s with handlers := h :: hs } h = { s with handlers := hs } := by
      simp [remove]
    rw [List.foldl_cons, hstep, ih]

/-- No handler is left. -/
theorem clear_eq (s : Loggers) : s.clear = { s with handlers := [] } := foldl_remove s s.handlers

/-- What a setup leaves: the level, and the handlers that it attached. -/
theorem setUp_eq (verbose : Bool) (log? : Option Location) (s : Loggers) :
    s.setUp verbose log? =
      { s.begin (Journal.level (.setUp verbose log?)) with
        handlers := ⟨s.setups + 1, .console, Journal.consoleLevel verbose⟩ ::
          log?.toList.map fun place => ⟨s.setups + 1, .file place, .debug⟩ } := by
  cases log? with
  | none => simp [setUp, clear_eq, add, begin, Journal.level]
  | some place => simp [setUp, clear_eq, add, begin, Journal.level]

/-- The least level that is set is positive. -/
theorem level_pos (verbose : Bool) (log? : Option Location) :
    0 < Journal.level (.setUp verbose log?) := by
  cases log? with
  | none => cases verbose <;> decide
  | some place => exact (by decide : (0 : Level) < .debug)

/-- **After a setup, the handlers are those of this setup**, whichever were attached before. -/
theorem configured_setUp {s : Loggers} (h : s.thresholds.ChildrenOpen) (verbose : Bool)
    (log? : Option Location) : (s.setUp verbose log?).Configured verbose log? := by
  rw [setUp_eq]
  refine ⟨?_, rfl, rfl⟩
  intro name
  exact Thresholds.effective_insert h (Int.ne_of_gt (level_pos verbose log?)) name

/-- A logger takes a record if its level is at least that of the setup. -/
theorem Configured.takes_iff {verbose : Bool} {log? : Option Location} {s : Loggers}
    (h : s.Configured verbose log?) (name : Option String) (level : Level) :
    s.thresholds.takes (loggerName name) level = true ↔ Journal.level (.setUp verbose log?) ≤ level := by
  rw [Thresholds.takes, h.effective, Bool.and_eq_true, decide_eq_true_eq, decide_eq_true_eq]
  exact ⟨And.right, fun hle => ⟨Int.lt_of_lt_of_le (level_pos verbose log?) hle, hle⟩⟩

/-- **A record reaches the handlers of the last setup** that take its level, each of them once. The level
of the logger holds back nothing that one of them takes. -/
theorem Configured.receivers_eq {verbose : Bool} {log? : Option Location} {s : Loggers}
    (h : s.Configured verbose log?) (name : Option String) (level : Level) (message : String) :
    s.receivers (.of name level message) = due s.setups verbose log? level := by
  have htakes := h.takes_iff name level
  rw [receivers, h.propagates, h.handlers]
  simp only [Record.of, due]
  cases log? with
  | none =>
    -- the level of the logger is that of the console
    have hlevel : Journal.level (.setUp verbose none) = Journal.consoleLevel verbose := rfl
    rw [hlevel] at htakes
    by_cases hconsole : Journal.consoleLevel verbose ≤ level <;> simp [htakes, hconsole]
  | some place =>
    -- the level of the logger is that of the log file, and the console may ask for more
    have hlevel : Journal.level (.setUp verbose (some place)) = .debug := rfl
    rw [hlevel] at htakes
    have hmore : Level.debug ≤ Journal.consoleLevel verbose := by cases verbose <;> decide
    by_cases hfile : Level.debug ≤ level
    · by_cases hconsole : Journal.consoleLevel verbose ≤ level <;> simp [htakes, hfile, hconsole]
    · have hconsole : ¬ Journal.consoleLevel verbose ≤ level := fun hle => hfile (Int.le_trans hmore hle)
      simp [htakes, hfile, hconsole]

end Loggers

end TypeAtlas
