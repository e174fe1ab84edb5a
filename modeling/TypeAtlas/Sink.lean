import TypeAtlas.Journal

/-! # Sinks (specification §5)

Where diagnostics are sent. A sink keeps them, drops them, or records them with a logger that has a
least level of its own. Main definitions:

* `Sink`, `Sink.fanOut`: one message sent to several sinks in order.
* `Thresholds.effective`: the least level of a logger, taken over from the loggers above it if it
  has none. -/

namespace TypeAtlas

/-- Where diagnostics are sent. -/
inductive Sink where
  /-- To a list that keeps them. -/
  | collector
  /-- Nowhere. -/
  | discard
  /-- To a logger with a full name, as records of a level. -/
  | log (logger : String) (level : Level)
  deriving DecidableEq, Repr

/-- The least levels of loggers by full name; zero means none. -/
abbrev Thresholds := Catalogue String Level

namespace Thresholds

/-- The names of a logger and of those above it, parts given last first. -/
def lineage : List String → List String
  | [] => []
  | p :: r => String.intercalate "." (p :: r).reverse :: lineage r

/-- The least level of a logger. -/
def effective (t : Thresholds) (logger : String) : Level :=
  let names := lineage ((Text.splitAt '.' logger.toList).map String.ofList).reverse
  (names.findSome? fun n => (Catalogue.find? n t).filter (· ≠ 0)).getD .warning

/-- Whether a logger takes records of a level. -/
def takes (t : Thresholds) (logger : String) (level : Level) : Bool :=
  0 < level && t.effective logger ≤ level

end Thresholds

namespace Sink

/-- The record that a sink makes of a message. -/
def record? (t : Thresholds) (message : String) : Sink → Option Record
  | .log logger level => if t.takes logger level then some ⟨level, logger, message⟩ else none
  | _ => none

/-- The records that some sinks make of a message, in order. -/
def fanOut (t : Thresholds) (sinks : List Sink) (message : String) : List Record :=
  sinks.filterMap (record? t message)

/-- What each collector among some sinks keeps of some messages. -/
def collected (sinks : List Sink) (messages : List String) : List (List String) :=
  (sinks.filter (· = .collector)).map fun _ => messages

end Sink

end TypeAtlas
