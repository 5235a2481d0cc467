/-!
# Events

What a synchronizer does with its fetches and its timer, one event for each step.
An `EventLog` keeps the newest events, oldest first.  A full log drops its oldest
event for a new one.
-/

namespace QuerySync

/-- What happened. -/
inductive EventKind where
  /-- A fetch cycle started. -/
  | fetchStarted
  /-- The data of a fetch is shown now. -/
  | fetchApplied
  /-- A fetch failed, and its message is shown now. -/
  | fetchFailed
  /-- What a fetch gave was dropped. -/
  | fetchDiscarded
  /-- The poll timer was armed. -/
  | pollArmed
  /-- The poll timer was disarmed. -/
  | pollDisarmed
  /-- The poll timer fired. -/
  | pollTick
  /-- The synchronizer was disposed of. -/
  | disposed
deriving DecidableEq, Repr

namespace EventKind

/-- Every kind. -/
def all : List EventKind :=
  [fetchStarted, fetchApplied, fetchFailed, fetchDiscarded, pollArmed, pollDisarmed, pollTick,
    disposed]

/-- The name of a kind. -/
def name : EventKind → String
  | fetchStarted => "fetch_started"
  | fetchApplied => "fetch_applied"
  | fetchFailed => "fetch_failed"
  | fetchDiscarded => "fetch_discarded"
  | pollArmed => "poll_armed"
  | pollDisarmed => "poll_disarmed"
  | pollTick => "poll_tick"
  | disposed => "disposed"

end EventKind

/-- One event. -/
structure Event where
  /-- The name of the view. -/
  view : String
  /-- What happened. -/
  kind : EventKind
  /-- The generation of the fetch, for an event about a fetch. -/
  generation : Option Nat := none
  /-- What else there is to say. -/
  detail : Option String := none
deriving DecidableEq, Repr

/-- The newest events. -/
structure EventLog where
  /-- The number of events that the log is made for. -/
  capacity : Nat
  /-- The events, oldest first. -/
  events : List Event := []
deriving DecidableEq, Repr

namespace EventLog

/-- Adds an event, and drops the oldest one first if the log is full. -/
def record (log : EventLog) (event : Event) : EventLog :=
  { log with
    events := (if log.events.length < log.capacity then log.events else log.events.drop 1) ++
      [event] }

/-- The kinds of the events, oldest first. -/
def kinds (log : EventLog) : List EventKind := log.events.map (·.kind)

/-- The number of events of a kind. -/
def count (log : EventLog) (kind : EventKind) : Nat := log.events.countP (·.kind = kind)

end EventLog

end QuerySync
