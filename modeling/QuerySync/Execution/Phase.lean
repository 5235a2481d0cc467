import QuerySync.Status

/-!
# Phases of an execution

An execution goes through phases.  Nothing follows a terminal phase.  A phase that
is not terminal is in progress, except for the one that says nothing was reported.

A phase is read from its name in any case, with hyphens or underscores and with
white space around it.
-/

namespace QuerySync

/-- The phase of an execution. -/
inductive Phase where
  /-- Not reported. -/
  | undefined
  /-- Accepted, and waiting for resources. -/
  | queued
  /-- Running. -/
  | running
  /-- About to succeed. -/
  | succeeding
  /-- Ended with success. -/
  | succeeded
  /-- About to fail. -/
  | failing
  /-- Ended with a failure. -/
  | failed
  /-- About to be aborted. -/
  | aborting
  /-- Aborted. -/
  | aborted
  /-- Ended by its deadline. -/
  | timedOut
  /-- Taken over from an earlier execution. -/
  | recovered
deriving DecidableEq, Repr

namespace Phase

/-- Every phase, in the order of a life. -/
def all : List Phase :=
  [undefined, queued, running, succeeding, succeeded, failing, failed, aborting, aborted, timedOut,
    recovered]

/-- The name of a phase. -/
def name : Phase → String
  | undefined => "undefined"
  | queued => "queued"
  | running => "running"
  | succeeding => "succeeding"
  | succeeded => "succeeded"
  | failing => "failing"
  | failed => "failed"
  | aborting => "aborting"
  | aborted => "aborted"
  | timedOut => "timed_out"
  | recovered => "recovered"

/-- Whether nothing follows a phase. -/
def isTerminal : Phase → Bool
  | succeeded | failed | aborted | timedOut | recovered => true
  | undefined | queued | running | succeeding | failing | aborting => false

/-- Whether a phase is in progress unless a view says otherwise. -/
def isInProgress (phase : Phase) : Bool := !phase.isTerminal && phase != undefined

/-- The names of the phases in progress. -/
def inProgressNames : List String := (all.filter isInProgress).map name

/-- The place of a phase among all of them. -/
def index (phase : Phase) : Nat := all.idxOf phase

/-- The phase with exactly a name. -/
def ofName? (text : String) : Option Phase := all.find? (·.name = text)

/-- The form in which names of phases are compared: a status with underscores for hyphens. -/
def normalizeName (text : String) : String :=
  String.ofList ((Status.normalize text).toList.map fun c => if c = '-' then '_' else c)

/-- The phase that a text names. -/
def ofText? (text : String) : Option Phase := ofName? (normalizeName text)

/-- What is said of a text that names no phase. -/
def unknownMessage (text : String) : String := s!"unknown execution phase `{text}`"

instance : HasStatus Phase := ⟨fun phase => some phase.name⟩

theorem mem_all (phase : Phase) : phase ∈ all := by cases phase <;> decide

/-- Phases are read from their names and from nothing else. -/
theorem ofName?_eq_some_iff {text : String} {phase : Phase} :
    ofName? text = some phase ↔ phase.name = text := by
  constructor
  · intro found
    simpa using List.find?_some found
  · rintro rfl
    cases phase <;> decide

example : ofText? " Timed-OUT" = some timedOut := by decide

end Phase

end QuerySync
