import QuerySync.Executor
import QuerySync.Request.Controller

/-!
# Runs of requests

Tasks that share a controller and a transport.  A `Run` takes a generation when it
starts, unless it was given one, then fetches, and waits until its fetch has landed
or its generation is cancelled.  It fetches nothing if its generation is cancelled
already.

What a run ends with is on record (`Finish`): the outcome that it delivered, or why it
did not deliver.
-/

namespace QuerySync

variable {α : Type}

/-- Where a run is. -/
inductive Run.Stage (α : Type) where
  /-- Before it takes a generation. -/
  | unissued
  /-- Before its fetch, with a generation. -/
  | issued (generation : Nat)
  /-- In the middle of its fetch. -/
  | fetching (pending : Pending α)
  /-- At its end. -/
  | finished

/-- A request. -/
structure Run (α : Type) where
  /-- Its number. -/
  index : Nat
  /-- What it asks. -/
  query : Query
  /-- Within what scope. -/
  scope : Scope
  /-- Where it is. -/
  stage : Run.Stage α

/-- The end of a run. -/
structure Finish (α : Type) where
  /-- The number of the run. -/
  run : Nat
  /-- The generation it had, if it had one. -/
  generation : Option Nat
  /-- When it ended. -/
  time : Nat
  /-- What it delivered, or why it did not. -/
  result : Except SyncError (Outcome α)

/-- What a caller gets who asks for data: the error of the fetch counts as one of the run. -/
def Finish.data (finish : Finish α) : Except SyncError α := do
  (← finish.result).mapError SyncError.ofFetchError

/-- What runs share. -/
structure Requests (α : Type) where
  /-- Who may deliver. -/
  controller : Controller := {}
  /-- What answers fetches. -/
  transport : Transport α
  /-- The runs that ended, newest first. -/
  finished : List (Finish α) := []

namespace Requests

/-- Ends a run. -/
def finish (requests : Requests α) (now : Nat) (run : Run α) (generation : Option Nat)
    (result : Except SyncError (Outcome α)) : Run α × Requests α :=
  let finish : Finish α := { run := run.index, generation, time := now, result }
  ({ run with stage := .finished }, { requests with finished := finish :: requests.finished })

/-- Delivers an outcome, or drops it. -/
def resolve (requests : Requests α) (now : Nat) (run : Run α) (generation : Nat)
    (outcome : Outcome α) : Run α × Requests α :=
  let (controller, error?) := requests.controller.resolve generation
  { requests with controller }.finish now run generation (error?.elim (.ok outcome) .error)

/-- Starts the fetch of a run. -/
def fetch (requests : Requests α) (now : Nat) (run : Run α) (generation : Nat) :
    Run α × Requests α :=
  let (transport, flight) := requests.transport.call now generation run.query run.scope
  ({ run with stage := .fetching { generation, flight } }, { requests with transport })

/-- One step of a run. -/
def step (requests : Requests α) (now : Nat) (run : Run α) : Run α × Requests α :=
  match run.stage with
  | .unissued =>
    match requests.controller.issue with
    | .error error => requests.finish now run none (.error error)
    | .ok (generation, controller) =>
      ({ run with stage := .issued generation }, { requests with controller })
  | .issued generation =>
    if requests.controller.isCancelled generation then
      requests.resolve now run generation (.error .cancelled)
    else requests.fetch now run generation
  | .fetching pending =>
    match pending.outcome? requests.controller now with
    | some outcome => requests.resolve now run pending.generation outcome
    | none => (run, requests)
  | .finished => (run, requests)

end Requests

namespace Run

/-- Whether a run can go on. -/
def canRun (now : Nat) (requests : Requests α) (run : Run α) : Bool :=
  match run.stage with
  | .unissued | .issued _ => true
  | .fetching pending => (pending.outcome? requests.controller now).isSome
  | .finished => false

/-- When the fetch of a run lands. -/
def due? (run : Run α) : Option Nat :=
  match run.stage with
  | .fetching pending => pending.flight.due?
  | .unissued | .issued _ | .finished => none

/-- The number of steps that are left to a run. -/
def rank (run : Run α) : Nat :=
  match run.stage with
  | .unissued => 3
  | .issued _ => 2
  | .fetching _ => 1
  | .finished => 0

/-- What runs do. -/
def program : Program (Requests α) (Run α) where
  canRun := canRun
  step now requests run :=
    let (run, requests) := requests.step now run
    (run, requests, [])
  due? := due?
  rank _ _ := rank

end Run

end QuerySync
