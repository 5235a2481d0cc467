import QuerySync.Request.Run

/-!
# Acting on requests

What can be done with a controller and its runs from outside, one action at a time.
A generation may be taken without a run, and a run may be started for any generation,
also for one that was cancelled or has delivered.  A run is numbered by its place
among the tasks.
-/

namespace QuerySync.Requests

variable {α : Type}

/-- Runs that share a controller and a transport. -/
abbrev Bench (α : Type) := Executor (Requests α) (Run α)

/-- An action on requests. -/
inductive Action where
  /-- Takes a generation. -/
  | issue
  /-- Starts a run, which takes a generation of its own. -/
  | run (query : Query) (scope : Scope)
  /-- Starts a run of a generation. -/
  | runIssued (generation : Nat) (query : Query) (scope : Scope)
  /-- Cancels the active generation. -/
  | cancel
  /-- Cancels the active generation, and accepts no further request. -/
  | dispose
  /-- Lets every run go on as far as it can. -/
  | settle
  /-- Lets time go by. -/
  | advance (duration : Nat)
deriving DecidableEq, Repr

/-- Changes the controller. -/
def control (bench : Bench α) (controller : Controller) : Bench α :=
  bench.act Run.program { bench.state with controller } []

/-- Starts a run. -/
def startRun (bench : Bench α) (query : Query) (scope : Scope) (stage : Run.Stage α) : Bench α :=
  bench.act Run.program bench.state [{ index := bench.tasks.length, query, scope, stage }]

/-- Does an action.  Taking a generation does nothing after the end of the controller. -/
def perform (bench : Bench α) : Action → Bench α
  | .issue =>
    match bench.state.controller.issue with
    | .error _ => bench
    | .ok (_, controller) => control bench controller
  | .run query scope => startRun bench query scope .unissued
  | .runIssued generation query scope => startRun bench query scope (.issued generation)
  | .cancel => control bench bench.state.controller.cancel
  | .dispose => control bench bench.state.controller.dispose
  | .settle => bench.settle Run.program
  | .advance duration => bench.advance Run.program duration

end QuerySync.Requests
