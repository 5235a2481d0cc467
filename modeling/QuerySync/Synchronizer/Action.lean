import QuerySync.Synchronizer.Tasks

/-!
# Acting on a synchronizer

What can be done with a synchronizer and its tasks from outside, one action at a time.
An action that a disposed synchronizer refuses does nothing.
-/

namespace QuerySync.Synchronizer

variable {α : Type}

/-- A synchronizer and its tasks. -/
abbrev Bench (α : Type) := Executor (Synchronizer α) (Task α)

/-- An action on a synchronizer. -/
inductive Action (α : Type) where
  /-- Does an edit to the location. -/
  | mutate (edit : Edit)
  /-- Writes parameters to the location. -/
  | write (params : Params)
  /-- Starts a cycle. -/
  | refresh
  /-- Starts a cycle, and leaves its result on record under a number. -/
  | syncNow (call : Nat)
  /-- Dismisses the error. -/
  | dismissError
  /-- Ends everything. -/
  | dispose
  /-- Lets go of the synchronizer. -/
  | drop
  /-- Adds a reply after the others. -/
  | addReply (reply : Reply α)
  /-- Sets the reply when there is no other. -/
  | setLastResort (reply : Reply α)
  /-- Lets every task go on as far as it can. -/
  | settle
  /-- Lets time go by. -/
  | advance (duration : Nat)

/-- Changes the synchronizer. -/
def change (bench : Bench α) (sync : Synchronizer α) : Bench α := bench.act program sync []

/-- Does an action. -/
def perform (bench : Bench α) : Action α → Bench α
  | .mutate edit =>
    match bench.state.mutate edit with
    | .error _ => bench
    | .ok (_, sync) => change bench sync
  | .write params => change bench (bench.state.write params)
  | .refresh =>
    match bench.state.refresh with
    | .error _ => bench
    | .ok cycle => bench.act program bench.state [.cycle none cycle]
  | .syncNow call =>
    bench.act program bench.state.hold [.cycle (some call) (.unstarted .manual)]
  | .dismissError => change bench bench.state.dismissError
  | .dispose => change bench (bench.state.dispose bench.now)
  | .drop => change bench (bench.state.release bench.now)
  | .addReply reply => change bench (bench.state.addReply reply)
  | .setLastResort reply => change bench (bench.state.setLastResort reply)
  | .settle => bench.settle program
  | .advance duration => bench.advance program duration

end QuerySync.Synchronizer
