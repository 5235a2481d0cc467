/-!
# A single-threaded executor

Tasks share a state and a clock.  A task that can go on does so step by step until it
must wait, and no other task runs meanwhile.  New tasks and those that can go on stand
in a queue, each of them once.  Whatever makes a waiting task able to go on (a step of
another task, an action from outside, the clock) puts it at the end of the queue.  Of
several tasks that become able at once the oldest is first.

A `Program` says what the tasks do.  `Executor.settle` runs tasks until none can go
on, with the clock standing still.  `Executor.advance` moves the clock from one due
task to the next, and settles at each.
-/

namespace QuerySync

/-- What the tasks of a kind do with a shared state.  Times are in milliseconds. -/
structure Program (σ τ : Type) where
  /-- Whether a task can go on at a time. -/
  canRun : Nat → σ → τ → Bool
  /-- One step of a task that can go on at a time, and the tasks that it spawns. -/
  step : Nat → σ → τ → τ × σ × List τ
  /-- The time from which a waiting task can go on, if nothing else happens before. -/
  due? : τ → Option Nat
  /-- A bound on the steps that a task and those it spawns can do at one time. -/
  rank : Nat → σ → τ → Nat

/-- A clock, a state, and the tasks that share them. -/
structure Executor (σ τ : Type) where
  /-- The time. -/
  now : Nat := 0
  /-- The state. -/
  state : σ
  /-- The tasks, oldest first.  A task is known by its place. -/
  tasks : List τ := []
  /-- The tasks in the queue. -/
  ready : List Nat := []

namespace Executor

variable {σ τ : Type}

/-! ## Single steps -/

/-- The tasks that can go on, oldest first. -/
def able (program : Program σ τ) (executor : Executor σ τ) : List Nat :=
  (executor.tasks.zipIdx.filter fun (task, _) =>
    program.canRun executor.now executor.state task).map (·.2)

/-- Puts the tasks that can go on into the queue. -/
def wake (program : Program σ τ) (executor : Executor σ τ) : Executor σ τ :=
  { executor with
    ready := executor.ready ++ (executor.able program).filter (!executor.ready.contains ·) }

/-- Adds tasks, and puts them into the queue. -/
def spawn (executor : Executor σ τ) (spawned : List τ) : Executor σ τ :=
  { executor with
    tasks := executor.tasks ++ spawned
    ready := executor.ready ++ List.range' executor.tasks.length spawned.length }

/-- Changes the state, and spawns tasks after those that the change wakes. -/
def act (program : Program σ τ) (executor : Executor σ τ) (state : σ) (spawned : List τ) :
    Executor σ τ :=
  ({ executor with state }.wake program).spawn spawned

/-- Lets the first task of the queue do a step, or takes it out of the queue if it must wait. -/
def step (program : Program σ τ) (executor : Executor σ τ) : Executor σ τ :=
  match executor.ready with
  | [] => executor
  | first :: rest =>
    match executor.tasks[first]? with
    | none => { executor with ready := rest }
    | some task =>
      if program.canRun executor.now executor.state task then
        let (task, state, spawned) := program.step executor.now executor.state task
        { executor with tasks := executor.tasks.set first task }.act program state spawned
      else { executor with ready := rest }

/-- Moves the clock. -/
def moveTo (program : Program σ τ) (executor : Executor σ τ) (time : Nat) : Executor σ τ :=
  { executor with now := time }.wake program

/-! ## Runs -/

/-- Runs tasks until the queue is empty, for a number of steps at most. -/
def settleWithin (program : Program σ τ) : Nat → Executor σ τ → Executor σ τ
  | 0, executor => executor
  | fuel + 1, executor =>
    if executor.ready.isEmpty then executor else settleWithin program fuel (executor.step program)

/-- A bound on the steps until the queue is empty.  A task leaves the queue once for
each time it goes in, and it goes in only to do a step. -/
def stepBound (program : Program σ τ) (executor : Executor σ τ) : Nat :=
  executor.ready.length +
    2 * (executor.tasks.map (program.rank executor.now executor.state)).foldr (· + ·) 0

/-- Runs tasks until none can go on. -/
def settle (program : Program σ τ) (executor : Executor σ τ) : Executor σ τ :=
  executor.settleWithin program (executor.stepBound program)

/-- The first time after now and up to a limit at which a task is due. -/
def nextDue? (program : Program σ τ) (executor : Executor σ τ) (limit : Nat) : Option Nat :=
  ((executor.tasks.filterMap program.due?).filter fun time =>
    executor.now < time && time ≤ limit).min?

/-- Moves the clock to each time up to a limit at which a task is due, and settles there. -/
def followDue (program : Program σ τ) (limit : Nat) : Nat → Executor σ τ → Executor σ τ
  | 0, executor => executor
  | fuel + 1, executor =>
    match executor.nextDue? program limit with
    | none => executor
    | some time =>
      followDue program limit fuel ((executor.moveTo program time).settle program)

/-- Lets time go by.  There are no more times to stop at than milliseconds. -/
def advance (program : Program σ τ) (executor : Executor σ τ) (duration : Nat) : Executor σ τ :=
  let limit := executor.now + duration
  ((followDue program limit duration (executor.settle program)).moveTo program limit).settle
    program

end Executor

end QuerySync
