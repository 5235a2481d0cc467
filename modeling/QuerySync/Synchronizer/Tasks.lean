import QuerySync.Executor
import QuerySync.Synchronizer

/-!
# Tasks of a synchronizer

The watcher of the location, the cycles, and the loops of the poll timer.

The watcher starts one cycle whenever it runs and the location has changed since it
last looked.  A cycle that somebody waits for leaves its result on record, and holds
the synchronizer up to then.  A loop of the poll timer runs its cycles itself, so a
loop that is over drops the cycle it is in the middle of, and nothing is said of it.
-/

namespace QuerySync

namespace Synchronizer

variable {α : Type}

/-- A task of a synchronizer. -/
inductive Task (α : Type) where
  /-- The watcher, with the number of changes of the location that it has seen. -/
  | watcher (seen : Nat)
  /-- A cycle, with the number of the call of `syncNow` that waits for it. -/
  | cycle (caller : Option Nat) (cycle : Cycle α)
  /-- A loop of the poll timer. -/
  | timer (timer : Timer α)
  /-- A task that is over. -/
  | ended

/-! ## Steps -/

/-- One step of a cycle that is a task. -/
def stepCycle (sync : Synchronizer α) (now : Nat) (caller : Option Nat) (cycle : Cycle α) :
    Task α × Synchronizer α × List (Task α) :=
  let (cycle, sync, timers) := sync.advanceCycle now cycle
  match caller, cycle with
  | some call, .finished result =>
    let sync := { sync with finished := (call, now, result) :: sync.finished }
    (.ended, sync.release now, timers.map .timer)
  | none, .finished _ => (.ended, sync, timers.map .timer)
  | _, _ => (.cycle caller cycle, sync, timers.map .timer)

/-- Meets a deadline of the poll timer, or skips it. -/
def meet (sync : Synchronizer α) (now deadline : Nat) (timer : Timer α) :
    Timer α × Synchronizer α :=
  let following := timer.period.following now deadline
  if timer.period.isLate now deadline then
    ({ timer with stage := .waiting following },
      { sync with scheduler := sync.scheduler.countSkip })
  else
    ({ timer with stage := .working following (.unstarted .pollTick) },
      { sync with scheduler := sync.scheduler.countTick }.emit now .pollTick none none)

/-- One step of a loop of the poll timer. -/
def stepTimer (sync : Synchronizer α) (now : Nat) (timer : Timer α) :
    Task α × Synchronizer α × List (Task α) :=
  match timer.stage with
  | .unstarted =>
    (.timer { timer with stage := .waiting (now + timer.period.length) }, sync, [])
  | .waiting deadline =>
    if sync.scheduler.isOver timer.arming then (.ended, sync, [])
    else
      let (timer, sync) := sync.meet now deadline timer
      (.timer timer, sync, [])
  | .working deadline cycle =>
    if sync.scheduler.isOver timer.arming then (.ended, sync, [])
    else
      let (cycle, sync, timers) := sync.advanceCycle now cycle
      let stage := match cycle with
        | .finished _ => .waiting deadline
        | cycle => .working deadline cycle
      (.timer { timer with stage }, sync, timers.map .timer)
  | .ended => (.ended, sync, [])

/-- One step of a task. -/
def stepTask (now : Nat) (sync : Synchronizer α) :
    Task α → Task α × Synchronizer α × List (Task α)
  | .watcher _ =>
    if sync.disposed then (.ended, sync, [])
    else (.watcher sync.store.version, sync, [.cycle none (.unstarted .paramsChanged)])
  | .cycle caller cycle => sync.stepCycle now caller cycle
  | .timer timer => sync.stepTimer now timer
  | .ended => (.ended, sync, [])

/-! ## Waiting -/

/-- Whether a cycle can go on. -/
def canRunCycle (sync : Synchronizer α) (now : Nat) : Cycle α → Bool
  | .unstarted _ => true
  | .fetching pending => (pending.outcome? sync.controller now).isSome
  | .finished _ => false

/-- Whether a task can go on. -/
def canRun (now : Nat) (sync : Synchronizer α) : Task α → Bool
  | .watcher seen => sync.disposed || sync.store.hasChanged seen
  | .cycle _ cycle => sync.canRunCycle now cycle
  | .timer timer =>
    match timer.stage with
    | .unstarted => true
    | .waiting deadline => sync.scheduler.isOver timer.arming || deadline ≤ now
    | .working _ cycle => sync.scheduler.isOver timer.arming || sync.canRunCycle now cycle
    | .ended => false
  | .ended => false

/-- When the fetch of a cycle lands. -/
def cycleDue? : Cycle α → Option Nat
  | .fetching pending => pending.flight.due?
  | .unstarted _ | .finished _ => none

/-- When a task is due. -/
def due? : Task α → Option Nat
  | .cycle _ cycle => cycleDue? cycle
  | .timer timer =>
    match timer.stage with
    | .waiting deadline => some deadline
    | .working _ cycle => cycleDue? cycle
    | .unstarted | .ended => none
  | .watcher _ | .ended => none

/-! ## The program -/

/-- A bound on the steps of a cycle and of the loop that it may start. -/
def cycleRank : Cycle α → Nat
  | .unstarted _ => 4
  | .fetching _ => 3
  | .finished _ => 0

/-- A bound on the steps from a deadline of the poll timer on. -/
def deadlineRank (now : Nat) (timer : Timer α) (deadline : Nat) : Nat :=
  1 + 6 * timer.period.countUpTo now deadline

/-- A bound on the steps that a task and those it spawns can do at one time. -/
def rank (now : Nat) : Task α → Nat
  | .watcher _ => 6
  | .cycle _ cycle => cycleRank cycle
  | .timer timer =>
    match timer.stage with
    | .unstarted => 2
    | .waiting deadline => deadlineRank now timer deadline
    | .working deadline cycle => 1 + cycleRank cycle + deadlineRank now timer deadline
    | .ended => 0
  | .ended => 0

/-- What the tasks of a synchronizer do. -/
def program : Program (Synchronizer α) (Task α) where
  canRun := canRun
  step := stepTask
  due? := due?
  rank now _ := rank now

/-- A synchronizer with its watcher and its first cycle. -/
def start (sync : Synchronizer α) : Executor (Synchronizer α) (Task α) :=
  ({ state := sync } : Executor (Synchronizer α) (Task α)).act program sync
    [.watcher sync.store.version, .cycle none (.unstarted .initial)]

end Synchronizer

end QuerySync
