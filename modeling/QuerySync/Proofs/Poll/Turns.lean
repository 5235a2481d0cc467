import Mathlib.Logic.Relation
import QuerySync.Poll.Action
import QuerySync.Proofs.Executor.Clock
import QuerySync.Proofs.Poll.Scheduler

/-!
# What can become of timer loops

Whatever is done to a poll timer, and whichever loop has a turn, comes down to two kinds of changes
(`Polling.Change`).  A loop does its next thing (`Polling.Turn`): it sets its first deadline, skips
a deadline or meets it, goes on with its work, ends its work, or ends for good.  Or the timer is
switched, which starts a loop at most.  A chore may be both, one after the other.

Only a loop that goes on gets to a deadline, and a loop that waits while it is over does nothing any
more but end.
-/

namespace QuerySync

/-- Whether a loop is in the middle of its work. -/
def Loop.isWorking {κ ω : Type} (loop : Loop κ ω) : Bool :=
  match loop.stage with
  | .working _ _ => true
  | .unstarted | .waiting _ | .ended => false

namespace Polling

/-- Whether a loop waits for something. -/
def Task.isSuspended (loop : Task) : Bool :=
  match loop.stage with
  | .waiting _ | .working _ (.asleep _ _) | .working _ .hung => true
  | .unstarted | .working _ (.doing _) | .ended => false

/-- Whether the loop of an arming goes on. -/
def goesOn (polling : Polling) (arming : Nat) : Bool := !polling.scheduler.isOver arming

/-- What a loop may do next at a time, the stage that takes it to, and what it makes of what loops
share. -/
inductive Turn (now : Nat) (polling : Polling) (loop : Task) :
    Loop.Stage Work → Polling → Prop where
  /-- It sets its first deadline. -/
  | begin (unstarted : loop.stage = .unstarted) :
      Turn now polling loop (.waiting (now + loop.period.length)) (polling.note now loop .began)
  /-- It skips a deadline. -/
  | skip {deadline : Nat} (waits : loop.stage = .waiting deadline)
      (goesOn : polling.goesOn loop.arming = true) (due : deadline ≤ now)
      (late : loop.period.isLate now deadline = true) :
      Turn now polling loop (.waiting (loop.period.following now deadline))
        ({ polling with scheduler := polling.scheduler.countSkip }.note now loop
          (.skipped deadline))
  /-- It meets a deadline, and calls its callback. -/
  | tick {deadline : Nat} (waits : loop.stage = .waiting deadline)
      (goesOn : polling.goesOn loop.arming = true) (due : deadline ≤ now)
      (inTime : loop.period.isLate now deadline = false) (work : Work)
      (callbacks : List (List (List Chore))) :
      Turn now polling loop (.working (loop.period.following now deadline) work)
        { { polling with scheduler := polling.scheduler.countTick }.note now loop
            (.ticked deadline) with callbacks }
  /-- It goes on with its work. -/
  | work {deadline : Nat} {before : Work} (works : loop.stage = .working deadline before)
      (awake : loop.isSuspended = true → polling.goesOn loop.arming = true) (after : Work) :
      Turn now polling loop (.working deadline after) polling
  /-- The call of its callback ends. -/
  | finish {deadline : Nat} (done : loop.stage = .working deadline (.doing [])) :
      Turn now polling loop (.waiting deadline) (polling.note now loop .finished)
  /-- It ends. -/
  | leave (suspended : loop.isSuspended = true) (isOver : polling.goesOn loop.arming = false) :
      Turn now polling loop .ended polling

/-- The timer is switched, and nothing is put on record. -/
structure Switches (before after : Polling) (loops : List Task) : Prop where
  scheduler : before.scheduler.Switch after.scheduler loops
  record : after.record = before.record

/-- A change of what loops share, and of the loops. -/
inductive Change (now : Nat) : Polling → List Task → Polling → List Task → Prop where
  | turn {polling after : Polling} {older newer : List Task} {loop : Task}
      {stage : Loop.Stage Work} (turn : Turn now polling loop stage after) :
      Change now polling (older ++ loop :: newer) after (older ++ { loop with stage } :: newer)
  | switch {polling after : Polling} {tasks loops : List Task}
      (switches : polling.Switches after loops) :
      Change now polling tasks after (tasks ++ loops)

/-- Changes at one time, one after the other. -/
def Changes (now : Nat) (polling : Polling) (tasks : List Task) (after : Polling)
    (later : List Task) : Prop :=
  Relation.ReflTransGen
    (fun before after : Polling × List Task => Change now before.1 before.2 after.1 after.2)
    (polling, tasks) (after, later)

variable {now : Nat} {polling after : Polling} {loop : Task} {stage : Loop.Stage Work}
  {tasks others loops : List Task}

/-- The one that goes on is the one that is armed. -/
theorem goesOn_iff {arming : Nat} :
    polling.goesOn arming = true ↔ polling.scheduler.armed = some arming := by
  simp [goesOn, Scheduler.isOver]

theorem goesOn_eq_false_iff {arming : Nat} :
    polling.goesOn arming = false ↔ polling.scheduler.isOver arming = true := by
  simp [goesOn]

/-! ## Lists of changes -/

namespace Changes

theorem refl (now : Nat) (polling : Polling) (tasks : List Task) :
    Changes now polling tasks polling tasks :=
  Relation.ReflTransGen.refl

theorem single (change : Change now polling tasks after others) :
    Changes now polling tasks after others :=
  Relation.ReflTransGen.single change

theorem tail {last : Polling} {rest : List Task} (first : Changes now polling tasks after others)
    (change : Change now after others last rest) : Changes now polling tasks last rest :=
  Relation.ReflTransGen.tail first change

/-- What every change keeps, changes keep. -/
theorem keeps {Property : Polling → List Task → Prop}
    (each : ∀ {polling tasks after others}, Property polling tasks →
      Change now polling tasks after others → Property after others)
    (changes : Changes now polling tasks after others) (holds : Property polling tasks) :
    Property after others := by
  have induct : ∀ {last : Polling × List Task},
      Relation.ReflTransGen (fun before after : Polling × List Task =>
        Change now before.1 before.2 after.1 after.2) (polling, tasks) last →
      Property last.1 last.2 := by
    intro last reaches
    induction reaches with
    | refl => exact holds
    | tail _ change induction => exact each induction change
  exact induct changes

end Changes

/-! ## Turns -/

/-- A chore goes on with the work, and may switch the timer. -/
theorem switches_doChore (polling : Polling) (now : Nat) (chore : Chore) (chores : List Chore) :
    polling.Switches (polling.doChore now chore chores).2.1
      (polling.doChore now chore chores).2.2 := by
  have same : polling.Switches polling [] := ⟨.keep rfl rfl id, rfl⟩
  cases chore with
  | wait duration => cases duration <;> exact same
  | hang => exact same
  | reschedule live => exact ⟨Scheduler.switch_reschedule polling.scheduler live, rfl⟩
  | stop => exact ⟨Scheduler.switch_stop polling.scheduler, rfl⟩

/-- A turn is a change of its loop, or one with what the chore at hand makes of the timer. -/
theorem changes_step (older newer : List Task) (able : canRun now polling loop = true) :
    Changes now polling (older ++ loop :: newer) (step now polling loop).2.1
      (older ++ (step now polling loop).1 :: newer ++ (step now polling loop).2.2) := by
  have turns {stage : Loop.Stage Work} {after : Polling}
      (turn : Turn now polling loop stage after) :
      Changes now polling (older ++ loop :: newer) after
        (older ++ { loop with stage } :: newer ++ []) := by
    rw [List.append_nil]
    exact .single (.turn turn)
  have leaves (suspended : loop.isSuspended = true)
      (isOver : polling.scheduler.isOver loop.arming = true) :=
    turns (.leave suspended (goesOn_eq_false_iff.2 isOver))
  unfold step
  cases stage : loop.stage with
  | unstarted => exact turns (.begin stage)
  | waiting deadline =>
    dsimp only
    split
    next isOver => exact leaves (by simp [Task.isSuspended, stage]) isOver
    next goesOn =>
      have goesOn : polling.goesOn loop.arming = true := by simpa [Polling.goesOn] using goesOn
      have due : deadline ≤ now := by
        simpa [canRun, stage, ← goesOn_eq_false_iff, goesOn] using able
      unfold meet
      dsimp only
      split
      next late => exact turns (.skip stage goesOn due late)
      next inTime => exact turns (.tick stage goesOn due (Bool.eq_false_iff.2 inTime) _ _)
  | working deadline work =>
    cases work with
    | doing chores =>
      have awake : loop.isSuspended = true → polling.goesOn loop.arming = true := by
        simp [Task.isSuspended, stage]
      cases chores with
      | nil => exact turns (.finish stage)
      | cons chore chores =>
        have works : Change now polling (older ++ loop :: newer) polling
            (older ++ { loop with
              stage := .working deadline (polling.doChore now chore chores).1 } :: newer) :=
          .turn (.work stage awake _)
        exact (Changes.single works).tail (.switch (switches_doChore polling now chore chores))
    | asleep alarm chores =>
      have suspended : loop.isSuspended = true := by simp [Task.isSuspended, stage]
      dsimp only
      split
      next isOver => exact leaves suspended isOver
      next goesOn =>
        have goesOn : polling.goesOn loop.arming = true := by simpa [Polling.goesOn] using goesOn
        exact turns (.work stage (fun _ => goesOn) (.doing chores))
    | hung =>
      refine leaves (by simp [Task.isSuspended, stage]) ?_
      simpa [canRun, stage] using able
  | ended => simp [canRun, stage] at able

/-! ## What never goes back -/

/-- A turn leaves the timer alone. -/
theorem Turn.scheduler (turn : Turn now polling loop stage after) :
    after.scheduler.arms = polling.scheduler.arms ∧
      after.scheduler.armed = polling.scheduler.armed ∧
      after.scheduler.setting = polling.scheduler.setting := by
  cases turn with
  | begin | skip | tick | work | finish | leave => exact ⟨rfl, rfl, rfl⟩

/-- No change brings a loop back that is over. -/
theorem Change.later (change : Change now polling tasks after others) :
    polling.scheduler.Later after.scheduler := by
  cases change with
  | turn turn =>
    obtain ⟨arms, armed, -⟩ := turn.scheduler
    exact Scheduler.later_of_eq arms armed
  | switch switches => exact switches.scheduler.later

theorem Changes.later (changes : Changes now polling tasks after others) :
    polling.scheduler.Later after.scheduler := by
  have each {before middle : Polling} {loops rest : List Task}
      (holds : polling.scheduler.Later before.scheduler)
      (change : Change now before loops middle rest) :
      polling.scheduler.Later middle.scheduler := holds.trans change.later
  exact changes.keeps each (Scheduler.later_of_eq rfl rfl)

/-! ## Steps -/

variable {bench last : Bench}

/-- A step of the queue comes down to changes. -/
theorem changes_turn (bench : Bench) :
    Changes bench.now bench.state bench.tasks (bench.step program).state
      (bench.step program).tasks := by
  rcases Executor.step_cases program bench with
    ⟨state, tasks⟩ | ⟨older, loop, newer, next, after, spawned, split, able, turn, state, tasks⟩
  · rw [state, tasks]
    exact .refl ..
  · have changes := changes_step older newer able
    rw [show step bench.now bench.state loop = _ from turn] at changes
    rw [state, tasks, split]
    exact changes

/-- Whether an action is done at once, and no loop has a turn meanwhile. -/
def Action.isImmediate : Action → Bool
  | configure _ _ | start _ _ | stop | reschedule _ => true
  | settle | advance _ => false

/-- A single step: somebody acts, the first loop of the queue has its turn, or the clock moves,
which it does while every loop waits. -/
inductive Step (bench : Bench) : Bench → Prop where
  | act {action : Action} (immediate : action.isImmediate = true) :
      Step bench (perform bench action)
  | turn : Step bench (bench.step program)
  | clock (time : Nat) (settled : bench.ready = []) (forward : bench.now ≤ time) :
      Step bench (bench.moveTo program time)

/-- An action from outside switches the timer. -/
theorem perform_eq_act (bench : Bench) {action : Action} (immediate : action.isImmediate = true) :
    ∃ after loops, perform bench action = bench.act program after loops ∧
      bench.state.Switches after loops := by
  cases action with
  | configure interval scripts =>
    exact ⟨_, _, rfl, Scheduler.switch_configure .., rfl⟩
  | start interval scripts => exact ⟨_, _, rfl, Scheduler.switch_start .., rfl⟩
  | stop => exact ⟨_, _, rfl, Scheduler.switch_stop _, rfl⟩
  | reschedule live => exact ⟨_, _, rfl, Scheduler.switch_reschedule .., rfl⟩
  | settle | advance => cases immediate

/-- A step is some changes, or a move of the clock. -/
theorem Step.changes (step : Step bench last) :
    bench.now = last.now ∧ Changes bench.now bench.state bench.tasks last.state last.tasks ∨
      bench.ready = [] ∧ bench.now ≤ last.now ∧ last.state = bench.state ∧
        last.tasks = bench.tasks := by
  cases step with
  | act immediate =>
    obtain ⟨after, loops, acts, switches⟩ := perform_eq_act bench immediate
    rw [acts]
    exact .inl ⟨rfl, .single (.switch switches)⟩
  | turn => exact .inl ⟨(Executor.now_step ..).symm, changes_turn bench⟩
  | clock time settled forward => exact .inr ⟨settled, forward, rfl, rfl⟩

end Polling

end QuerySync
