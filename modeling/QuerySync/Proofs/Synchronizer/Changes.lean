import Mathlib.Logic.Relation
import QuerySync.Proofs.Synchronizer.Settling

/-!
# What can change

Whatever is done to a synchronizer, and whoever has a turn, comes down to a few changes of the
synchronizer and its tasks (`Change`).  Most of them need one task: it takes a generation, has
its fetch committed or dropped, meets a deadline, or leaves its work.  The others come from
outside.  A change says what it needs, so that nobody has to look into a turn again: a
synchronizer that is over has no generation to give, and a loop that is over has no deadline.

A turn is one change, or a change with those that the end of a call of `syncNow` brings
(`changes_stepTask`), and a run is a list of changes (`Reaches.changes`).  So a property that every
change keeps holds from any moment on (`Changes.keeps`).
-/

namespace QuerySync

variable {α : Type}

/-- A cycle that has not ended. -/
def Cycle.open? : Cycle α → Option (Cycle α)
  | .finished _ => none
  | cycle => some cycle

namespace Synchronizer

/-- The arming of a loop of the poll timer. -/
def Task.arming? : Task α → Option Nat
  | .timer loop => some loop.arming
  | .watcher _ | .cycle _ _ | .ended => none

/-- A cycle that somebody else than the poll timer starts. -/
inductive Task.Fresh : Task α → Prop where
  | cycle (caller : Option Nat) {cause : Cause} (outside : cause ≠ .pollTick) :
      Task.Fresh (.cycle caller (.unstarted cause))

/-- A task has a fetch that ends with an outcome, and has none after that. -/
structure Lands (sync : Synchronizer α) (now : Nat) (task next : Task α) (pending : Pending α)
    (outcome : Outcome α) : Prop where
  fetching : task.cycle? = some (.fetching pending)
  /-- The fetch has landed, or its generation was cancelled. -/
  landed : pending.outcome? sync.controller now = some outcome
  goesOn : sync.isOver task = false
  idle : next.cycle? = none
  arming : next.arming? = task.arming?

/-- Nobody may deliver from now on. -/
def deactivate (sync : Synchronizer α) : Synchronizer α :=
  { sync with controller := { sync.controller with active := none } }

/-- A change of a synchronizer and its tasks. -/
inductive Change : Synchronizer α → List (Task α) → Synchronizer α → List (Task α) → Prop where
  /-- The location is written to. -/
  | write {sync : Synchronizer α} {tasks : List (Task α)} (params : Params) :
      Change sync tasks (sync.write params) tasks
  /-- There are other replies to come. -/
  | reply {sync : Synchronizer α} {tasks : List (Task α)} {transport : Transport α}
      (calls : transport.calls = sync.transport.calls) :
      Change sync tasks { sync with transport } tasks
  /-- There are more holders, or less. -/
  | hold {sync : Synchronizer α} {tasks : List (Task α)} (holders : Nat) :
      Change sync tasks { sync with holders } tasks
  /-- A call of `syncNow` ends. -/
  | record {sync : Synchronizer α} {tasks : List (Task α)} (call now : Nat)
      {result : Except SyncError Unit}
      (refused : sync.controller.disposed = true → result = .error .disposed) :
      Change sync tasks { sync with finished := (call, now, result) :: sync.finished } tasks
  /-- The error is dismissed. -/
  | dismissError {sync : Synchronizer α} {tasks : List (Task α)}
      (active : sync.disposed = false) :
      Change sync tasks { sync with snapshot := sync.snapshot.dismissError } tasks
  /-- Everything ends. -/
  | dispose {sync : Synchronizer α} {tasks : List (Task α)} (now : Nat)
      (active : sync.disposed = false) : Change sync tasks (sync.dispose now) tasks
  /-- Cycles are started. -/
  | spawn {sync : Synchronizer α} {tasks spawned : List (Task α)}
      (fresh : ∀ task ∈ spawned, task.Fresh) : Change sync tasks sync (tasks ++ spawned)
  /-- A task that has no fetch, or is over, has nothing to do any more. -/
  | leave {sync : Synchronizer α} {older newer : List (Task α)} {task next : Task α}
      (gone : task.pending? = none ∨ sync.isOver task = true) (idle : next.cycle? = none)
      (arming : ∀ arming ∈ next.arming?, arming ∈ task.arming?) :
      Change sync (older ++ task :: newer) sync (older ++ next :: newer)
  /-- A loop skips a deadline. -/
  | skip {sync : Synchronizer α} {older newer : List (Task α)} {timer : Timer α}
      {deadline following : Nat} (waits : timer.stage = .waiting deadline)
      (goesOn : sync.scheduler.isOver timer.arming = false) :
      Change sync (older ++ .timer timer :: newer)
        { sync with scheduler := sync.scheduler.countSkip }
        (older ++ .timer { timer with stage := .waiting following } :: newer)
  /-- A loop meets a deadline, and starts a cycle. -/
  | tick {sync : Synchronizer α} {older newer : List (Task α)} {timer : Timer α}
      {deadline following : Nat} (now : Nat) (waits : timer.stage = .waiting deadline)
      (goesOn : sync.scheduler.isOver timer.arming = false) :
      Change sync (older ++ .timer timer :: newer)
        ({ sync with scheduler := sync.scheduler.countTick }.emit now .pollTick none none)
        (older ++
          .timer { timer with stage := .working following (.unstarted .pollTick) } :: newer)
  /-- A cycle begins, with a generation. -/
  | begin {sync : Synchronizer α} {older newer : List (Task α)} {task next : Task α}
      {now generation : Nat} {cause : Cause} {controller : Controller}
      (unstarted : task.cycle? = some (.unstarted cause)) (active : sync.disposed = false)
      (goesOn : sync.isOver task = false)
      (issued : sync.controller.issue = .ok (generation, controller))
      (fetching : next.cycle? = some (sync.begin now cause).1)
      (arming : next.arming? = task.arming?) :
      Change sync (older ++ task :: newer) (sync.begin now cause).2 (older ++ next :: newer)
  /-- The active fetch is committed. -/
  | commit {sync : Synchronizer α} {older newer : List (Task α)} {task next : Task α}
      {now : Nat} {pending : Pending α} {outcome : Outcome α}
      (lands : sync.Lands now task next pending outcome)
      (current : sync.controller.isCurrent pending.generation = true) :
      Change sync (older ++ task :: newer)
        (sync.deactivate.commit now pending.generation outcome).1
        (older ++ next :: newer ++
          (sync.deactivate.commit now pending.generation outcome).2.map .timer)
  /-- Any other fetch is dropped. -/
  | discard {sync : Synchronizer α} {older newer : List (Task α)} {task next : Task α}
      {now : Nat} {pending : Pending α} {outcome : Outcome α}
      (lands : sync.Lands now task next pending outcome)
      (superseded : sync.controller.isCurrent pending.generation = false) :
      Change sync (older ++ task :: newer)
        ({ sync with
          controller := { sync.controller with
            discarded := sync.controller.discarded + 1 } }.emit now .fetchDiscarded
          pending.generation
          (if sync.controller.disposed then SyncError.disposed else .cancelled).message)
        (older ++ next :: newer)

/-- Changes, one after the other. -/
def Changes (sync : Synchronizer α) (tasks : List (Task α)) (after : Synchronizer α)
    (later : List (Task α)) : Prop :=
  Relation.ReflTransGen
    (fun before after : Synchronizer α × List (Task α) =>
      Change before.1 before.2 after.1 after.2) (sync, tasks) (after, later)

variable {sync after : Synchronizer α} {now : Nat} {tasks later older newer : List (Task α)}
  {task next : Task α}

theorem isOver_eq (sync : Synchronizer α) (task : Task α) :
    sync.isOver task = task.arming?.any sync.scheduler.isOver := by
  cases task <;> rfl

/-- A loop that waits for its deadline has no cycle. -/
theorem Task.cycle?_of_waiting {timer : Timer α} {deadline : Nat}
    (waits : timer.stage = .waiting deadline) : (Task.timer timer).cycle? = none := by
  simp [Task.cycle?, waits]

/-- A task without a cycle has no fetch. -/
theorem Task.pending?_eq_none (idle : task.cycle? = none) : task.pending? = none := by
  rw [Task.pending?, idle]
  rfl

/-! ## Lists of changes -/

namespace Changes

theorem refl (sync : Synchronizer α) (tasks : List (Task α)) : Changes sync tasks sync tasks :=
  Relation.ReflTransGen.refl

theorem single (change : Change sync tasks after later) : Changes sync tasks after later :=
  Relation.ReflTransGen.single change

theorem trans {last : Synchronizer α} {rest : List (Task α)}
    (first : Changes sync tasks after later) (second : Changes after later last rest) :
    Changes sync tasks last rest :=
  Relation.ReflTransGen.trans first second

theorem tail {last : Synchronizer α} {rest : List (Task α)}
    (first : Changes sync tasks after later) (change : Change after later last rest) :
    Changes sync tasks last rest :=
  Relation.ReflTransGen.tail first change

/-- What every change keeps, changes keep. -/
theorem keeps {Property : Synchronizer α → List (Task α) → Prop}
    (each : ∀ {sync tasks after later}, Property sync tasks → Change sync tasks after later →
      Property after later)
    (changes : Changes sync tasks after later) (holds : Property sync tasks) :
    Property after later := by
  have induct : ∀ {last : Synchronizer α × List (Task α)},
      Relation.ReflTransGen (fun before after : Synchronizer α × List (Task α) =>
        Change before.1 before.2 after.1 after.2) (sync, tasks) last → Property last.1 last.2 := by
    intro last reaches
    induction reaches with
    | refl => exact holds
    | tail _ change induction => exact each induction change
  exact induct changes

end Changes

/-! ## The end of a synchronizer -/

/-- A synchronizer ends once, and after that not again. -/
theorem changes_dispose (sync : Synchronizer α) (tasks : List (Task α)) (now : Nat) :
    Changes sync tasks (sync.dispose now) tasks := by
  cases disposed : sync.disposed with
  | true =>
    rw [dispose, if_pos disposed]
    exact .refl sync tasks
  | false => exact .single (.dispose now disposed)

/-- The last one that lets go of a synchronizer ends it. -/
theorem changes_release (sync : Synchronizer α) (tasks : List (Task α)) (now : Nat) :
    Changes sync tasks (sync.release now) tasks := by
  have held : Changes sync tasks { sync with holders := sync.holders - 1 } tasks :=
    .single (.hold (sync.holders - 1))
  unfold release
  dsimp only
  split
  next => exact held.trans (changes_dispose _ tasks now)
  next => exact held

/-! ## Cycles -/

/-- A cycle that goes on begins its fetch, or has it committed or dropped. -/
theorem Change.advance {cycle : Cycle α} (works : task.cycle? = some cycle)
    (able : sync.canRunCycle now cycle = true) (goesOn : sync.isOver task = false)
    (wrapped : next.cycle? = (sync.advanceCycle now cycle).1.open?)
    (arming : next.arming? = task.arming?) :
    Change sync (older ++ task :: newer) (sync.advanceCycle now cycle).2.1
      (older ++ next :: newer ++ (sync.advanceCycle now cycle).2.2.map .timer) := by
  cases cycle with
  | unstarted cause =>
    have idle : task.pending? = none := Task.pending?_eq works
    have same : ∀ number ∈ next.arming?, number ∈ task.arming? := fun _ => arming ▸ id
    cases disposed : sync.disposed with
    | true =>
      simp only [advanceCycle, disposed] at wrapped ⊢
      simpa using Change.leave (.inl idle) wrapped same
    | false =>
      simp only [advanceCycle, disposed] at wrapped ⊢
      cases issued : sync.controller.issue with
      | error error =>
        simp only [begin_of_error issued] at wrapped ⊢
        simpa using Change.leave (.inl idle) wrapped same
      | ok taken =>
        obtain ⟨call, events, -, -, begins⟩ := begin_of_issue (Prod.eta taken ▸ issued) now cause
        have fetching : next.cycle? = some (sync.begin now cause).1 := by
          rw [begins] at wrapped ⊢
          exact wrapped
        simpa using Change.begin works disposed goesOn issued fetching arming
  | fetching pending =>
    obtain ⟨outcome, landed⟩ := Option.isSome_iff_exists.1 able
    simp only [advanceCycle, landed, resolve] at wrapped ⊢
    cases current : sync.controller.isCurrent pending.generation with
    | true =>
      simp only [Controller.resolve_of_isCurrent current] at wrapped ⊢
      exact .commit ⟨works, landed, goesOn, wrapped, arming⟩ current
    | false =>
      simp only [Controller.resolve_of_not_isCurrent current] at wrapped ⊢
      simpa using Change.discard ⟨works, landed, goesOn, wrapped, arming⟩ current
  | finished result => exact absurd able Bool.false_ne_true

/-- A cycle that ends when the controller is over says so, and leaves it so. -/
theorem advanceCycle_refused {cycle : Cycle α} {result : Except SyncError Unit}
    (ends : (sync.advanceCycle now cycle).1 = .finished result)
    (able : sync.canRunCycle now cycle = true)
    (closed : (sync.advanceCycle now cycle).2.1.controller.disposed = true) :
    result = .error .disposed := by
  cases cycle with
  | unstarted cause =>
    unfold advanceCycle at ends
    dsimp only at ends
    split at ends
    next =>
      cases ends
      rfl
    next =>
      cases issued : sync.controller.issue with
      | error error =>
        rw [begin_of_error issued] at ends
        cases ends
        rw [(Controller.issue_eq_error issued).2]
      | ok taken =>
        obtain ⟨_, _, -, -, begins⟩ := begin_of_issue (Prod.eta taken ▸ issued) now cause
        rw [begins] at ends
        cases ends
  | fetching pending =>
    obtain ⟨outcome, landed⟩ := Option.isSome_iff_exists.1 able
    simp only [advanceCycle, landed] at ends closed
    cases current : sync.controller.isCurrent pending.generation with
    | true =>
      -- a fetch is committed only while the controller runs, and that does not end it
      obtain ⟨_, _, _, _, resolved, -⟩ := resolve_of_isCurrent current now outcome
      rw [resolved] at closed
      have running := (Controller.isCurrent_iff.1 current).1
      exact absurd (running.symm.trans closed) Bool.false_ne_true
    | false =>
      simp only [resolve, Controller.resolve_of_not_isCurrent current] at ends closed
      have closed : sync.controller.disposed = true := closed
      rw [if_pos closed] at ends
      cases ends
      rfl
  | finished result => exact absurd able Bool.false_ne_true

/-! ## Turns -/

/-- A turn of a cycle goes on with it, and a call of `syncNow` that ends is answered. -/
theorem changes_stepCycle {caller : Option Nat} {cycle : Cycle α}
    (able : sync.canRunCycle now cycle = true) :
    Changes sync (older ++ .cycle caller cycle :: newer) (sync.stepCycle now caller cycle).2.1
      (older ++ (sync.stepCycle now caller cycle).1 :: newer ++
        (sync.stepCycle now caller cycle).2.2) := by
  have advanced (next : Task α) (wrapped : next.cycle? = (sync.advanceCycle now cycle).1.open?)
      (arming : next.arming? = none) :
      Change sync (older ++ .cycle caller cycle :: newer) (sync.advanceCycle now cycle).2.1
        (older ++ next :: newer ++ (sync.advanceCycle now cycle).2.2.map .timer) :=
    .advance rfl able rfl wrapped arming
  have refused {result : Except SyncError Unit} :
      (sync.advanceCycle now cycle).1 = .finished result → sync.canRunCycle now cycle = true →
      (sync.advanceCycle now cycle).2.1.controller.disposed = true → result = .error .disposed :=
    advanceCycle_refused
  unfold stepCycle
  rcases advances : sync.advanceCycle now cycle with ⟨resolved, after, timers⟩
  rw [advances] at advanced refused
  cases resolved with
  | unstarted cause =>
    cases caller <;> exact .single (advanced (.cycle _ (.unstarted cause)) rfl rfl)
  | fetching pending =>
    cases caller <;> exact .single (advanced (.cycle _ (.fetching pending)) rfl rfl)
  | finished result =>
    have ended := Changes.single (advanced .ended rfl rfl)
    cases caller with
    | none => exact ended
    | some call =>
      exact (ended.tail (.record call now (refused rfl able))).trans (changes_release _ _ now)

/-- A turn of a loop leaves it, meets its deadline, or goes on with its cycle. -/
theorem changes_stepTimer {timer : Timer α} (able : canRun now sync (.timer timer) = true) :
    Changes sync (older ++ .timer timer :: newer) (sync.stepTimer now timer).2.1
      (older ++ (sync.stepTimer now timer).1 :: newer ++ (sync.stepTimer now timer).2.2) := by
  have leaves {next : Task α}
      (gone : (Task.timer timer).pending? = none ∨ sync.isOver (.timer timer) = true)
      (idle : next.cycle? = none)
      (arming : ∀ arming ∈ next.arming?, arming ∈ (Task.timer timer).arming?) :
      Changes sync (older ++ .timer timer :: newer) sync (older ++ next :: newer ++ []) := by
    rw [List.append_nil]
    exact .single (.leave gone idle arming)
  unfold stepTimer
  cases stage : timer.stage with
  | unstarted =>
    exact leaves (.inl (by simp [Task.pending?, Task.cycle?, stage])) rfl fun _ => id
  | waiting deadline =>
    dsimp only
    split
    next isOver => exact leaves (.inr isOver) rfl fun _ none => absurd none (Option.not_mem_none _)
    next goesOn =>
      have goesOn : sync.scheduler.isOver timer.arming = false := Bool.eq_false_iff.2 goesOn
      unfold meet
      dsimp only
      rw [List.append_nil]
      split
      next => exact .single (.skip stage goesOn)
      next => exact .single (.tick now stage goesOn)
  | working deadline cycle =>
    dsimp only
    split
    next isOver => exact leaves (.inr isOver) rfl fun _ none => absurd none (Option.not_mem_none _)
    next goesOn =>
      have goesOn : sync.scheduler.isOver timer.arming = false := Bool.eq_false_iff.2 goesOn
      have works : (Task.timer timer).cycle? = some cycle := by simp [Task.cycle?, stage]
      simp only [canRun, stage, goesOn, Bool.false_or] at able
      refine .single (.advance works able goesOn ?_ rfl)
      cases (sync.advanceCycle now cycle).1 with
      | unstarted cause => rfl
      | fetching pending => rfl
      | finished result => rfl
  | ended => simp [canRun, stage] at able

/-- A turn of any task comes down to changes. -/
theorem changes_stepTask (able : canRun now sync task = true) :
    Changes sync (older ++ task :: newer) (stepTask now sync task).2.1
      (older ++ (stepTask now sync task).1 :: newer ++ (stepTask now sync task).2.2) := by
  cases task with
  | watcher seen =>
    have leaves {next : Task α} (idle : next.cycle? = none) (arming : next.arming? = none) :
        Changes sync (older ++ .watcher seen :: newer) sync (older ++ next :: newer) :=
      .single (.leave (.inl rfl) idle (by simp [arming]))
    unfold stepTask
    dsimp only
    split
    next =>
      rw [List.append_nil]
      exact leaves rfl rfl
    next =>
      refine (leaves rfl rfl).tail (.spawn (List.forall_mem_singleton.2 ?_))
      exact .cycle none (by decide)
  | cycle caller cycle => exact changes_stepCycle able
  | timer timer => exact changes_stepTimer able
  | ended => exact nomatch able

variable {bench last : Bench α}

/-- So does a step of the queue, if it has a task. -/
theorem changes_step (bench : Bench α) :
    Changes bench.state bench.tasks (bench.step program).state (bench.step program).tasks := by
  rcases Executor.step_cases program bench with
    ⟨state, tasks⟩ | ⟨older, task, newer, next, after, spawned, split, able, turn, state, tasks⟩
  · rw [state, tasks]
    exact .refl _ _
  · obtain ⟨rfl, rfl, rfl⟩ := stepTask_of_step turn
    rw [state, tasks, split]
    exact changes_stepTask able

/-! ## Actions from outside -/

/-- To change a synchronizer from outside touches no task. -/
theorem changes_change (changes : Changes bench.state bench.tasks after bench.tasks) :
    Changes bench.state bench.tasks (change bench after).state (change bench after).tasks := by
  unfold Synchronizer.change
  rw [Executor.tasks_act, List.append_nil]
  exact changes

/-- An action comes down to changes, those that let tasks go on included. -/
theorem changes_perform (bench : Bench α) (action : Action α) :
    Changes bench.state bench.tasks (perform bench action).state (perform bench action).tasks := by
  have settles (bench last : Bench α)
      (changes : Changes bench.state bench.tasks last.state last.tasks) :
      Changes bench.state bench.tasks (last.step program).state (last.step program).tasks :=
    changes.trans (changes_step last)
  cases action with
  | mutate edit =>
    simp only [Synchronizer.perform, mutate]
    split
    next => exact .refl _ _
    next query after mutates =>
      split at mutates
      next => cases mutates
      next =>
        cases mutates
        exact changes_change (.single (.write _))
  | write params => exact changes_change (.single (.write params))
  | refresh =>
    simp only [Synchronizer.perform, refresh]
    split
    next => exact .refl _ _
    next cycle starts =>
      split at starts
      next => cases starts
      next =>
        cases starts
        exact .single (.spawn (List.forall_mem_singleton.2 (.cycle none (by decide))))
  | syncNow call =>
    have held : Changes bench.state bench.tasks bench.state.hold bench.tasks :=
      .single (.hold (bench.state.holders + 1))
    exact held.tail (.spawn (List.forall_mem_singleton.2 (.cycle (some call) (by decide))))
  | dismissError =>
    refine changes_change ?_
    cases disposed : bench.state.disposed with
    | true =>
      rw [Synchronizer.dismissError, if_pos disposed]
      exact .refl _ _
    | false =>
      rw [Synchronizer.dismissError, if_neg (Bool.eq_false_iff.1 disposed)]
      exact .single (.dismissError disposed)
  | dispose => exact changes_change (changes_dispose _ _ bench.now)
  | drop => exact changes_change (changes_release _ _ bench.now)
  | addReply reply => exact changes_change (.single (.reply rfl))
  | setLastResort reply => exact changes_change (.single (.reply rfl))
  | settle => exact Executor.settle_induction (settles bench) (.refl _ _)
  | advance duration =>
    exact Executor.advance_induction (settles bench) (fun _ _ changes => changes) duration
      (.refl _ _)

/-! ## What is reached -/

/-- Whatever is reached is reached by changes. -/
theorem Reaches.changes (reaches : Reaches bench last) :
    Changes bench.state bench.tasks last.state last.tasks := by
  induction reaches with
  | refl => exact .refl _ _
  | perform _ action _ changes => exact changes.trans (changes_perform _ action)
  | step _ changes => exact changes.trans (changes_step _)
  | moveTo _ _ changes => exact changes

/-- A property of a new synchronizer that every change keeps holds wherever it is. -/
theorem Reachable.keeps {Property : Synchronizer α → List (Task α) → Prop}
    (each : ∀ {sync tasks after later}, Property sync tasks → Change sync tasks after later →
      Property after later)
    (reachable : Reachable sync bench) (starts : Property sync.start.state sync.start.tasks) :
    Property bench.state bench.tasks :=
  (Reaches.changes reachable).keeps each starts

end Synchronizer

end QuerySync
