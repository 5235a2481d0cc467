import QuerySync.Proofs.Executor.Settling
import QuerySync.Proofs.Poll.Period
import QuerySync.Proofs.Synchronizer.Agreement

/-!
# A synchronizer settles

With the clock standing still the tasks of a synchronizer run out of things to do
(`ready_settle`), so the view agrees with the location then (`agreement_settle`).  The watcher
runs once for all changes of the location, since no task writes to it.  A cycle is begun and
resolved, and starts one loop of the poll timer at most.  A loop meets each deadline up to now
once.
-/

namespace QuerySync.Synchronizer

variable {α : Type} {sync after : Synchronizer α} {now : Nat} {task : Task α}

/-! ## Efforts -/

/-- The steps that are left to a task and those it spawns, if the clock stands still. -/
def effort (now : Nat) (sync : Synchronizer α) : Task α → Nat
  | .watcher seen => if sync.store.hasChanged seen then 6 else 1
  | .cycle _ cycle => cycleRank cycle
  | .timer timer => rank now (.timer timer)
  | .ended => 0

/-- The effort of a task has a bound that does not depend on the synchronizer. -/
theorem effort_le_rank (now : Nat) (sync : Synchronizer α) (task : Task α) :
    effort now sync task ≤ rank now task := by
  cases task with
  | watcher seen =>
    simp only [effort]
    split
    next => exact Nat.le_refl 6
    next => exact Nat.le_add_left 1 5
  | cycle | timer | ended => exact Nat.le_refl _

/-- Loops have numbers that were given out. -/
def Numbered (sync : Synchronizer α) (tasks : List (Task α)) : Prop :=
  ∀ timer, .timer timer ∈ tasks → timer.arming ≤ sync.scheduler.arms

/-- A cycle that can go on still can when others have had their turns. -/
theorem canRunCycle_of_later (later : sync.Later after) {cycle : Cycle α}
    (able : sync.canRunCycle now cycle = true) : after.canRunCycle now cycle = true := by
  cases cycle with
  | unstarted cause => rfl
  | finished result => exact able
  | fetching pending =>
    simp only [canRunCycle, Pending.outcome?] at able ⊢
    split
    next => rfl
    next goesOn =>
      have wentOn : ¬ sync.controller.isCancelled pending.generation = true := fun cancelled =>
        goesOn (Controller.isCancelled_iff.2
          (later.cancelled _ (Controller.isCancelled_iff.1 cancelled)))
      rwa [if_neg wentOn] at able

/-- Who can go on is not kept from it by others. -/
theorem canRun_of_later (later : sync.Later after)
    (numbered : ∀ timer, task = .timer timer → timer.arming ≤ sync.scheduler.arms)
    (able : canRun now sync task = true) : canRun now after task = true := by
  cases task with
  | watcher seen =>
    simp only [canRun, Bool.or_eq_true, later.store] at able ⊢
    exact able.imp_left later.disposed
  | cycle caller cycle => exact canRunCycle_of_later later able
  | timer timer =>
    have staysOver := later.scheduler.isOver (numbered timer rfl)
    simp only [canRun] at able ⊢
    cases stage : timer.stage with
    | unstarted => rfl
    | waiting deadline =>
      simp only [stage, Bool.or_eq_true] at able ⊢
      exact able.imp_left staysOver
    | working deadline cycle =>
      simp only [stage, Bool.or_eq_true] at able ⊢
      exact able.imp staysOver (canRunCycle_of_later later)
    | ended =>
      rw [stage] at able
      exact able
  | ended => exact able

/-- So the turns of others make no difference to the effort of a task. -/
theorem effort_of_later (later : sync.Later after) (task : Task α) :
    effort now after task = effort now sync task := by
  cases task with
  | watcher seen => simp only [effort, later.store]
  | cycle | timer | ended => rfl

/-! ## Turns -/

/-- A cycle starts a loop of the poll timer only if the timer is armed for it. -/
theorem starts_advanceCycle (sync : Synchronizer α) (now : Nat) (cycle : Cycle α) :
    (sync.advanceCycle now cycle).2.1.scheduler.Starts (sync.advanceCycle now cycle).2.2 := by
  unfold advanceCycle
  split
  next =>
    split
    next => exact Scheduler.starts_nil _
    next => exact Scheduler.starts_nil _
  next pending =>
    split
    next outcome landed =>
      cases current : sync.controller.isCurrent pending.generation with
      | true =>
        obtain ⟨_, _, _, _, resolved, commits⟩ := resolve_of_isCurrent current now outcome
        rw [resolved]
        exact commits.starts
      | false =>
        obtain ⟨_, _, resolved⟩ := resolve_of_not_isCurrent current now outcome
        rw [resolved]
        exact Scheduler.starts_nil _
    next => exact Scheduler.starts_nil _
  next => exact Scheduler.starts_nil _

/-- A cycle that can go on comes nearer to its end, also with the loop that it starts. -/
theorem cycleRank_advanceCycle {cycle : Cycle α} (able : sync.canRunCycle now cycle = true) :
    cycleRank (sync.advanceCycle now cycle).1 + 2 * (sync.advanceCycle now cycle).2.2.length <
      cycleRank cycle := by
  cases cycle with
  | unstarted cause =>
    unfold advanceCycle
    dsimp only
    split
    next => exact Nat.succ_pos 3
    next =>
      cases issued : sync.controller.issue with
      | error error =>
        rw [begin_of_error issued]
        exact Nat.succ_pos 3
      | ok taken =>
        obtain ⟨_, _, -, -, begins⟩ := begin_of_issue (Prod.eta taken ▸ issued) now cause
        rw [begins]
        exact Nat.lt_succ_self 3
  | fetching pending =>
    obtain ⟨outcome, landed⟩ := Option.isSome_iff_exists.1 able
    have single := (starts_advanceCycle sync now (.fetching pending)).single
    have ended : cycleRank (sync.advanceCycle now (.fetching pending)).1 = 0 := by
      simp only [advanceCycle, landed]
      cases current : sync.controller.isCurrent pending.generation with
      | true =>
        obtain ⟨_, _, _, _, resolved, -⟩ := resolve_of_isCurrent current now outcome
        rw [resolved]
        rfl
      | false =>
        obtain ⟨_, _, resolved⟩ := resolve_of_not_isCurrent current now outcome
        rw [resolved]
        rfl
    rw [ended]
    show _ < 3
    omega
  | finished result => exact absurd able Bool.false_ne_true

/-- A new loop has two turns to have: it begins, and it waits or is over. -/
theorem total_timers {timers : List (Timer α)}
    (unstarted : ∀ timer ∈ timers, timer.stage = .unstarted) (now : Nat) (sync : Synchronizer α) :
    total (effort now sync) (timers.map .timer) = 2 * timers.length := by
  induction timers with
  | nil => rfl
  | cons timer timers induction =>
    have first : effort now sync (.timer timer) = 2 := by
      simp only [effort, rank, unstarted timer List.mem_cons_self]
    rw [List.map_cons, Executor.total_cons, first, List.length_cons,
      induction fun other member => unstarted other (List.mem_cons_of_mem _ member)]
    omega

/-- A cycle spends effort at its turn, that of the loop that it may start included. -/
theorem tires_stepCycle {caller : Option Nat} {cycle : Cycle α}
    (able : sync.canRunCycle now cycle = true) :
    effort now (sync.stepCycle now caller cycle).2.1 (sync.stepCycle now caller cycle).1 +
      total (effort now (sync.stepCycle now caller cycle).2.1)
        (sync.stepCycle now caller cycle).2.2 < cycleRank cycle := by
  have costs := cycleRank_advanceCycle able
  have unstarted := (starts_advanceCycle sync now cycle).unstarted
  unfold stepCycle
  rcases advances : sync.advanceCycle now cycle with ⟨resolved, after, timers⟩
  rw [advances] at costs unstarted
  cases caller with
  | none =>
    cases resolved with
    | unstarted | fetching | finished =>
      simpa [effort, total_timers unstarted, cycleRank] using costs
  | some call =>
    cases resolved with
    | unstarted | fetching | finished =>
      simpa [effort, total_timers unstarted, cycleRank] using costs

/-- So does a loop, since each deadline up to now is met once. -/
theorem tires_stepTimer {timer : Timer α} (able : canRun now sync (.timer timer) = true) :
    effort now (sync.stepTimer now timer).2.1 (sync.stepTimer now timer).1 +
      total (effort now (sync.stepTimer now timer).2.1) (sync.stepTimer now timer).2.2 <
      rank now (.timer timer) := by
  unfold stepTimer
  cases stage : timer.stage with
  | unstarted =>
    have ahead : timer.period.countUpTo now (now + timer.period.length) = 0 :=
      timer.period.countUpTo_of_lt (Nat.lt_add_of_pos_right timer.period.positive)
    simp [effort, rank, stage, deadlineRank, ahead, total]
  | waiting deadline =>
    dsimp only
    split
    next =>
      simp only [effort, rank, stage, deadlineRank, total, List.map_nil, List.sum_nil]
      omega
    next goesOn =>
      have due : deadline ≤ now := by simpa [canRun, stage, goesOn] using able
      have fewer := timer.period.countUpTo_following due
      obtain ⟨next, scheduler, events, meets, -, -, waitsOrWorks⟩ :=
        meet_eq sync now deadline timer
      rw [meets]
      rcases waitsOrWorks with rfl | rfl
      · simp only [effort, rank, stage, deadlineRank, total, List.map_nil, List.sum_nil]
        omega
      · simp only [effort, rank, stage, deadlineRank, cycleRank, total, List.map_nil, List.sum_nil]
        omega
  | working deadline cycle =>
    dsimp only
    split
    next =>
      simp only [effort, rank, stage, deadlineRank, total, List.map_nil, List.sum_nil]
      omega
    next goesOn =>
      have ableCycle : sync.canRunCycle now cycle = true := by
        simpa [canRun, stage, goesOn] using able
      have costs := cycleRank_advanceCycle ableCycle
      have unstarted := (starts_advanceCycle sync now cycle).unstarted
      rcases advances : sync.advanceCycle now cycle with ⟨resolved, after, timers⟩
      rw [advances] at costs unstarted
      dsimp only at costs unstarted ⊢
      rw [total_timers unstarted]
      cases resolved with
      | unstarted | fetching | finished =>
        simp only [effort, rank, stage, deadlineRank, cycleRank] at costs ⊢
        omega
  | ended => simp [canRun, stage] at able

/-- Every task spends effort at its turn. -/
theorem tires_stepTask (able : canRun now sync task = true) :
    effort now (stepTask now sync task).2.1 (stepTask now sync task).1 +
      total (effort now (stepTask now sync task).2.1) (stepTask now sync task).2.2 <
      effort now sync task := by
  cases task with
  | watcher seen =>
    cases disposed : sync.disposed with
    | true =>
      have left : 0 < effort now sync (.watcher seen) := by
        simp only [effort]
        split
        next => exact Nat.succ_pos 5
        next => exact Nat.succ_pos 0
      simpa [stepTask, disposed, total, effort] using left
    | false =>
      have changed : sync.store.version ≠ seen := by
        simpa [canRun, disposed, Store.hasChanged] using able
      simp [stepTask, disposed, effort, changed, total, cycleRank, Store.hasChanged]
  | cycle caller cycle => exact tires_stepCycle able
  | timer timer => exact tires_stepTimer able
  | ended => exact absurd able Bool.false_ne_true

/-! ## Who is spawned -/

/-- After a turn every loop has a number that was given out, and whoever is new can go on. -/
structure Launched (now : Nat) (sync : Synchronizer α) (next : Task α) (spawned : List (Task α)) :
    Prop where
  /-- Loops have numbers that were given out. -/
  numbered : sync.Numbered (next :: spawned)
  /-- Whoever is new can go on. -/
  awake : ∀ other ∈ spawned, canRun now sync other = true

/-- A loop that the timer starts has a number that was given out, and can go on. -/
theorem launched_timers {scheduler : Scheduler Unit} {timers : List (Timer α)}
    (starts : scheduler.Starts timers) (later : scheduler.Later sync.scheduler)
    (known : ∀ timer, task = .timer timer → timer.arming ≤ sync.scheduler.arms) :
    Launched now sync task (timers.map .timer) := by
  constructor
  · intro timer member
    rcases List.mem_cons.1 member with same | spawned
    · exact known timer same.symm
    · obtain ⟨new, started, same⟩ := List.mem_map.1 spawned
      cases same
      exact Nat.le_trans (starts.arming timer started) later.arms
  · intro other member
    obtain ⟨timer, started, rfl⟩ := List.mem_map.1 member
    simp only [canRun, starts.unstarted timer started]

theorem launched_stepCycle (sync : Synchronizer α) (now : Nat) (caller : Option Nat)
    (cycle : Cycle α) :
    Launched now (sync.stepCycle now caller cycle).2.1 (sync.stepCycle now caller cycle).1
      (sync.stepCycle now caller cycle).2.2 := by
  have starts := starts_advanceCycle sync now cycle
  unfold stepCycle
  rcases advances : sync.advanceCycle now cycle with ⟨resolved, after, timers⟩
  rw [advances] at starts
  have same : after.scheduler.Later after.scheduler := Scheduler.later_of_eq rfl rfl
  cases caller with
  | none => cases resolved <;> exact launched_timers starts same nofun
  | some call =>
    cases resolved with
    | unstarted | fetching => exact launched_timers starts same nofun
    | finished result =>
      exact launched_timers starts (later_release
        { after with finished := (call, now, result) :: after.finished } now).scheduler nofun

theorem launched_stepTimer {timer : Timer α} (known : timer.arming ≤ sync.scheduler.arms) :
    Launched now (sync.stepTimer now timer).2.1 (sync.stepTimer now timer).1
      (sync.stepTimer now timer).2.2 := by
  have alone {after : Synchronizer α} {next : Task α}
      (numbered : ∀ timer, next = .timer timer → timer.arming ≤ after.scheduler.arms) :
      Launched now after next [] :=
    launched_timers (Scheduler.starts_nil _) (Scheduler.later_of_eq rfl rfl) numbered
  unfold stepTimer
  cases timer.stage with
  | unstarted => exact alone (by rintro _ ⟨⟩; exact known)
  | waiting deadline =>
    dsimp only
    split
    next => exact alone nofun
    next =>
      obtain ⟨stage, scheduler, events, meets, arms, armed, -⟩ := meet_eq sync now deadline timer
      rw [meets]
      refine alone ?_
      rintro _ ⟨⟩
      rw [arms]
      exact known
  | working deadline cycle =>
    dsimp only
    split
    next => exact alone nofun
    next =>
      have starts := starts_advanceCycle sync now cycle
      have later := (later_advanceCycle sync now cycle).scheduler
      refine launched_timers starts (Scheduler.later_of_eq rfl rfl) ?_
      rintro _ ⟨⟩
      exact Nat.le_trans known later.arms
  | ended => exact alone nofun

/-- After a turn of any task loops have numbers that were given out, and whoever is new can go
on. -/
theorem launched_stepTask (now : Nat)
    (known : ∀ timer, task = .timer timer → timer.arming ≤ sync.scheduler.arms) :
    Launched now (stepTask now sync task).2.1 (stepTask now sync task).1
      (stepTask now sync task).2.2 := by
  cases task with
  | watcher seen =>
    unfold stepTask
    dsimp only
    split
    next => exact ⟨by simp [Numbered], nofun⟩
    next => exact ⟨by simp [Numbered], List.forall_mem_singleton.2 rfl⟩
  | cycle caller cycle => exact launched_stepCycle ..
  | timer timer => exact launched_stepTimer (known timer rfl)
  | ended => exact ⟨by simp [Numbered, stepTask], nofun⟩

/-! ## The tasks of a synchronizer -/

/-- The number of a loop was given out. -/
theorem Numbered.known {older newer : List (Task α)}
    (numbered : sync.Numbered (older ++ task :: newer)) {timer : Timer α}
    (same : task = .timer timer) : timer.arming ≤ sync.scheduler.arms :=
  numbered timer (same ▸ List.mem_append_right _ List.mem_cons_self)

theorem Numbered.others {older newer : List (Task α)}
    (numbered : sync.Numbered (older ++ task :: newer)) : sync.Numbered (older ++ newer) := by
  intro timer member
  refine numbered timer ?_
  rcases List.mem_append.1 member with isOlder | isNewer
  · exact List.mem_append_left _ isOlder
  · exact List.mem_append_right _ (List.mem_cons_of_mem _ isNewer)

/-- Turns keep the numbers of loops among those that were given out. -/
theorem keeps_numbered :
    (program : Program (Synchronizer α) (Task α)).Keeps Numbered := by
  intro now sync older task newer next after spawned numbered _ turn
  obtain ⟨rfl, rfl, rfl⟩ := stepTask_of_step turn
  have launched := (launched_stepTask now fun _ => numbered.known).numbered
  have later := (later_stepTask sync now task).scheduler
  intro timer member
  have split : .timer timer ∈ older ++ newer ∨
      .timer timer ∈ (stepTask now sync task).1 :: (stepTask now sync task).2.2 := by
    simpa [or_assoc, or_comm, or_left_comm] using member
  rcases split with other | new
  · exact Nat.le_trans (numbered.others timer other) later.arms
  · exact launched timer new

/-- With the clock standing still every turn spends effort, and so turns come to an end. -/
theorem tires_program :
    (program : Program (Synchronizer α) (Task α)).Tires Numbered effort where
  keeps := keeps_numbered
  bounded := effort_le_rank
  tires := by
    intro now sync older task newer next after spawned _ able turn
    obtain ⟨rfl, rfl, rfl⟩ := stepTask_of_step turn
    exact tires_stepTask able
  others := by
    intro now sync older task newer next after spawned numbered _ turn other member
    obtain ⟨rfl, rfl, rfl⟩ := stepTask_of_step turn
    have later := later_stepTask sync now task
    refine ⟨Nat.le_of_eq (effort_of_later later other), canRun_of_later later ?_⟩
    rintro timer rfl
    exact numbered.others timer member
  awake := by
    intro now sync older task newer next after spawned numbered turn
    obtain ⟨rfl, rfl, rfl⟩ := stepTask_of_step turn
    exact (launched_stepTask now fun _ => numbered.known).awake

/-! ## What is reached -/

variable {bench : Bench α}

/-- A change from outside starts no loop. -/
theorem Numbered.act (numbered : bench.state.Numbered bench.tasks)
    (later : bench.state.scheduler.Later after.scheduler) {spawned : List (Task α)}
    (noTimer : ∀ timer, .timer timer ∉ spawned) :
    (bench.act program after spawned).state.Numbered (bench.act program after spawned).tasks := by
  intro timer member
  rcases List.mem_append.1 member with old | new
  · exact Nat.le_trans (numbered timer old) later.arms
  · exact absurd new (noTimer timer)

/-- What settling needs of a bench. -/
structure Prompt (bench : Bench α) : Prop where
  /-- Tasks stand in the queue once. -/
  queued : bench.Queued
  /-- Loops have numbers that were given out. -/
  numbered : bench.state.Numbered bench.tasks

theorem Prompt.act (prompt : Prompt bench)
    (later : bench.state.scheduler.Later after.scheduler) {spawned : List (Task α)}
    (noTimer : ∀ timer, .timer timer ∉ spawned) : Prompt (bench.act program after spawned) :=
  ⟨prompt.queued.act after spawned, prompt.numbered.act later noTimer⟩

/-- A step queues nobody twice. -/
theorem Prompt.step (bench : Bench α) (prompt : Prompt bench) : Prompt (bench.step program) :=
  ⟨prompt.queued.step, Executor.step_keeps keeps_numbered prompt.numbered⟩

/-- Neither does a move of the clock. -/
theorem Prompt.moveTo (bench : Bench α) (time : Nat) (prompt : Prompt bench) :
    Prompt (bench.moveTo program time) :=
  ⟨prompt.queued.moveTo time, prompt.numbered⟩

theorem prompt_start (sync : Synchronizer α) : Prompt sync.start := by
  have empty : Prompt { state := sync : Bench α } :=
    ⟨⟨List.nodup_nil, fun _ member => absurd member List.not_mem_nil⟩,
      fun _ member => absurd member List.not_mem_nil⟩
  exact empty.act (Scheduler.later_of_eq rfl rfl) (by simp)

/-- Nor does an action. -/
theorem Prompt.perform (prompt : Prompt bench) (action : Action α) :
    Prompt (perform bench action) :=
  perform_induction Prompt.step Prompt.moveTo (fun _ _ later noTimer => prompt.act later noTimer)
    prompt action

/-- Wherever a synchronizer is, its tasks stand in the queue once, and its loops have numbers that
were given out. -/
theorem Reachable.prompt (reachable : Reachable sync bench) : Prompt bench := by
  induction reachable with
  | refl => exact prompt_start sync
  | perform _ action _ prompt => exact prompt.perform action
  | step _ prompt => exact prompt.step
  | moveTo _ time prompt => exact Prompt.moveTo _ time prompt

/-- Wherever a synchronizer is, settling empties the queue. -/
theorem ready_settle (reachable : Reachable sync bench) : (bench.settle program).ready = [] :=
  Executor.ready_settle tires_program reachable.prompt.queued reachable.prompt.numbered

/-- So whoever settles a synchronizer that is not over finds that it agrees with its location. -/
theorem agreement_settle {view : View} {scope : Scope} {liveness : Liveness α} {query : String}
    {replies : List (Reply α)} {lastResort : Reply α}
    (created : create view scope liveness query { replies, lastResort } = .ok sync)
    (reachable : Reachable sync bench) (active : (bench.settle program).state.disposed = false) :
    Agreement view (bench.settle program).state (bench.settle program).tasks := by
  have settled : Reachable sync (bench.settle program) := reachable.perform .settle
  exact (settled.upheld created active).agreement active fun _ member =>
    settled.alert.canRun_eq_false (ready_settle reachable) member

end QuerySync.Synchronizer
