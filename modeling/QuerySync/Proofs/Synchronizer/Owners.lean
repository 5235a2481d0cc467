import QuerySync.Proofs.Synchronizer.Changes

/-!
# Synchronizers that are held

The last one that lets go of a synchronizer ends it.  Who holds it is its owner, and every call of
`syncNow` that has not ended.  So as long as the owner holds on there are more holders than calls
(`Owned`), and no turn of a task ends the synchronizer (`Owned.stepTask`).  It goes on until
somebody ends it, with all the calls that it made and all changes of its location still counted
(`GoesOn`).

Actions that leave a synchronizer to its owner do the same (`perform_goesOn_induction`), so what
they keep holds along every run that has no others (`ReachesBy`).
-/

namespace QuerySync.Synchronizer

variable {α : Type} {sync after : Synchronizer α} {now : Nat} {bench later last : Bench α}
  {tasks older newer spawned : List (Task α)} {task next : Task α}

/-! ## Who goes on -/

/-- Whether an action leaves a synchronizer to its owner, who goes on to hold it. -/
def Action.goesOn : Action α → Bool
  | .dispose | .drop => false
  | .mutate _ | .write _ | .refresh | .syncNow _ | .dismissError | .addReply _
  | .setLastResort _ | .settle | .advance _ => true

/-! ## Holders -/

/-- Whether a task is a call of `syncNow` that has not ended. -/
def Task.isCall : Task α → Bool
  | .cycle caller _ => caller.isSome
  | .watcher _ | .timer _ | .ended => false

/-- Somebody else than the calls of `syncNow` holds the synchronizer. -/
def Owned (sync : Synchronizer α) (tasks : List (Task α)) : Prop :=
  tasks.countP Task.isCall < sync.holders

/-- What is left of a synchronizer that was not ended in between. -/
structure GoesOn (sync after : Synchronizer α) : Prop where
  /-- It is over only if it was before. -/
  disposed : after.disposed = sync.disposed
  /-- So is its controller. -/
  closed : after.controller.disposed = sync.controller.disposed
  /-- Calls stay. -/
  calls : ∃ newer, after.transport.calls = newer ++ sync.transport.calls
  /-- Changes of the location stay counted. -/
  version : sync.store.version ≤ after.store.version

theorem GoesOn.refl (sync : Synchronizer α) : sync.GoesOn sync :=
  ⟨rfl, rfl, ⟨[], rfl⟩, Nat.le_refl _⟩

theorem GoesOn.trans {last : Synchronizer α} (first : sync.GoesOn after)
    (second : after.GoesOn last) : sync.GoesOn last := by
  obtain ⟨newer, calls⟩ := first.calls
  obtain ⟨newest, more⟩ := second.calls
  refine ⟨second.disposed.trans first.disposed, second.closed.trans first.closed,
    ⟨newest ++ newer, ?_⟩, Nat.le_trans first.version second.version⟩
  rw [more, calls, List.append_assoc]

/-- Loops of the poll timer are no calls. -/
theorem countP_timers (timers : List (Timer α)) :
    (timers.map Task.timer).countP Task.isCall = 0 := by
  refine List.countP_eq_zero.2 fun task member => ?_
  obtain ⟨timer, -, rfl⟩ := List.mem_map.1 member
  exact Bool.false_ne_true

/-- A turn keeps the owner if it adds no call and lets nobody go. -/
theorem Owned.replace (owned : sync.Owned (older ++ task :: newer))
    (holders : after.holders = sync.holders) (fewer : next.isCall = true → task.isCall = true)
    (noCall : spawned.countP Task.isCall = 0) :
    after.Owned (older ++ next :: newer ++ spawned) := by
  unfold Owned at owned ⊢
  simp only [List.countP_append, List.countP_cons, noCall, holders] at owned ⊢
  split
  next isCall =>
    rw [if_pos (fewer isCall)] at owned
    omega
  next => omega

/-- When a call lets go, somebody is left. -/
theorem Owned.release (owned : sync.Owned (older ++ task :: newer)) (now : Nat)
    (isCall : task.isCall = true) (done : next.isCall = false)
    (noCall : spawned.countP Task.isCall = 0) :
    sync.GoesOn (sync.release now) ∧
      (sync.release now).Owned (older ++ next :: newer ++ spawned) := by
  unfold Owned at owned
  rw [List.countP_append, List.countP_cons_of_pos isCall] at owned
  have isLeft : sync.holders - 1 ≠ 0 := by omega
  have released : sync.release now = { sync with holders := sync.holders - 1 } := if_neg isLeft
  rw [released]
  refine ⟨{ GoesOn.refl sync with }, ?_⟩
  rw [Owned, List.countP_append, List.countP_append, noCall,
    List.countP_cons_of_neg (Bool.eq_false_iff.1 done)]
  show _ < sync.holders - 1
  omega

/-! ## Turns -/

/-- A cycle ends nothing and lets nobody go. -/
theorem goesOn_advanceCycle (sync : Synchronizer α) (now : Nat) (cycle : Cycle α) :
    sync.GoesOn (sync.advanceCycle now cycle).2.1 ∧
      (sync.advanceCycle now cycle).2.1.holders = sync.holders := by
  unfold advanceCycle
  split
  next cause =>
    split
    next => exact ⟨.refl sync, rfl⟩
    next =>
      cases issued : sync.controller.issue with
      | error error =>
        rw [begin_of_error issued]
        exact ⟨.refl sync, rfl⟩
      | ok taken =>
        obtain ⟨call, _, -, -, begins⟩ := begin_of_issue (Prod.eta taken ▸ issued) now cause
        obtain ⟨-, -, controller⟩ := Controller.issue_eq_ok_iff.1 (Prod.eta taken ▸ issued)
        rw [begins]
        refine ⟨⟨rfl, ?_, ⟨[call], rfl⟩, Nat.le_refl _⟩, rfl⟩
        show taken.2.disposed = _
        rw [controller]
        rfl
  next pending =>
    split
    next outcome landed =>
      cases current : sync.controller.isCurrent pending.generation with
      | true =>
        obtain ⟨_, _, _, _, resolved, -⟩ := resolve_of_isCurrent current now outcome
        rw [resolved]
        exact ⟨{ GoesOn.refl sync with }, rfl⟩
      | false =>
        obtain ⟨_, _, resolved⟩ := resolve_of_not_isCurrent current now outcome
        rw [resolved]
        exact ⟨{ GoesOn.refl sync with }, rfl⟩
    next => exact ⟨.refl sync, rfl⟩
  next => exact ⟨.refl sync, rfl⟩

/-- The last call that lets go of a synchronizer leaves it to its owner. -/
theorem Owned.stepCycle {caller : Option Nat} {cycle : Cycle α}
    (owned : sync.Owned (older ++ .cycle caller cycle :: newer)) :
    sync.GoesOn (sync.stepCycle now caller cycle).2.1 ∧
      (sync.stepCycle now caller cycle).2.1.Owned
        (older ++ (sync.stepCycle now caller cycle).1 :: newer ++
          (sync.stepCycle now caller cycle).2.2) := by
  obtain ⟨goesOn, holders⟩ := goesOn_advanceCycle sync now cycle
  unfold Synchronizer.stepCycle
  rcases advances : sync.advanceCycle now cycle with ⟨resolved, after, timers⟩
  rw [advances] at goesOn holders
  have noCall := countP_timers timers
  cases caller with
  | none => cases resolved <;> exact ⟨goesOn, owned.replace holders id noCall⟩
  | some call =>
    cases resolved with
    | unstarted | fetching => exact ⟨goesOn, owned.replace holders id noCall⟩
    | finished result =>
      have held : Owned { after with finished := (call, now, result) :: after.finished }
          (older ++ .cycle (some call) cycle :: newer) := Nat.lt_of_lt_of_eq owned holders.symm
      obtain ⟨released, left⟩ := held.release now rfl (rfl : Task.isCall .ended = false) noCall
      exact ⟨goesOn.trans { released with }, left⟩

/-- A loop of the poll timer ends nothing while the owner holds on. -/
theorem Owned.stepTimer {timer : Timer α} (owned : sync.Owned (older ++ .timer timer :: newer)) :
    sync.GoesOn (sync.stepTimer now timer).2.1 ∧
      (sync.stepTimer now timer).2.1.Owned
        (older ++ (sync.stepTimer now timer).1 :: newer ++ (sync.stepTimer now timer).2.2) := by
  unfold Synchronizer.stepTimer
  cases timer.stage with
  | unstarted | ended => exact ⟨.refl sync, owned.replace rfl id rfl⟩
  | waiting deadline =>
    dsimp only
    split
    next => exact ⟨.refl sync, owned.replace rfl id rfl⟩
    next =>
      obtain ⟨_, _, _, meets, -⟩ := meet_eq sync now deadline timer
      rw [meets]
      exact ⟨{ GoesOn.refl sync with }, owned.replace rfl id rfl⟩
  | working deadline cycle =>
    dsimp only
    split
    next => exact ⟨.refl sync, owned.replace rfl id rfl⟩
    next =>
      obtain ⟨goesOn, holders⟩ := goesOn_advanceCycle sync now cycle
      exact ⟨goesOn, owned.replace holders id (countP_timers _)⟩

/-- Neither does any other task, since a call that ends is not the last holder. -/
theorem Owned.stepTask (owned : sync.Owned (older ++ task :: newer)) :
    sync.GoesOn (stepTask now sync task).2.1 ∧
      (stepTask now sync task).2.1.Owned
        (older ++ (stepTask now sync task).1 :: newer ++ (stepTask now sync task).2.2) := by
  cases task with
  | watcher seen =>
    unfold Synchronizer.stepTask
    dsimp only
    split <;> exact ⟨.refl sync, owned.replace rfl id rfl⟩
  | cycle caller cycle => exact owned.stepCycle
  | timer timer => exact owned.stepTimer
  | ended => exact ⟨.refl sync, owned.replace rfl id rfl⟩

theorem keeps_owned : (program : Program (Synchronizer α) (Task α)).Keeps Owned := by
  intro now sync older task newer next after spawned owned _ turn
  obtain ⟨rfl, rfl, rfl⟩ := stepTask_of_step turn
  exact owned.stepTask.2

/-- The owner holds on through every step of the queue. -/
theorem Owned.step (bench : Bench α) (owned : bench.state.Owned bench.tasks) :
    (bench.step program).state.Owned (bench.step program).tasks :=
  Executor.step_keeps keeps_owned owned

/-! ## Actions -/

/-- And through every change from outside that counts its calls. -/
theorem Owned.act (owned : bench.state.Owned bench.tasks)
    (holders : after.holders = bench.state.holders + spawned.countP Task.isCall) :
    (bench.act program after spawned).state.Owned (bench.act program after spawned).tasks := by
  unfold Owned at owned ⊢
  rw [Executor.state_act, Executor.tasks_act, List.countP_append, holders]
  exact Nat.add_lt_add_right owned _

/-- A write to the location ends nothing. -/
theorem goesOn_write (sync : Synchronizer α) (params : Params) :
    sync.GoesOn (sync.write params) := by
  refine { GoesOn.refl sync with version := ?_ }
  show _ ≤ (sync.store.write params).version
  rw [Store.version_write]
  split
  next => exact Nat.le_refl _
  next => exact Nat.le_succ _

/-- An action that leaves a synchronizer to its owner does nothing, or starts calls that hold the
synchronizer too, or lets the executor go on. -/
theorem perform_goesOn_induction {motive : Bench α → Prop} {action : Action α}
    (step : ∀ bench, motive bench → motive (bench.step program))
    (moveTo : ∀ bench time, motive bench → motive (bench.moveTo program time))
    (act : ∀ after spawned, bench.state.GoesOn after →
      after.holders = bench.state.holders + spawned.countP Task.isCall →
      motive (bench.act program after spawned))
    (goesOn : action.goesOn = true) (holds : motive bench) : motive (perform bench action) := by
  have change (after : Synchronizer α) (goesOn : bench.state.GoesOn after)
      (holders : after.holders = bench.state.holders) : motive (change bench after) :=
    act after [] goesOn holders
  have same := GoesOn.refl bench.state
  cases action with
  | mutate edit =>
    simp only [perform, mutate]
    split
    next => exact holds
    next query after mutates =>
      split at mutates
      next => cases mutates
      next =>
        cases mutates
        exact change _ (goesOn_write ..) rfl
  | write params => exact change _ (goesOn_write ..) rfl
  | refresh =>
    simp only [perform]
    split
    next => exact holds
    next cycle _ => exact act _ [.cycle none cycle] same rfl
  | syncNow call =>
    exact act bench.state.hold [.cycle (some call) (.unstarted .manual)] { same with } rfl
  | dismissError =>
    show motive (Synchronizer.change bench bench.state.dismissError)
    unfold Synchronizer.dismissError
    split
    next => exact change _ same rfl
    next => exact change _ { same with } rfl
  | dispose | drop => exact absurd goesOn Bool.false_ne_true
  | addReply | setLastResort => exact change _ { same with } rfl
  | settle => exact Executor.settle_induction step holds
  | advance duration => exact Executor.advance_induction step moveTo duration holds

/-- The end lets nobody go. -/
theorem holders_dispose (sync : Synchronizer α) (now : Nat) :
    (sync.dispose now).holders = sync.holders := by
  unfold dispose
  split <;> rfl

/-- Only the owner lets go for itself. -/
theorem Owned.perform (owned : bench.state.Owned bench.tasks) {action : Action α}
    (held : action ≠ .drop) :
    (perform bench action).state.Owned (perform bench action).tasks := by
  have others (goesOn : action.goesOn = true) :
      (Synchronizer.perform bench action).state.Owned (Synchronizer.perform bench action).tasks :=
    perform_goesOn_induction Owned.step (fun _ _ owned => owned) (fun _ _ _ => owned.act) goesOn
      owned
  cases action with
  | dispose => exact owned.act (holders_dispose ..)
  | drop => exact absurd rfl held
  | mutate | write | refresh | syncNow | dismissError | addReply | setLastResort | settle
  | advance => exact others rfl

/-- A new synchronizer has an owner. -/
theorem owned_start {view : View} {scope : Scope} {liveness : Liveness α} {query : String}
    {transport : Transport α}
    (created : create view scope liveness query transport = .ok sync) :
    sync.start.state.Owned sync.start.tasks := by
  obtain ⟨setting, rfl⟩ := eq_of_create created
  exact Nat.zero_lt_one

/-- The owner holds on along every run in which nobody lets go. -/
theorem ReachesBy.owned (reaches : ReachesBy (· ≠ .drop) bench later)
    (owned : bench.state.Owned bench.tasks) : later.state.Owned later.tasks := by
  induction reaches with
  | refl => exact owned
  | perform _ _ held owned => exact owned.perform held
  | step _ owned => exact owned.step
  | moveTo _ _ owned => exact owned

end QuerySync.Synchronizer
