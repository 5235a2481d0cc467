import QuerySync.Proofs.Executor
import QuerySync.Proofs.Poll.Scheduler
import QuerySync.Proofs.Request.Controller
import QuerySync.Synchronizer.Action

/-!
# Single steps of a synchronizer

What each step of a task makes of a synchronizer, as an equation for each case.  Some things
never go back, whatever step is done (`Synchronizer.Later`): what is disposed stays so, a
generation that was cancelled stays so, and a loop of the poll timer that is over stays so.  No
step writes to the location.  Actions from outside do nothing else to the tasks than spawn
cycles (`perform_induction`).
-/

namespace QuerySync.Synchronizer

variable {α : Type} {sync : Synchronizer α}

/-! ## Equations -/

/-- Rescheduling changes the poll timer and the log alone. -/
theorem reschedule_eq (sync : Synchronizer α) (now : Nat) (live : Bool) :
    ∃ events, sync.reschedule now live =
      ({ sync with
        scheduler := (sync.scheduler.reschedule live : Scheduler Unit × List (Timer α)).1, events },
        (sync.scheduler.reschedule live).2) := by
  unfold reschedule
  dsimp only
  split
  next => exact ⟨_, rfl⟩
  next => exact ⟨_, rfl⟩
  next => exact ⟨_, rfl⟩

/-- Data is what a reply gave, unless it gave none. -/
def Shows (data : Option α) : Reply α → Prop
  | .after _ (.ok fetched) => data = some fetched
  | .after _ (.error .cancelled) => True
  | .after _ (.error (.failed _)) | .never => False

/-- What committing an outcome makes of what is shown and of the poll timer: the loading ends,
data is shown if there is any, and a loop may start. -/
structure Commits (sync : Synchronizer α) (outcome : Outcome α) (scheduler : Scheduler Unit)
    (snapshot : Snapshot α) (timers : List (Timer α)) : Prop where
  /-- The query stays. -/
  query : snapshot.query = sync.snapshot.query
  /-- The loading ends. -/
  rests : snapshot.phase ≠ .loading
  /-- Data that is ready is the outcome, unless that was none. -/
  shows : snapshot.phase = .ready → ∀ delay, Shows snapshot.data (.after delay outcome)
  /-- No loop that is over goes on. -/
  later : sync.scheduler.Later scheduler
  /-- The loops were just started. -/
  starts : scheduler.Starts timers

theorem resting_ne_loading (snapshot : Snapshot α) : snapshot.resting ≠ .loading := by
  unfold Snapshot.resting
  split
  next => exact nofun
  next => split <;> exact nofun

/-- A commit changes the poll timer, the log and what is shown, and says how. -/
theorem commit_eq (sync : Synchronizer α) (now generation : Nat) (outcome : Outcome α) :
    ∃ scheduler events snapshot timers,
      sync.commit now generation outcome =
        ({ sync with scheduler, events, snapshot }, timers) ∧
      sync.Commits outcome scheduler snapshot timers := by
  cases outcome with
  | ok data =>
    obtain ⟨events, same⟩ := reschedule_eq
      ({ sync with snapshot := sync.snapshot.succeed data (sync.liveness data).live }.emit now
        .fetchApplied generation none) now (sync.liveness data).live
    exact ⟨_, events, _, _, same, rfl, nofun, fun _ _ => rfl, Scheduler.later_reschedule _ _,
      Scheduler.starts_reschedule _ _⟩
  | error error =>
    have same : sync.scheduler.Later sync.scheduler := Scheduler.later_of_eq rfl rfl
    cases error with
    | failed message =>
      exact ⟨_, _, _, _, rfl, rfl, nofun, nofun, same, Scheduler.starts_nil _⟩
    | cancelled =>
      exact ⟨_, _, _, _, rfl, rfl, resting_ne_loading _, fun _ _ => trivial, same,
        Scheduler.starts_nil _⟩

/-- The active generation is committed. -/
theorem resolve_of_isCurrent {generation : Nat}
    (current : sync.controller.isCurrent generation = true) (now : Nat) (outcome : Outcome α) :
    ∃ scheduler events snapshot timers,
      sync.resolve now generation outcome =
        (.finished (.ok ()), { sync with
          controller := { sync.controller with active := none }, scheduler, events, snapshot },
          timers) ∧
      sync.Commits outcome scheduler snapshot timers := by
  obtain ⟨scheduler, events, snapshot, timers, commits, query, rests, shows, later, starts⟩ :=
    commit_eq { sync with controller := { sync.controller with active := none } } now generation
      outcome
  refine ⟨scheduler, events, snapshot, timers, ?_, query, rests, shows, later, starts⟩
  simp only [resolve, Controller.resolve_of_isCurrent current, commits]

/-- Any other generation is dropped. -/
theorem resolve_of_not_isCurrent {generation : Nat}
    (superseded : sync.controller.isCurrent generation = false) (now : Nat) (outcome : Outcome α) :
    ∃ error events, sync.resolve now generation outcome =
      (.finished (.error error), { sync with
        controller := { sync.controller with discarded := sync.controller.discarded + 1 }, events },
        []) := by
  simp only [resolve, Controller.resolve_of_not_isCurrent superseded]
  exact ⟨_, _, rfl⟩

/-- What a cycle makes of a synchronizer when it gets a generation. -/
theorem begin_of_issue {generation : Nat} {controller : Controller}
    (issued : sync.controller.issue = .ok (generation, controller)) (now : Nat) (cause : Cause) :
    ∃ call events, call.generation = generation ∧
      call.query = sync.view.decode sync.store.params ∧
      sync.begin now cause =
        (.fetching { generation, flight := call.reply.flight call.time },
          { sync with
            controller, events
            transport := { sync.transport with
              replies := sync.transport.replies.drop 1, calls := call :: sync.transport.calls }
            snapshot := sync.snapshot.load call.query }) := by
  simp only [begin, issued, Transport.call, emit]
  exact ⟨{ time := now, generation, query := sync.view.decode sync.store.params
           scope := sync.scope, reply := sync.transport.next }, _, rfl, rfl, rfl⟩

/-- A cycle that gets no generation ends at once, and nothing happens. -/
theorem begin_of_error {error : SyncError} (refused : sync.controller.issue = .error error)
    (now : Nat) (cause : Cause) : sync.begin now cause = (.finished (.error error), sync) := by
  simp only [begin, refused]

/-- At a deadline a loop goes on to another one, with or without a cycle before that. -/
theorem meet_eq (sync : Synchronizer α) (now deadline : Nat) (timer : Timer α) :
    ∃ stage scheduler events,
      sync.meet now deadline timer = ({ timer with stage }, { sync with scheduler, events }) ∧
      scheduler.arms = sync.scheduler.arms ∧ scheduler.armed = sync.scheduler.armed ∧
      (stage = .waiting (timer.period.following now deadline) ∨
        stage = .working (timer.period.following now deadline) (.unstarted .pollTick)) := by
  unfold meet
  dsimp only
  split
  next => exact ⟨_, _, _, rfl, rfl, rfl, .inl rfl⟩
  next => exact ⟨_, _, _, rfl, rfl, rfl, .inr rfl⟩

/-- A new synchronizer has the first query of its location, and nothing happened to it. -/
theorem eq_of_create {view : View} {scope : Scope} {liveness : Liveness α} {query : String}
    {transport : Transport α} (created : create view scope liveness query transport = .ok sync) :
    ∃ setting, sync =
      { view, scope, liveness, store := .ofQuery query, transport
        scheduler := { setting := some setting }
        snapshot := { query := view.decode (Store.ofQuery query).params } } := by
  unfold create at created
  split at created
  next => cases created
  next =>
    cases created
    exact ⟨_, rfl⟩

/-! ## What never goes back -/

/-- What holds of a synchronizer after some steps, and what held before. -/
structure Later (before after : Synchronizer α) : Prop where
  /-- The location is the same. -/
  store : after.store = before.store
  /-- What is disposed stays so. -/
  disposed : before.disposed = true → after.disposed = true
  /-- What was cancelled stays so. -/
  cancelled : ∀ generation ∈ before.controller.cancelled, generation ∈ after.controller.cancelled
  /-- Loops that are over stay so. -/
  scheduler : before.scheduler.Later after.scheduler

namespace Later

theorem refl (sync : Synchronizer α) : sync.Later sync where
  store := rfl
  disposed := id
  cancelled := fun _ => id
  scheduler := Scheduler.later_of_eq rfl rfl

theorem trans {before middle after : Synchronizer α} (first : before.Later middle)
    (second : middle.Later after) : before.Later after where
  store := second.store.trans first.store
  disposed := second.disposed ∘ first.disposed
  cancelled := fun generation => second.cancelled generation ∘ first.cancelled generation
  scheduler := first.scheduler.trans second.scheduler

end Later

/-- After the end it is over. -/
theorem disposed_dispose (sync : Synchronizer α) (now : Nat) :
    (sync.dispose now).disposed = true := by
  unfold dispose
  split
  next disposed => exact disposed
  next => rfl

/-- The end takes nothing back. -/
theorem later_dispose (sync : Synchronizer α) (now : Nat) : sync.Later (sync.dispose now) := by
  unfold dispose
  split
  next => exact .refl sync
  next =>
    refine ⟨rfl, fun _ => rfl, fun generation member => ?_, Scheduler.later_stop _⟩
    exact Controller.mem_cancelled_dispose member

/-- Nor does anybody who lets go. -/
theorem later_release (sync : Synchronizer α) (now : Nat) : sync.Later (sync.release now) := by
  unfold release
  dsimp only
  split
  next =>
    exact { later_dispose { sync with holders := sync.holders - 1 } now with }
  next => exact { Later.refl sync with }

/-- A cycle that begins cancels the one before, which stays cancelled. -/
theorem later_begin (sync : Synchronizer α) (now : Nat) (cause : Cause) :
    sync.Later (sync.begin now cause).2 := by
  cases issued : sync.controller.issue with
  | error error =>
    rw [begin_of_error issued]
    exact .refl sync
  | ok taken =>
    obtain ⟨generation, controller⟩ := taken
    obtain ⟨call, events, -, -, begins⟩ := begin_of_issue issued now cause
    rw [begins]
    refine { Later.refl sync with cancelled := fun generation member => ?_ }
    exact Controller.mem_cancelled_issue issued member

/-- A fetch that ends takes nothing back. -/
theorem later_resolve (sync : Synchronizer α) (now generation : Nat) (outcome : Outcome α) :
    sync.Later (sync.resolve now generation outcome).2.1 := by
  cases current : sync.controller.isCurrent generation with
  | true =>
    obtain ⟨scheduler, _, _, _, resolved, commits⟩ := resolve_of_isCurrent current now outcome
    rw [resolved]
    exact { Later.refl sync with scheduler := commits.later }
  | false =>
    obtain ⟨_, _, resolved⟩ := resolve_of_not_isCurrent current now outcome
    rw [resolved]
    exact { Later.refl sync with }

/-- So neither does a cycle. -/
theorem later_advanceCycle (sync : Synchronizer α) (now : Nat) (cycle : Cycle α) :
    sync.Later (sync.advanceCycle now cycle).2.1 := by
  unfold advanceCycle
  split
  next =>
    split
    next => exact .refl sync
    next => exact later_begin ..
  next =>
    split
    next => exact later_resolve ..
    next => exact .refl sync
  next => exact .refl sync

theorem later_stepCycle (sync : Synchronizer α) (now : Nat) (caller : Option Nat)
    (cycle : Cycle α) : sync.Later (sync.stepCycle now caller cycle).2.1 := by
  have advanced := later_advanceCycle sync now cycle
  unfold stepCycle
  rcases advances : sync.advanceCycle now cycle with ⟨resolved, after, timers⟩
  rw [advances] at advanced
  cases caller with
  | none => cases resolved <;> exact advanced
  | some call =>
    cases resolved with
    | unstarted | fetching => exact advanced
    | finished result =>
      exact advanced.trans { later_release
        { after with finished := (call, now, result) :: after.finished } now with }

theorem later_stepTimer (sync : Synchronizer α) (now : Nat) (timer : Timer α) :
    sync.Later (sync.stepTimer now timer).2.1 := by
  unfold stepTimer
  cases timer.stage with
  | unstarted | ended => exact .refl sync
  | waiting deadline =>
    dsimp only
    split
    next => exact .refl sync
    next =>
      obtain ⟨_, _, _, meets, arms, armed, -⟩ := meet_eq sync now deadline timer
      rw [meets]
      exact { Later.refl sync with scheduler := Scheduler.later_of_eq arms armed }
  | working deadline cycle =>
    dsimp only
    split
    next => exact .refl sync
    next => exact later_advanceCycle ..

/-- No turn of a task does, and none writes to the location. -/
theorem later_stepTask (sync : Synchronizer α) (now : Nat) (task : Task α) :
    sync.Later (stepTask now sync task).2.1 := by
  cases task with
  | watcher seen =>
    unfold stepTask
    dsimp only
    split <;> exact .refl sync
  | cycle caller cycle => exact later_stepCycle ..
  | timer timer => exact later_stepTimer ..
  | ended => exact .refl sync

/-- A turn is a step of the task that has it. -/
theorem stepTask_of_step {after : Synchronizer α} {now : Nat} {task next : Task α}
    {spawned : List (Task α)} (turn : program.step now sync task = (next, after, spawned)) :
    next = (stepTask now sync task).1 ∧ after = (stepTask now sync task).2.1 ∧
      spawned = (stepTask now sync task).2.2 := by
  change stepTask now sync task = _ at turn
  rw [turn]
  exact ⟨rfl, rfl, rfl⟩

/-! ## Actions from outside -/

theorem later_dismissError (sync : Synchronizer α) : sync.Later sync.dismissError := by
  unfold dismissError
  split
  next => exact .refl sync
  next => exact { Later.refl sync with }

/-- An action does nothing, or changes the synchronizer and spawns cycles, or lets the executor
go on.  None of them takes back an arming of the poll timer. -/
theorem perform_induction {motive : Bench α → Prop} {bench : Bench α}
    (step : ∀ bench, motive bench → motive (bench.step program))
    (moveTo : ∀ bench time, motive bench → motive (bench.moveTo program time))
    (act : ∀ after spawned, bench.state.scheduler.Later after.scheduler →
      (∀ timer, .timer timer ∉ spawned) → motive (bench.act program after spawned))
    (holds : motive bench) (action : Action α) : motive (perform bench action) := by
  have change (after : Synchronizer α) (later : bench.state.scheduler.Later after.scheduler) :
      motive (change bench after) :=
    act after [] later fun _ => List.not_mem_nil
  have same : bench.state.scheduler.Later bench.state.scheduler := Scheduler.later_of_eq rfl rfl
  cases action with
  | mutate edit =>
    simp only [perform, mutate]
    split
    next => exact holds
    next query after mutates =>
      split at mutates
      next => exact nomatch mutates
      next =>
        cases mutates
        exact change _ same
  | refresh =>
    simp only [perform]
    split
    next => exact holds
    next cycle _ => exact act _ [.cycle none cycle] same (by simp)
  | syncNow call => exact act _ [.cycle (some call) (.unstarted .manual)] same (by simp)
  | dismissError => exact change _ (later_dismissError bench.state).scheduler
  | dispose => exact change _ (later_dispose bench.state bench.now).scheduler
  | drop => exact change _ (later_release bench.state bench.now).scheduler
  | write | addReply | setLastResort => exact change _ same
  | settle => exact Executor.settle_induction step holds
  | advance duration => exact Executor.advance_induction step moveTo duration holds

end QuerySync.Synchronizer
