import QuerySync.Proofs.Synchronizer.Runs
import QuerySync.Proofs.Synchronizer.Turns

/-!
# Agreement of a view and its location

Whatever is done to a synchronizer, and whenever its tasks have their turns (`Reachable`), once
no task is left in the queue the view and the location agree (`settled_agreement`).  The view
shows the query of the location.  It is loading exactly as long as a generation is active, and
then one cycle is left, which fetches that query for that generation.  Otherwise no cycle is
left, and data that is ready is what was fetched for the query of the location.
-/

namespace QuerySync

variable {α : Type}

/-- Whether a cycle has ended. -/
def Cycle.isResolved : Cycle α → Bool
  | .finished _ => true
  | .unstarted _ | .fetching _ => false

namespace Synchronizer

/-- The cycles of tasks that have not ended. -/
def unresolved (tasks : List (Task α)) : List (Cycle α) :=
  tasks.filterMap fun task => task.cycle?.filter fun cycle => !cycle.isResolved

/-- A view agrees with its location. -/
structure Agreement (view : View) (sync : Synchronizer α) (tasks : List (Task α)) : Prop where
  /-- The view shows the query of the location. -/
  query : sync.snapshot.query = view.decode sync.store.params
  /-- It is loading exactly as long as a generation is active. -/
  loading : sync.snapshot.phase = .loading ↔ sync.controller.active.isSome = true
  /-- Then there is one cycle, in the middle of the one fetch of that generation, which asks for
  the query of the view. -/
  fetching : ∀ generation, sync.controller.active = some generation →
    ∃ pending, unresolved tasks = [.fetching pending] ∧ pending.generation = generation ∧
      ∃ call ∈ sync.transport.calls,
        (∀ other ∈ sync.transport.calls, other.generation = generation ↔ other = call) ∧
        call.query = sync.snapshot.query ∧ pending.flight = call.reply.flight call.time
  /-- Otherwise there is no cycle. -/
  resting : sync.snapshot.phase ≠ .loading → unresolved tasks = []
  /-- Data that is ready is what the latest call gave for the query of the location, unless its
  transport aborted it. -/
  data : sync.snapshot.phase = .ready → ∃ call ∈ sync.transport.calls.head?,
    (∀ delay, call.reply ≠ .after delay (.error .cancelled)) →
    ∃ delay fetched, call.reply = .after delay (.ok fetched) ∧
      call.query = view.decode sync.store.params ∧ sync.snapshot.data = some fetched

variable {view : View} {sync : Synchronizer α} {bench : Bench α} {tasks : List (Task α)}
  {task : Task α} {now : Nat}

/-! ## What is reached -/

/-- Whatever is reached, what holds of a new synchronizer holds until its end. -/
theorem Reachable.upheld {scope : Scope} {liveness : Liveness α} {query : String}
    {replies : List (Reply α)} {lastResort : Reply α}
    (created : create view scope liveness query { replies, lastResort } = .ok sync)
    (reachable : Reachable sync bench) : Upheld view bench.state bench.tasks := by
  induction reachable with
  | refl => exact Upheld.start created
  | perform _ action _ upheld => exact upheld.perform action
  | step _ upheld => exact upheld.step
  | moveTo _ time upheld => exact upheld

/-- An action leaves no task out of the queue that can go on. -/
theorem alert_perform (alert : bench.Alert program) (action : Action α) :
    (perform bench action).Alert program :=
  perform_induction (fun _ alert => alert.step)
    (fun _ _ _ => Executor.alert_moveTo program _ _)
    (fun _ _ _ _ => Executor.alert_act program _ _ _) alert action

/-- So whoever is not in the queue has to wait. -/
theorem Reachable.alert (reachable : Reachable sync bench) : bench.Alert program := by
  induction reachable with
  | refl => exact Executor.alert_act program _ _ _
  | perform _ action _ alert => exact alert_perform alert action
  | step _ alert => exact alert.step
  | moveTo => exact Executor.alert_moveTo program _ _

/-! ## Settled points -/

/-- A task that waits has a cycle that waits. -/
theorem canRunCycle_eq_false {cycle : Cycle α} (works : task.cycle? = some cycle)
    (waits : canRun now sync task = false) : sync.canRunCycle now cycle = false := by
  cases task with
  | watcher | ended => exact nomatch works
  | cycle caller work =>
    cases works
    exact waits
  | timer timer =>
    cases stage : timer.stage with
    | unstarted | waiting | ended => simp [Task.cycle?, stage] at works
    | working deadline work =>
      simp only [Task.cycle?, stage, Option.some.injEq] at works
      simp only [canRun, stage, Bool.or_eq_false_iff] at waits
      exact works ▸ waits.2

/-- A watcher that waits has seen the location. -/
theorem looks_eq_false (active : sync.disposed = false) (waits : canRun now sync task = false) :
    task.looks sync.store.version = false := by
  cases task with
  | watcher seen =>
    simp only [canRun, active, Bool.false_or, Store.hasChanged, bne_eq_false_iff_eq] at waits
    exact bne_eq_false_iff_eq.2 waits.symm
  | cycle caller cycle =>
    cases cycle with
    | unstarted cause => exact absurd waits.symm Bool.false_ne_true
    | fetching | finished => rfl
  | timer | ended => rfl

section
variable (waits : ∀ task ∈ tasks, canRun now sync task = false)
include waits

/-- When all tasks wait, the cycles that have not ended are in the middle of a fetch. -/
theorem unresolved_eq : unresolved tasks = (pendings tasks).map .fetching := by
  unfold unresolved pendings
  rw [List.map_filterMap]
  refine List.filterMap_congr fun task member => ?_
  cases works : task.cycle? with
  | none => simp [Task.pending?, works]
  | some cycle =>
    have unable := canRunCycle_eq_false works (waits task member)
    rw [Task.pending?_eq works]
    cases cycle with
    | unstarted cause => exact absurd unable.symm Bool.false_ne_true
    | fetching | finished => rfl

/-- A fetch that waits is the active one. -/
theorem Tracked.active_of_mem (tracked : sync.Tracked tasks) {pending : Pending α}
    (member : pending ∈ pendings tasks) :
    sync.controller.active = some pending.generation := by
  obtain ⟨task, isTask, has⟩ := List.mem_filterMap.1 member
  obtain ⟨cycle, works, fetches⟩ := Option.bind_eq_some_iff.1 has
  have unable := canRunCycle_eq_false works (waits task isTask)
  rcases tracked.held pending member with isActive | cancelled
  · exact isActive
  · cases cycle with
    | unstarted | finished => exact nomatch fetches
    | fetching =>
      cases fetches
      rw [canRunCycle, Pending.outcome?, if_pos (Controller.isCancelled_iff.2 cancelled)] at unable
      exact absurd unable.symm Bool.false_ne_true

/-- An active generation has one fetch, and no other generation has any. -/
theorem Tracked.pendings_of_active (tracked : sync.Tracked tasks) {generation : Nat}
    (active : sync.controller.active = some generation) :
    ∃ pending, pendings tasks = [pending] ∧ pending.generation = generation := by
  have same : ∀ pending ∈ pendings tasks, pending.generation = generation := fun pending member =>
    Option.some.inj ((tracked.active_of_mem waits member).symm.trans active)
  obtain ⟨task, isTask, has, -⟩ := tracked.holder generation active
  obtain ⟨held, isHeld, -⟩ := Option.map_eq_some_iff.1 has
  have member : held ∈ pendings tasks := List.mem_filterMap.2 ⟨task, isTask, isHeld⟩
  have distinct := tracked.distinct
  generalize pendings tasks = fetches at same member distinct
  match fetches, same, member, distinct with
  | [pending], same, _, _ => exact ⟨pending, rfl, same pending List.mem_cons_self⟩
  | first :: second :: others, same, _, distinct =>
    have isFirst := same first List.mem_cons_self
    have isSecond := same second (List.mem_cons_of_mem _ List.mem_cons_self)
    simp [isFirst, isSecond] at distinct

/-- Without an active generation nothing is on its way. -/
theorem Tracked.pendings_of_inactive (tracked : sync.Tracked tasks)
    (inactive : sync.controller.active = none) : pendings tasks = [] :=
  List.eq_nil_iff_forall_not_mem.2 fun _ member =>
    nomatch inactive.symm.trans (tracked.active_of_mem waits member)

end

/-- A sound synchronizer whose tasks all wait agrees with its location. -/
theorem Sound.agreement (sound : Sound view sync tasks) (active : sync.disposed = false)
    (waits : ∀ task ∈ tasks, canRun now sync task = false) : Agreement view sync tasks := by
  obtain ⟨rfl, consistent, tracked, watched⟩ := sound
  have query : sync.snapshot.query = sync.view.decode sync.store.params := by
    rcases watched.fresh with shown | ⟨task, member, looks⟩
    · exact shown
    · rw [looks_eq_false active (waits task member)] at looks
      exact nomatch looks
  refine ⟨query, consistent.loading, fun generation isActive => ?_, fun rests => ?_,
    fun isReady => ?_⟩
  · obtain ⟨pending, one, isGeneration⟩ := tracked.pendings_of_active waits isActive
    obtain ⟨call, isCall, called, flight⟩ := tracked.called pending (one ▸ List.mem_cons_self)
    have isLatest := called.trans (isGeneration.trans (consistent.coherent.latest isActive))
    have head := consistent.head?_calls isCall isLatest
    obtain ⟨before, calls⟩ := List.head?_eq_some_iff.1 head
    refine ⟨pending, ?_, isGeneration, call, isCall, fun other isOther => ⟨fun same => ?_, ?_⟩,
      consistent.query call head, flight⟩
    · rw [unresolved_eq waits, one]
      rfl
    · rcases List.mem_cons.1 (calls ▸ isOther) with isCall | isBefore
      · exact isCall
      · have earlier := (consistent.generations calls).2 other isBefore
        exact absurd (same.trans (consistent.coherent.latest isActive)) (Nat.ne_of_lt earlier)
    · rintro rfl
      exact called.trans isGeneration
  · have inactive : sync.controller.active = none :=
      Option.not_isSome_iff_eq_none.1 fun some => rests (consistent.loading.2 some)
    rw [unresolved_eq waits, tracked.pendings_of_inactive waits inactive]
    rfl
  · obtain ⟨call, latest, shows⟩ := consistent.ready isReady
    refine ⟨call, latest, fun unaborted => ?_⟩
    have shown := (consistent.query call latest).trans query
    cases reply : call.reply with
    | never =>
      rw [reply] at shows
      exact shows.elim
    | after delay outcome =>
      cases outcome with
      | ok fetched =>
        rw [reply] at shows
        exact ⟨delay, fetched, rfl, shown, shows⟩
      | error error =>
        cases error with
        | cancelled => exact absurd reply (unaborted delay)
        | failed message =>
          rw [reply] at shows
          exact shows.elim

/-- Wherever a synchronizer is, once the queue is empty its view agrees with its location. -/
theorem settled_agreement {scope : Scope} {liveness : Liveness α} {query : String}
    {replies : List (Reply α)} {lastResort : Reply α}
    (created : create view scope liveness query { replies, lastResort } = .ok sync)
    (reachable : Reachable sync bench) (settled : bench.ready = [])
    (active : bench.state.disposed = false) : Agreement view bench.state bench.tasks :=
  (reachable.upheld created active).agreement active fun _ member =>
    reachable.alert.canRun_eq_false settled member

/-- The location changes while the first page is being fetched.  The second page lands before the
first one would have, is live, and is shown. -/
theorem settled_agreement_executions :
    ∃ sync : Synchronizer Nat,
      create (View.preset "executions" .execution) {} (Verdict.ofCount 5000) ""
        { replies := [.after 20 (.ok 1), .after 10 (.ok 2)], lastResort := .never } = .ok sync ∧
      let bench := [.settle, .write (KeyMap.ofList [("page", "2")]), .settle,
        .advance 30].foldl perform sync.start
      Reachable sync bench ∧ bench.ready = [] ∧ bench.state.disposed = false ∧
        bench.state.snapshot.phase = .ready ∧ bench.state.snapshot.data = some 2 ∧
        bench.state.scheduler.isArmed = true ∧
        Agreement (View.preset "executions" .execution) bench.state bench.tasks := by
  refine ⟨_, rfl, Reachable.start.foldl _, ?_, ?_, ?_, ?_, ?_, ?_⟩
  · decide
  · decide
  · decide
  · decide
  · decide
  · refine settled_agreement rfl (Reachable.start.foldl _) ?_ ?_
    · decide
    · decide

end Synchronizer

end QuerySync
