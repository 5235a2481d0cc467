import QuerySync.Proofs.Synchronizer.Log

/-!
# What the phase tells

A fetch that is committed succeeds or fails, and the phase says which of the two was last, as long
as nothing is on its way (`phase_tells_last_commit`).  It is not kept apart from the data and the
error: when the transport aborts a fetch it is made anew from them.  So they have to tell it too.
Data tells that something succeeded, and an error tells that what was last failed, unless it was
dismissed (`Synchronizer.Tells`).

Dismissing an error leaves the phase as it is, but nothing else tells of the failure any more.  If
a fetch is aborted after that, and nothing was committed in between, the failure is forgotten
(`Synchronizer.Forgets`), and the view is ready or idle again though what was last failed
(`phase_forgets_failure`).
-/

namespace QuerySync

variable {α : Type}

/-- Whether a fetch is committed with an event. -/
def EventKind.commits : EventKind → Bool
  | fetchApplied | fetchFailed => true
  | fetchStarted | fetchDiscarded | pollArmed | pollDisarmed | pollTick | disposed => false

/-- Whether an event says that the transport aborted a fetch. -/
def Event.aborts (event : Event) : Bool :=
  event.kind == .fetchDiscarded && event.detail == some Synchronizer.abortedDetail

/-- Whether the phase says how something ended. -/
def Lifecycle.rests : Lifecycle → Bool
  | loading | disposed => false
  | idle | ready | failed => true

theorem Lifecycle.rests_iff {phase : Lifecycle} :
    phase.rests = true ↔ phase ≠ .loading ∧ phase ≠ .disposed := by
  cases phase <;> simp [rests]

namespace Synchronizer

/-- How the fetches ended that were committed, newest first. -/
def committed (sync : Synchronizer α) : List EventKind :=
  (sync.log.map (·.kind)).filter EventKind.commits

/-- The number of fetches that the transport aborted. -/
def aborts (sync : Synchronizer α) : Nat := sync.log.countP Event.aborts

/-- What one thing makes of what is shown and of what is on record of commits and aborts. -/
inductive Retells (before after : Synchronizer α) : Prop where
  | stays (committed : after.committed = before.committed) (aborts : after.aborts = before.aborts)
      (data : after.snapshot.data = before.snapshot.data)
      (error : after.snapshot.error = before.snapshot.error)
      (phase : after.snapshot.phase.rests = true → after.snapshot.phase = before.snapshot.phase)
  | returns (committed : after.committed = before.committed)
      (aborts : after.aborts = before.aborts + 1)
      (data : after.snapshot.data = before.snapshot.data)
      (error : after.snapshot.error = before.snapshot.error)
      (phase : after.snapshot.phase = after.snapshot.resting)
  | succeeds (committed : after.committed = .fetchApplied :: before.committed)
      (data : after.snapshot.data.isSome = true) (error : after.snapshot.error = none)
      (phase : after.snapshot.phase = .ready)
  | fails (committed : after.committed = .fetchFailed :: before.committed)
      (data : after.snapshot.data = before.snapshot.data)
      (error : after.snapshot.error.isSome = true) (phase : after.snapshot.phase = .failed)

/-- What things make of it one after the other. -/
abbrev Retold (before after : Synchronizer α) : Prop := Relation.ReflTransGen Retells before after

variable {sync before after : Synchronizer α} {now : Nat}

/-! ## Steps -/

/-- Nothing that is told of changes. -/
theorem Retold.same (log : after.log = before.log) (snapshot : after.snapshot = before.snapshot) :
    before.Retold after := by
  refine .single (.stays ?_ ?_ ?_ ?_ fun _ => ?_)
  · rw [committed, log, committed]
  · rw [aborts, log, aborts]
  · rw [snapshot]
  · rw [snapshot]
  · rw [snapshot]

/-- Something else is put on record. -/
theorem Retells.record {event : Event} (log : after.log = event :: before.log)
    (uncommitted : event.kind.commits = false) (unaborted : event.aborts = false)
    (data : after.snapshot.data = before.snapshot.data)
    (error : after.snapshot.error = before.snapshot.error)
    (phase : after.snapshot.phase.rests = true → after.snapshot.phase = before.snapshot.phase) :
    before.Retells after := by
  refine .stays ?_ ?_ data error phase
  · rw [committed, log, List.map_cons, List.filter_cons_of_neg (Bool.eq_false_iff.1 uncommitted)]
    rfl
  · rw [aborts, log, List.countP_cons_of_neg (Bool.eq_false_iff.1 unaborted)]
    rfl

/-- An event that commits and aborts nothing tells nothing new. -/
theorem retold_emit (sync : Synchronizer α) (now : Nat) (kind : EventKind)
    (uncommitted : kind.commits = false) (unaborted : kind ≠ .fetchDiscarded)
    (generation : Option Nat) (detail : Option String) :
    sync.Retold (sync.emit now kind generation detail) := by
  refine .single (.record (log_emit ..) uncommitted ?_ rfl rfl fun _ => rfl)
  simp [Event.aborts, unaborted]

/-- The end takes no error away and is no commit. -/
theorem retold_dispose (sync : Synchronizer α) (now : Nat) : sync.Retold (sync.dispose now) := by
  unfold dispose
  split
  next => exact .refl
  next => exact .single (.record (log_emit ..) rfl rfl rfl rfl nofun)

theorem retold_release (sync : Synchronizer α) (now : Nat) : sync.Retold (sync.release now) := by
  have held : sync.Retold { sync with holders := sync.holders - 1 } := .same rfl rfl
  unfold release
  dsimp only
  split
  next => exact held.trans (retold_dispose _ now)
  next => exact held

/-- A cycle that begins puts its start on record, which tells of no commit. -/
theorem retold_begin (sync : Synchronizer α) (now : Nat) (cause : Cause) :
    sync.Retold (sync.begin now cause).2 := by
  cases issued : sync.controller.issue with
  | error error => rw [begin_of_error issued]
  | ok taken =>
    have log := log_begin (Prod.eta taken ▸ issued) now cause
    obtain ⟨call, events, -, -, begins⟩ := begin_of_issue (Prod.eta taken ▸ issued) now cause
    rw [begins] at log ⊢
    exact .single (.record log rfl rfl rfl rfl nofun)

theorem retold_reschedule (sync : Synchronizer α) (now : Nat) (live : Bool) :
    sync.Retold (sync.reschedule now live).1 := by
  have switched : sync.Retold
      { sync with
        scheduler := (sync.scheduler.reschedule live : Scheduler Unit × List (Timer α)).1 } :=
    .same rfl rfl
  unfold reschedule
  dsimp only
  split
  next => exact switched.trans (retold_emit _ now .pollArmed rfl nofun none none)
  next => exact switched.trans (retold_emit _ now .pollDisarmed rfl nofun none none)
  next => exact switched

/-- A commit tells of itself. -/
theorem retold_commit (sync : Synchronizer α) (now generation : Nat) (outcome : Outcome α) :
    sync.Retold (sync.commit now generation outcome).1 := by
  cases outcome with
  | ok data =>
    have succeeds : sync.Retells
        ({ sync with snapshot := sync.snapshot.succeed data (sync.liveness data).live }.emit now
          .fetchApplied generation none) := .succeeds rfl rfl rfl rfl
    exact (Relation.ReflTransGen.single succeeds).trans (retold_reschedule ..)
  | error error =>
    cases error with
    | failed message => exact .single (.fails rfl rfl rfl rfl)
    | cancelled => exact .single (.returns rfl (List.countP_cons_of_pos rfl) rfl rfl rfl)

/-- A fetch that ends is committed, aborted or dropped. -/
theorem retold_resolve (sync : Synchronizer α) (now generation : Nat) (outcome : Outcome α) :
    sync.Retold (sync.resolve now generation outcome).2.1 := by
  unfold resolve
  cases current : sync.controller.isCurrent generation with
  | true =>
    simp only [Controller.resolve_of_isCurrent current]
    have resolved : sync.Retold sync.deactivate := .same rfl rfl
    exact resolved.trans (retold_commit ..)
  | false =>
    simp only [Controller.resolve_of_not_isCurrent current]
    refine .single (.record (log_emit ..) rfl ?_ rfl rfl fun _ => rfl)
    split
    next => rfl
    next => rfl

/-- So a cycle tells of its own fetch at most. -/
theorem retold_advanceCycle (sync : Synchronizer α) (now : Nat) (cycle : Cycle α) :
    sync.Retold (sync.advanceCycle now cycle).2.1 := by
  unfold advanceCycle
  split
  next =>
    split
    next => exact .refl
    next => exact retold_begin ..
  next =>
    split
    next => exact retold_resolve ..
    next => exact .refl
  next => exact .refl

theorem retold_stepCycle (sync : Synchronizer α) (now : Nat) (caller : Option Nat)
    (cycle : Cycle α) : sync.Retold (sync.stepCycle now caller cycle).2.1 := by
  have advanced := retold_advanceCycle sync now cycle
  unfold stepCycle
  rcases advances : sync.advanceCycle now cycle with ⟨resolved, after, timers⟩
  rw [advances] at advanced
  cases caller with
  | none => cases resolved <;> exact advanced
  | some call =>
    cases resolved with
    | unstarted | fetching => exact advanced
    | finished result =>
      have recorded : after.Retold
          { after with finished := (call, now, result) :: after.finished } := .same rfl rfl
      exact (advanced.trans recorded).trans (retold_release ..)

theorem retold_meet (sync : Synchronizer α) (now deadline : Nat) (timer : Timer α) :
    sync.Retold (sync.meet now deadline timer).2 := by
  unfold meet
  dsimp only
  split
  next => exact .same rfl rfl
  next =>
    have counted : sync.Retold { sync with scheduler := sync.scheduler.countTick } :=
      .same rfl rfl
    exact counted.trans (retold_emit _ now .pollTick rfl nofun none none)

theorem retold_stepTimer (sync : Synchronizer α) (now : Nat) (timer : Timer α) :
    sync.Retold (sync.stepTimer now timer).2.1 := by
  unfold stepTimer
  cases timer.stage with
  | unstarted | ended => exact .refl
  | waiting deadline =>
    dsimp only
    split
    next => exact .refl
    next => exact retold_meet ..
  | working deadline cycle =>
    dsimp only
    split
    next => exact .refl
    next => exact retold_advanceCycle ..

/-- No turn of a task takes an error away, but for the commit of a fetch. -/
theorem retold_stepTask (sync : Synchronizer α) (now : Nat) (task : Task α) :
    sync.Retold (stepTask now sync task).2.1 := by
  cases task with
  | watcher seen =>
    unfold stepTask
    dsimp only
    split <;> exact .refl
  | cycle caller cycle => exact retold_stepCycle ..
  | timer timer => exact retold_stepTimer ..
  | ended => exact .refl

/-- Neither does a step of the queue. -/
theorem retold_step (bench : Bench α) : bench.state.Retold (bench.step program).state := by
  rcases Executor.step_cases program bench with
    ⟨state, -⟩ | ⟨older, task, newer, next, after, spawned, -, -, turn, state, -⟩
  · rw [state]
  · obtain ⟨-, rfl, -⟩ := stepTask_of_step turn
    rw [state]
    exact retold_stepTask ..

/-! ## What tells of the last commit -/

/-- Where a view is when nothing is on its way and its error was dismissed after a number of
aborts, or not at all. -/
def place (dismissed : Option Nat) (sync : Synchronizer α) : Lifecycle :=
  if dismissed = some sync.aborts then .failed else sync.snapshot.resting

/-- The data, the error and the phase tell what was committed last, but for an error that was
dismissed after a number of aborts. -/
structure Tells (dismissed : Option Nat) (sync : Synchronizer α) : Prop where
  data : sync.snapshot.data.isSome = true ↔ .fetchApplied ∈ sync.committed
  error : sync.snapshot.error.isSome = true ↔
    sync.committed.head? = some .fetchFailed ∧ dismissed = none
  /-- Only the error of a failure is dismissed. -/
  dismissal : ∀ count ∈ dismissed,
    sync.committed.head? = some .fetchFailed ∧ count ≤ sync.aborts
  phase : sync.snapshot.phase.rests = true → sync.snapshot.phase = sync.place dismissed

variable {dismissed : Option Nat}

theorem resting_eq (data : after.snapshot.data = before.snapshot.data)
    (error : after.snapshot.error = before.snapshot.error) :
    after.snapshot.resting = before.snapshot.resting := by
  rw [Snapshot.resting, Snapshot.resting, data, error]

theorem resting_of_error {snapshot : Snapshot α} (shown : snapshot.error.isSome = true) :
    snapshot.resting = .failed :=
  if_pos shown

@[simp] theorem place_none (sync : Synchronizer α) : sync.place none = sync.snapshot.resting :=
  if_neg nofun

/-- Unless an error was dismissed, a view at rest is where its fields say. -/
theorem Tells.phase_of_undismissed (tells : sync.Tells none)
    (rests : sync.snapshot.phase.rests = true) :
    sync.snapshot.phase = sync.snapshot.resting :=
  (tells.phase rests).trans (place_none sync)

/-- As long as nothing is committed it is told as before.  A commit is told anew. -/
theorem Tells.retells (tells : before.Tells dismissed) (retells : before.Retells after) :
    after.committed = before.committed ∧ after.Tells dismissed ∨
      before.committed.length < after.committed.length ∧ after.Tells none := by
  cases retells with
  | stays committed aborts data error phase =>
    refine .inl ⟨committed, ⟨?_, ?_, ?_, fun rests => ?_⟩⟩
    · rw [data, committed]
      exact tells.data
    · rw [error, committed]
      exact tells.error
    · rw [aborts, committed]
      exact tells.dismissal
    · have same := phase rests
      rw [same, place, aborts, resting_eq data error]
      exact tells.phase (same ▸ rests)
  | returns committed aborts data error phase =>
    refine .inl ⟨committed, ⟨?_, ?_, fun count member => ?_, fun _ => ?_⟩⟩
    · rw [data, committed]
      exact tells.data
    · rw [error, committed]
      exact tells.error
    · rw [aborts, committed]
      exact (tells.dismissal count member).imp id Nat.le_succ_of_le
    · rw [phase, place, if_neg]
      rintro rfl
      have known : after.aborts ≤ before.aborts := (tells.dismissal _ rfl).2
      omega
  | succeeds committed data error phase =>
    have longer : before.committed.length < after.committed.length := by
      rw [committed]
      exact Nat.lt_succ_self _
    refine .inr ⟨longer, ⟨?_, ?_, nofun, fun _ => ?_⟩⟩
    · rw [data, committed]
      exact iff_of_true rfl List.mem_cons_self
    · rw [error, committed]
      exact iff_of_false nofun fun failed => nomatch failed.1
    · rw [phase, place_none, Snapshot.resting, error, data]
      rfl
  | fails committed data error phase =>
    have longer : before.committed.length < after.committed.length := by
      rw [committed]
      exact Nat.lt_succ_self _
    refine .inr ⟨longer, ⟨?_, ?_, nofun, fun _ => ?_⟩⟩
    · rw [data, committed, List.mem_cons]
      exact tells.data.trans (or_iff_right nofun).symm
    · rw [error, committed]
      exact iff_of_true rfl ⟨rfl, rfl⟩
    · rw [phase, place_none, Snapshot.resting, error]
      rfl

/-- After a step the same commit is told of, or a new one of which no error was dismissed. -/
theorem Tells.retold (tells : before.Tells dismissed) (retold : before.Retold after) :
    after.committed = before.committed ∧ after.Tells dismissed ∨
      before.committed.length < after.committed.length ∧ after.Tells none := by
  induction retold with
  | refl => exact .inl ⟨rfl, tells⟩
  | tail _ retells induction =>
    rcases induction with ⟨same, still⟩ | ⟨longer, anew⟩
    · rcases still.retells retells with ⟨again, tells⟩ | ⟨longer, tells⟩
      · exact .inl ⟨again.trans same, tells⟩
      · exact .inr ⟨same ▸ longer, tells⟩
    · rcases anew.retells retells with ⟨again, tells⟩ | ⟨again, tells⟩
      · exact .inr ⟨again ▸ longer, tells⟩
      · exact .inr ⟨Nat.lt_trans longer again, tells⟩

/-- To dismiss an error commits nothing. -/
theorem committed_dismissError (sync : Synchronizer α) :
    sync.dismissError.committed = sync.committed := by
  unfold Synchronizer.dismissError
  split
  next => rfl
  next => rfl

/-- It keeps the data and the phase. -/
theorem snapshot_dismissError (sync : Synchronizer α) :
    sync.dismissError.snapshot.data = sync.snapshot.data ∧
      sync.dismissError.snapshot.phase = sync.snapshot.phase := by
  unfold Synchronizer.dismissError Snapshot.dismissError
  split
  next => exact ⟨rfl, rfl⟩
  next =>
    dsimp only
    split
    next => exact ⟨rfl, rfl⟩
    next => exact ⟨rfl, rfl⟩

/-- If there is an error it is dismissed now. -/
theorem Tells.dismissError (tells : sync.Tells dismissed) :
    sync.dismissError = sync ∨
      dismissed = none ∧ sync.disposed = false ∧ sync.dismissError.Tells (some sync.aborts) := by
  cases disposed : sync.disposed with
  | true => exact .inl (if_pos disposed)
  | false =>
    have running : sync.dismissError = { sync with snapshot := sync.snapshot.dismissError } :=
      if_neg (Bool.eq_false_iff.1 disposed)
    cases shown : sync.snapshot.error.isSome with
    | false =>
      left
      rw [running, Snapshot.dismissError, if_neg (Bool.eq_false_iff.1 shown)]
    | true =>
      right
      obtain ⟨failed, rfl⟩ := tells.error.1 shown
      refine ⟨rfl, rfl, ?_⟩
      rw [running, Snapshot.dismissError, if_pos shown]
      refine ⟨tells.data, iff_of_false nofun nofun, ?_, fun rests => ?_⟩
      · rintro _ ⟨⟩
        exact ⟨failed, Nat.le_refl _⟩
      · calc sync.snapshot.phase
            = sync.snapshot.resting := tells.phase_of_undismissed rests
          _ = .failed := resting_of_error shown
          _ = _ := (if_pos rfl).symm

/-! ## What is reached -/

variable {view : View} {scope : Scope} {liveness : Liveness α} {query : String}
  {replies : List (Reply α)} {lastResort : Reply α} {bench last moment : Bench α}

/-- Since the last commit an error was dismissed, and a fetch was aborted after that. -/
def Forgets (sync : Synchronizer α) (bench : Bench α) : Prop :=
  ∃ moment, Reachable sync moment ∧ moment.state.disposed = false ∧
    moment.state.committed = bench.state.committed ∧
    Reaches (perform moment .dismissError) bench ∧ moment.state.aborts < bench.state.aborts

/-- It is told what was committed last, but for an error that was dismissed at some moment. -/
def Told (sync : Synchronizer α) (bench : Bench α) : Prop :=
  ∃ dismissed, bench.state.Tells dismissed ∧
    ∀ count ∈ dismissed, ∃ moment, Reachable sync moment ∧ moment.state.disposed = false ∧
      moment.state.committed = bench.state.committed ∧
      Reaches (perform moment .dismissError) bench ∧ moment.state.aborts = count

/-- Nobody but who dismisses the error takes it away. -/
theorem retold_perform (bench : Bench α) (action : Action α) :
    action = .dismissError ∨ bench.state.Retold (perform bench action).state := by
  have settles (last : Bench α) (retold : bench.state.Retold last.state) :
      bench.state.Retold (last.step program).state := retold.trans (retold_step last)
  cases action with
  | dismissError => exact .inl rfl
  | mutate edit =>
    right
    simp only [Synchronizer.perform, mutate]
    split
    next => exact .refl
    next query after mutates =>
      split at mutates
      next => cases mutates
      next =>
        cases mutates
        exact .same rfl rfl
  | refresh =>
    right
    simp only [Synchronizer.perform]
    split
    next => exact .refl
    next => exact .refl
  | write | syncNow | addReply | setLastResort => exact .inr (.same rfl rfl)
  | dispose => exact .inr (retold_dispose ..)
  | drop => exact .inr (retold_release ..)
  | settle =>
    right
    exact Executor.settle_induction (motive := fun last => bench.state.Retold last.state) settles
      .refl
  | advance duration =>
    right
    exact Executor.advance_induction (motive := fun last => bench.state.Retold last.state) settles
      (fun _ _ retold => retold) duration .refl

/-- A step that takes no error away keeps the moment of the dismissal. -/
theorem Told.retold (told : Told sync bench) (retold : bench.state.Retold last.state)
    (reaches : ∀ {moment}, Reaches moment bench → Reaches moment last) : Told sync last := by
  obtain ⟨dismissed, tells, since⟩ := told
  rcases tells.retold retold with ⟨same, tells⟩ | ⟨-, tells⟩
  · refine ⟨dismissed, tells, fun count member => ?_⟩
    obtain ⟨moment, reachable, running, committed, reached, aborts⟩ := since count member
    exact ⟨moment, reachable, running, committed.trans same.symm, reaches reached, aborts⟩
  · exact ⟨none, tells, nofun⟩

/-- A dismissal that takes an error away is the moment itself. -/
theorem Told.dismissError (told : Told sync bench) (reachable : Reachable sync bench) :
    Told sync (perform bench .dismissError) := by
  have state : (perform bench .dismissError).state = bench.state.dismissError := rfl
  obtain ⟨dismissed, tells, since⟩ := told
  rcases tells.dismissError with nothing | ⟨-, running, tells⟩
  · rw [← state] at nothing
    have same : bench.state.Retold (perform bench .dismissError).state := by rw [nothing]
    exact Told.retold ⟨dismissed, tells, since⟩ same fun reaches => reaches.perform _
  · refine ⟨some bench.state.aborts, tells, fun count member => ?_⟩
    cases member
    exact ⟨bench, reachable, running, (committed_dismissError bench.state).symm, .refl, rfl⟩

/-- Wherever a synchronizer is, it tells its last commit, or there is a moment of a dismissal. -/
theorem Reachable.told
    (created : create view scope liveness query { replies, lastResort } = .ok sync)
    (reachable : Reachable sync bench) : Told sync bench := by
  induction reachable with
  | refl =>
    obtain ⟨setting, rfl⟩ := eq_of_create created
    refine ⟨none, ⟨?_, ?_, nofun, fun _ => rfl⟩, nofun⟩
    · exact iff_of_false nofun List.not_mem_nil
    · exact iff_of_false nofun fun failed => nomatch failed.1
  | @perform bench reachable action _ told =>
    rcases retold_perform bench action with rfl | retold
    · exact told.dismissError reachable
    · exact told.retold retold fun reaches => reaches.perform action
  | @step bench _ told => exact told.retold (retold_step bench) fun reaches => reaches.step
  | moveTo _ time told => exact told.retold (.same rfl rfl) fun reaches => reaches.moveTo time

/-! ## What is forgotten -/

/-- Nothing was committed since an error was dismissed, or something was. -/
def Since (committed : List EventKind) (count : Nat) (sync : Synchronizer α) : Prop :=
  sync.committed = committed ∧ sync.Tells (some count) ∨
    committed.length < sync.committed.length ∧ ∃ dismissed, sync.Tells dismissed

variable {committed : List EventKind} {count : Nat}

/-- A step that takes no error away commits nothing, or something since. -/
theorem Since.retold (since : before.Since committed count) (retold : before.Retold after) :
    after.Since committed count := by
  rcases since with ⟨rfl, tells⟩ | ⟨longer, dismissed, tells⟩
  · exact (tells.retold retold).imp id fun ⟨longer, tells⟩ => ⟨longer, none, tells⟩
  · right
    rcases tells.retold retold with ⟨same, tells⟩ | ⟨again, tells⟩
    · exact ⟨same ▸ longer, dismissed, tells⟩
    · exact ⟨Nat.lt_trans longer again, none, tells⟩

/-- What was dismissed is not dismissed again. -/
theorem Since.dismissError (since : sync.Since committed count) :
    sync.dismissError.Since committed count := by
  rcases since with ⟨same, tells⟩ | ⟨longer, dismissed, tells⟩
  · rcases tells.dismissError with nothing | ⟨undismissed, -⟩
    · rw [nothing]
      exact .inl ⟨same, tells⟩
    · cases undismissed
  · right
    rw [committed_dismissError]
    rcases tells.dismissError with nothing | ⟨-, -, tells⟩
    · rw [nothing]
      exact ⟨longer, dismissed, tells⟩
    · exact ⟨longer, _, tells⟩

/-- From the moment of a dismissal on, nothing was committed or something was. -/
theorem Reaches.since (reaches : Reaches moment bench)
    (since : moment.state.Since committed count) : bench.state.Since committed count := by
  induction reaches with
  | refl => exact since
  | @perform later _ action _ since =>
    rcases retold_perform later action with rfl | retold
    · exact since.dismissError
    · exact since.retold retold
  | @step later _ since => exact since.retold (retold_step later)
  | moveTo _ time since => exact since

/-- A failure whose error is dismissed is told by the phase only. -/
theorem Tells.since (tells : sync.Tells dismissed) (running : sync.disposed = false)
    (failed : sync.committed.head? = some .fetchFailed) :
    ∃ count ≤ sync.aborts, sync.dismissError.Since sync.committed count := by
  rcases tells.dismissError with nothing | ⟨-, -, now⟩
  · cases dismissed with
    | none =>
      -- there is an error, so dismissing it does something
      have shown := tells.error.2 ⟨failed, rfl⟩
      rw [Synchronizer.dismissError, if_neg (Bool.eq_false_iff.1 running), Snapshot.dismissError,
        if_pos shown] at nothing
      rw [← nothing] at shown
      cases shown
    | some count =>
      rw [nothing]
      exact ⟨count, (tells.dismissal count rfl).2, .inl ⟨rfl, tells⟩⟩
  · exact ⟨sync.aborts, Nat.le_refl _, .inl ⟨committed_dismissError sync, now⟩⟩

/-- After a failure that is forgotten the view is where its data says. -/
theorem Forgets.tells
    (created : create view scope liveness query { replies, lastResort } = .ok sync)
    (failed : bench.state.committed.head? = some .fetchFailed) (forgets : Forgets sync bench) :
    ∃ count < bench.state.aborts, bench.state.Tells (some count) := by
  obtain ⟨moment, reachable, running, committed, reaches, aborted⟩ := forgets
  obtain ⟨dismissed, tells, -⟩ := reachable.told created
  obtain ⟨count, known, since⟩ := tells.since running (committed ▸ failed)
  rcases reaches.since since with ⟨-, tells⟩ | ⟨longer, -⟩
  · exact ⟨count, Nat.lt_of_le_of_lt known aborted, tells⟩
  · exact absurd longer (committed ▸ Nat.lt_irrefl _)

/-! ## The law of the phase -/

/-- Without an error a view rests where its commits have left it. -/
theorem Tells.resting (tells : sync.Tells dismissed)
    (unshown : sync.snapshot.error.isSome = false) :
    sync.snapshot.resting = if .fetchApplied ∈ sync.committed then .ready else .idle := by
  rw [Snapshot.resting, if_neg (Bool.eq_false_iff.1 unshown)]
  exact if_congr tells.data rfl rfl

/-- Without a failure at last there is neither an error nor one that was dismissed. -/
theorem Tells.phase_of_not_failed (tells : sync.Tells dismissed)
    (rests : sync.snapshot.phase.rests = true)
    (unfailed : sync.committed.head? ≠ some .fetchFailed) :
    sync.snapshot.phase = if .fetchApplied ∈ sync.committed then .ready else .idle := by
  cases dismissed with
  | none =>
    rw [tells.phase_of_undismissed rests]
    refine tells.resting (Bool.eq_false_iff.2 fun shown => ?_)
    exact unfailed (tells.error.1 shown).1
  | some count => exact absurd (tells.dismissal count rfl).1 unfailed

/-- A failure that is not forgotten is told by the phase. -/
theorem Told.phase_of_failed (told : Told sync bench)
    (rests : bench.state.snapshot.phase.rests = true)
    (failed : bench.state.committed.head? = some .fetchFailed) (recalls : ¬ Forgets sync bench) :
    bench.state.snapshot.phase = .failed := by
  obtain ⟨dismissed, tells, since⟩ := told
  cases dismissed with
  | none =>
    rw [tells.phase_of_undismissed rests]
    exact resting_of_error (tells.error.2 ⟨failed, rfl⟩)
  | some count =>
    obtain ⟨moment, reachable, running, committed, reaches, rfl⟩ := since count rfl
    have known := (tells.dismissal _ rfl).2
    rcases Nat.eq_or_lt_of_le known with none | aborted
    · exact (tells.phase rests).trans (if_pos (congrArg some none))
    · exact absurd ⟨moment, reachable, running, committed, reaches, aborted⟩ recalls

/-- After a failure that is forgotten the phase is that of the commits before. -/
theorem Forgets.phase
    (created : create view scope liveness query { replies, lastResort } = .ok sync)
    (forgets : Forgets sync bench) (rests : bench.state.snapshot.phase.rests = true)
    (failed : bench.state.committed.head? = some .fetchFailed) :
    bench.state.snapshot.phase =
      if .fetchApplied ∈ bench.state.committed then .ready else .idle := by
  obtain ⟨count, aborted, tells⟩ := forgets.tells created failed
  have phase : bench.state.snapshot.phase = bench.state.snapshot.resting := by
    refine (tells.phase rests).trans (if_neg ?_)
    rintro ⟨⟩
    exact Nat.lt_irrefl _ aborted
  rw [phase]
  refine tells.resting (Bool.eq_false_iff.2 fun shown => ?_)
  cases (tells.error.1 shown).2

/-- Dismissing an error keeps the data and the phase.  As long as nothing is on its way the phase
says how the fetch ended that was committed last, or that none was, unless that one failed and is
forgotten: then it says whether any fetch succeeded before. -/
theorem phase_tells_last_commit
    (created : create view scope liveness query { replies, lastResort } = .ok sync)
    (reachable : Reachable sync bench) :
    let snapshot := bench.state.snapshot
    let committed := bench.state.committed
    let dismissing := perform bench .dismissError
    (dismissing.state.snapshot.data = snapshot.data ∧
      dismissing.state.snapshot.phase = snapshot.phase) ∧
    (snapshot.phase ≠ .loading → snapshot.phase ≠ .disposed →
      (committed = [] → snapshot.phase = .idle) ∧
      (committed.head? = some .fetchApplied → snapshot.phase = .ready) ∧
      (committed.head? = some .fetchFailed →
        (¬ Forgets sync bench → snapshot.phase = .failed) ∧
        (Forgets sync bench →
          snapshot.phase = if .fetchApplied ∈ committed then .ready else .idle))) := by
  intro snapshot committed dismissing
  refine ⟨snapshot_dismissError bench.state, fun waits running => ?_⟩
  have rests : snapshot.phase.rests = true := Lifecycle.rests_iff.2 ⟨waits, running⟩
  obtain ⟨dismissed, tells, -⟩ := reachable.told created
  refine ⟨fun nothing => ?_, fun succeeded => ?_, fun failed => ⟨?_, ?_⟩⟩
  · have unfailed : committed.head? ≠ some .fetchFailed := by
      rw [nothing]
      exact nofun
    have unapplied : .fetchApplied ∉ committed := by
      rw [nothing]
      exact List.not_mem_nil
    exact (tells.phase_of_not_failed rests unfailed).trans (if_neg unapplied)
  · have unfailed : committed.head? ≠ some .fetchFailed := by
      rw [succeeded]
      exact nofun
    exact (tells.phase_of_not_failed rests unfailed).trans (if_pos (List.mem_of_head? succeeded))
  · exact (reachable.told created).phase_of_failed rests failed
  · exact fun forgets => forgets.phase created rests failed

/-- The first fetch succeeds and the second one fails.  Its error is dismissed, and the third one is
aborted: the view is ready again. -/
theorem phase_tells_last_commit_forgetting :
    let created := create (View.preset "executions" .execution) {} (Verdict.ofCount 1000) ""
      { replies := [.after 10 (.ok 3), .after 10 (.error (.failed "down"))],
        lastResort := .after 0 (.error .cancelled) }
    ∃ sync : Synchronizer Nat, created = .ok sync ∧
      let moment := [.advance 10, .refresh, .advance 10].foldl perform sync.start
      let dismissing := perform moment .dismissError
      let bench := [.refresh, .settle].foldl perform dismissing
      Reachable sync bench ∧ Forgets sync bench ∧
        bench.state.committed = [.fetchFailed, .fetchApplied] ∧
        moment.state.snapshot.phase = .failed ∧ bench.state.snapshot.phase = .ready := by
  intro created
  have isCreated : created = .ok _ := rfl
  refine ⟨_, isCreated, ?_⟩
  intro moment dismissing bench
  have before : Reachable _ moment := Reachable.start.foldl _
  have reachable : Reachable _ bench := (before.perform .dismissError).foldl _
  have reaches : Reaches dismissing bench := Reaches.foldl .refl _
  have forgets : Forgets _ bench := ⟨moment, before, by decide, by decide, reaches, by decide⟩
  have committed : bench.state.committed = [.fetchFailed, .fetchApplied] := by decide
  have phases := (phase_tells_last_commit isCreated reachable).2 (by decide) (by decide)
  have phase := (phases.2.2 (committed ▸ rfl)).2 forgets
  exact ⟨reachable, forgets, committed, by decide, phase.trans (by decide)⟩

/-- The only fetch that was committed failed.  Its error is dismissed, and the next fetch is
aborted: it is as if nothing was ever fetched. -/
theorem phase_forgets_failure :
    let created := create (View.preset "executions" .execution) {} (Verdict.ofCount 1000) ""
      { replies := [.after 10 (.error (.failed "down"))],
        lastResort := .after 0 (.error .cancelled) }
    ∃ sync : Synchronizer Nat, created = .ok sync ∧
      let bench := [.advance 10, .dismissError, .refresh, .settle].foldl perform sync.start
      Reachable sync bench ∧ bench.state.committed = [.fetchFailed] ∧
        bench.state.snapshot.phase = .idle := by
  refine ⟨_, rfl, Reachable.start.foldl _, ?_, ?_⟩
  · decide
  · decide

end Synchronizer

end QuerySync
