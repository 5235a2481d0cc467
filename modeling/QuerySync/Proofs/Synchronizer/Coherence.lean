import QuerySync.Proofs.Synchronizer.Phases

/-!
# Snapshots are coherent

What a view shows is updated at six places, and each of them writes some of its fields only
(`Snapshot.Next`).  Every update raises the version by one, and keeps the fields in accord with each
other (`Snapshot.Coherent`), whatever was shown before.  Which phase follows which depends on more
than that: only a view that is loading has an outcome committed, and nothing is loaded when all is
over (`Synchronizer.Placed`).

An action, a turn or a move of the clock makes one update at most, except that a turn in which a
call of `syncNow` ends may also end the synchronizer (`Synchronizer.Turned`).  Runs are made of
nothing else (`Reaches.steps`).
-/

namespace QuerySync

variable {α : Type}

/-- The phases that can follow each other.  Only a transport that aborts takes a view back to where
nothing was fetched. -/
inductive Lifecycle.Leads (aborted : Prop) : Lifecycle → Lifecycle → Prop where
  | load {phase : Lifecycle} (rests : phase.rests = true) : Leads aborted phase .loading
  | succeed : Leads aborted .loading .ready
  | fail : Leads aborted .loading .failed
  | reset (isAborted : aborted) : Leads aborted .loading .idle
  | dispose {phase : Lifecycle} : Leads aborted phase .disposed

namespace Snapshot

/-- The fields of a snapshot are in accord. -/
structure Coherent (snapshot : Snapshot α) : Prop where
  loading : snapshot.isLoading = true ↔ snapshot.phase = .loading
  ready : snapshot.phase = .ready → snapshot.data.isSome = true ∧ snapshot.error = none
  idle : snapshot.phase = .idle → snapshot.data = none ∧ snapshot.error = none
  live : snapshot.live = true → snapshot.data.isSome = true

/-- One update of a snapshot. -/
inductive Next (aborted : Prop) (snapshot : Snapshot α) : Snapshot α → Prop where
  | load (query : Query) (active : snapshot.phase ≠ .disposed) :
      Next aborted snapshot (snapshot.load query)
  | succeed (data : α) (live : Bool) (waits : snapshot.phase = .loading) :
      Next aborted snapshot (snapshot.succeed data live)
  | fail (message : String) (waits : snapshot.phase = .loading) :
      Next aborted snapshot (snapshot.fail message)
  | abort (isAborted : aborted) (waits : snapshot.phase = .loading) :
      Next aborted snapshot snapshot.abort
  | dismissError (shown : snapshot.error.isSome = true) :
      Next aborted snapshot snapshot.dismissError
  | dispose : Next aborted snapshot snapshot.dispose

variable {snapshot later : Snapshot α} {aborted : Prop}

/-- A view that rests tells an error first, then its data, and else it is idle. -/
theorem resting_cases (snapshot : Snapshot α) :
    snapshot.resting = .failed ∨
      snapshot.resting = .ready ∧ snapshot.data.isSome = true ∧ snapshot.error = none ∨
      snapshot.resting = .idle ∧ snapshot.data = none ∧ snapshot.error = none := by
  unfold resting
  cases snapshot.error with
  | some message => exact .inl rfl
  | none =>
    cases snapshot.data with
    | some data => exact .inr (.inl ⟨rfl, rfl, rfl⟩)
    | none => exact .inr (.inr ⟨rfl, rfl, rfl⟩)

/-- To dismiss an error that is shown changes the error and the version. -/
theorem dismissError_of_error (shown : snapshot.error.isSome = true) :
    snapshot.dismissError = { snapshot with error := none, version := snapshot.version + 1 } :=
  if_pos shown

/-- An aborted fetch leaves the fields in accord. -/
theorem Coherent.abort (coherent : snapshot.Coherent) : snapshot.abort.Coherent := by
  refine ⟨iff_of_false nofun (Synchronizer.resting_ne_loading snapshot), fun isReady => ?_,
    fun isIdle => ?_, coherent.live⟩
  · rcases snapshot.resting_cases with failed | ⟨-, shown⟩ | ⟨idle, -⟩
    · exact nomatch failed.symm.trans isReady
    · exact shown
    · exact nomatch idle.symm.trans isReady
  · rcases snapshot.resting_cases with failed | ⟨ready, -⟩ | ⟨-, shown⟩
    · exact nomatch failed.symm.trans isIdle
    · exact nomatch ready.symm.trans isIdle
    · exact shown

namespace Next

/-- What is shown next has the next version. -/
theorem version_eq (next : snapshot.Next aborted later) :
    later.version = snapshot.version + 1 := by
  cases next with
  | load | succeed | fail | abort | dispose => rfl
  | dismissError shown => rw [dismissError_of_error shown]

/-- What is shown next is in accord if what is shown now is. -/
theorem coherent (next : snapshot.Next aborted later) (coherent : snapshot.Coherent) :
    later.Coherent := by
  cases next with
  | load query active => exact ⟨iff_of_true rfl rfl, nofun, nofun, coherent.live⟩
  | succeed data live waits =>
    exact ⟨iff_of_false nofun nofun, fun _ => ⟨rfl, rfl⟩, nofun, fun _ => rfl⟩
  | fail message waits => exact ⟨iff_of_false nofun nofun, nofun, nofun, coherent.live⟩
  | abort isAborted waits => exact coherent.abort
  | dismissError shown =>
    rw [dismissError_of_error shown]
    exact ⟨coherent.loading, fun ready => ⟨(coherent.ready ready).1, rfl⟩,
      fun idle => ⟨(coherent.idle idle).1, rfl⟩, coherent.live⟩
  | dispose => exact ⟨iff_of_false nofun nofun, nofun, nofun, coherent.live⟩

/-- What is shown next is in the same phase, or in one that can follow it. -/
theorem leads (next : snapshot.Next aborted later) :
    later.phase = snapshot.phase ∨ Lifecycle.Leads aborted snapshot.phase later.phase := by
  cases next with
  | load query active =>
    by_cases waits : snapshot.phase = .loading
    · exact .inl waits.symm
    · exact .inr (.load (Lifecycle.rests_iff.2 ⟨waits, active⟩))
  | succeed data live waits =>
    rw [waits]
    exact .inr .succeed
  | fail message waits =>
    rw [waits]
    exact .inr .fail
  | abort isAborted waits =>
    have phase : snapshot.abort.phase = snapshot.resting := rfl
    rw [waits, phase]
    rcases snapshot.resting_cases with failed | ⟨ready, -⟩ | ⟨idle, -⟩
    · exact .inr (failed ▸ .fail)
    · exact .inr (ready ▸ .succeed)
    · exact .inr (idle ▸ .reset isAborted)
  | dismissError shown =>
    rw [dismissError_of_error shown]
    exact .inl rfl
  | dispose => exact .inr .dispose

end Next

end Snapshot

namespace Synchronizer

/-- What is shown stays, or is updated once. -/
def Updates (before after : Synchronizer α) : Prop :=
  after.snapshot = before.snapshot ∨
    before.snapshot.Next (before.aborts < after.aborts) after.snapshot

/-- What one step makes of what is shown: it stays, or is updated, and after that the synchronizer
may end. -/
def Turned (before after : Synchronizer α) : Prop :=
  before.Updates after ∨
    ∃ shown, before.snapshot.Next (before.aborts < after.aborts) shown ∧
      after.snapshot = shown.dispose

/-- The phase is loading while a generation may deliver, and is not the last one before the end. -/
structure Placed (sync : Synchronizer α) : Prop where
  waits : ∀ generation, sync.controller.isCurrent generation = true →
    sync.snapshot.phase = .loading
  active : sync.disposed = false → sync.snapshot.phase ≠ .disposed

variable {sync before after : Synchronizer α} {now : Nat}

namespace Turned

theorem version (turned : before.Turned after) :
    after.snapshot = before.snapshot ∨ before.snapshot.version < after.snapshot.version := by
  rcases turned with (same | next) | ⟨shown, next, ends⟩
  · exact .inl same
  · exact .inr (next.version_eq ▸ Nat.lt_succ_self _)
  · have raised : after.snapshot.version = before.snapshot.version + 1 + 1 := by
      rw [ends, ← next.version_eq]
      rfl
    exact .inr (by omega)

theorem coherent (turned : before.Turned after) (coherent : before.snapshot.Coherent) :
    after.snapshot.Coherent := by
  rcases turned with (same | next) | ⟨shown, next, ends⟩
  · rw [same]
    exact coherent
  · exact next.coherent coherent
  · rw [ends]
    have disposes : shown.Next False shown.dispose := .dispose
    exact disposes.coherent (next.coherent coherent)

theorem leads (turned : before.Turned after) :
    after.snapshot.phase = before.snapshot.phase ∨
      Lifecycle.Leads (before.aborts < after.aborts) before.snapshot.phase
        after.snapshot.phase := by
  rcases turned with (same | next) | ⟨shown, -, ends⟩
  · exact .inl (congrArg Snapshot.phase same)
  · exact next.leads
  · rw [ends]
    exact .inr .dispose

end Turned

/-! ## Steps -/

/-- A cycle that begins makes one update, or is refused and makes none. -/
theorem updates_begin (placed : sync.Placed) (active : sync.disposed = false) (cause : Cause) :
    sync.Updates (sync.begin now cause).2 := by
  cases issued : sync.controller.issue with
  | error error =>
    rw [begin_of_error issued]
    exact .inl rfl
  | ok taken =>
    obtain ⟨call, events, -, -, begins⟩ := begin_of_issue (Prod.eta taken ▸ issued) now cause
    rw [begins]
    exact .inr (.load call.query (placed.active active))

/-- A commit takes a view that is loading out of that phase. -/
theorem updates_commit (waits : sync.snapshot.phase = .loading) (generation : Nat)
    (outcome : Outcome α) : sync.Updates (sync.commit now generation outcome).1 := by
  cases outcome with
  | ok data =>
    obtain ⟨events, same⟩ := reschedule_eq
      ({ sync with snapshot := sync.snapshot.succeed data (sync.liveness data).live }.emit now
        .fetchApplied generation none) now (sync.liveness data).live
    simp only [commit, same]
    exact .inr (.succeed data _ waits)
  | error error =>
    cases error with
    | failed message => exact .inr (.fail message waits)
    | cancelled =>
      have aborted : (sync.commit now generation (.error .cancelled)).1.aborts = sync.aborts + 1 :=
        List.countP_cons_of_pos rfl
      exact .inr (.abort (aborted ▸ Nat.lt_succ_self _) waits)

/-- A fetch is committed only as long as its view waits for it. -/
theorem updates_resolve (placed : sync.Placed) (generation : Nat) (outcome : Outcome α) :
    sync.Updates (sync.resolve now generation outcome).2.1 := by
  unfold resolve
  cases current : sync.controller.isCurrent generation with
  | true =>
    simp only [Controller.resolve_of_isCurrent current]
    have waits : sync.deactivate.snapshot.phase = .loading := placed.waits generation current
    exact updates_commit waits generation outcome
  | false =>
    simp only [Controller.resolve_of_not_isCurrent current]
    exact .inl rfl

/-- So a cycle updates what is shown once at most. -/
theorem updates_advanceCycle (placed : sync.Placed) (now : Nat) (cycle : Cycle α) :
    sync.Updates (sync.advanceCycle now cycle).2.1 := by
  unfold advanceCycle
  split
  next cause =>
    split
    next => exact .inl rfl
    next active => exact updates_begin placed (Bool.eq_false_iff.2 active) cause
  next =>
    split
    next => exact updates_resolve placed ..
    next => exact .inl rfl
  next => exact .inl rfl

/-- The end is no abort. -/
theorem aborts_dispose (sync : Synchronizer α) (now : Nat) :
    (sync.dispose now).aborts = sync.aborts := by
  unfold dispose
  split
  next => rfl
  next => exact List.countP_cons_of_neg nofun

/-- The end is shown once. -/
theorem snapshot_dispose (sync : Synchronizer α) (now : Nat) :
    (sync.dispose now).snapshot = sync.snapshot ∨
      (sync.dispose now).snapshot = sync.snapshot.dispose := by
  unfold dispose
  split
  next => exact .inl rfl
  next => exact .inr rfl

/-- An update, and an end of the synchronizer after it. -/
theorem Updates.dispose (updates : before.Updates after) (now : Nat) :
    before.Turned (after.dispose now) := by
  have aborts := aborts_dispose after now
  rcases updates with same | next
  · rcases snapshot_dispose after now with still | ends
    · exact .inl (.inl (still.trans same))
    · rw [same] at ends
      exact .inl (.inr (ends ▸ .dispose))
  · rcases snapshot_dispose after now with still | ends
    · refine .inl (.inr ?_)
      rw [still, aborts]
      exact next
    · refine .inr ⟨after.snapshot, ?_, ends⟩
      rw [aborts]
      exact next

/-- A turn that lets go of its synchronizer at the end may show the end too. -/
theorem Updates.release (updates : before.Updates after) (now : Nat) :
    before.Turned (after.release now) := by
  have held : before.Updates { after with holders := after.holders - 1 } := updates
  unfold Synchronizer.release
  dsimp only
  split
  next => exact held.dispose now
  next => exact .inl held

/-- A turn of a cycle takes what is shown to what can follow. -/
theorem turned_stepCycle (placed : sync.Placed) (caller : Option Nat) (cycle : Cycle α) :
    sync.Turned (sync.stepCycle now caller cycle).2.1 := by
  have updates := updates_advanceCycle placed now cycle
  unfold stepCycle
  rcases advances : sync.advanceCycle now cycle with ⟨resolved, after, timers⟩
  rw [advances] at updates
  cases caller with
  | none => cases resolved <;> exact .inl updates
  | some call =>
    cases resolved with
    | unstarted | fetching => exact .inl updates
    | finished result =>
      have recorded :
          sync.Updates { after with finished := (call, now, result) :: after.finished } := updates
      exact recorded.release now

/-- So does a turn of a loop of the poll timer. -/
theorem updates_stepTimer (placed : sync.Placed) (timer : Timer α) :
    sync.Updates (sync.stepTimer now timer).2.1 := by
  unfold stepTimer
  cases timer.stage with
  | unstarted | ended => exact .inl rfl
  | waiting deadline =>
    dsimp only
    split
    next => exact .inl rfl
    next =>
      obtain ⟨_, _, _, meets, -⟩ := meet_eq sync now deadline timer
      rw [meets]
      exact .inl rfl
  | working deadline cycle =>
    dsimp only
    split
    next => exact .inl rfl
    next => exact updates_advanceCycle placed now cycle

/-- So does a turn of any task. -/
theorem turned_stepTask (placed : sync.Placed) (task : Task α) :
    sync.Turned (stepTask now sync task).2.1 := by
  cases task with
  | watcher seen =>
    unfold stepTask
    dsimp only
    split <;> exact .inl (.inl rfl)
  | cycle caller cycle => exact turned_stepCycle placed caller cycle
  | timer timer => exact .inl (updates_stepTimer placed timer)
  | ended => exact .inl (.inl rfl)

variable {bench later : Bench α}

/-- So does a step of the queue. -/
theorem turned_step (placed : bench.state.Placed) :
    bench.state.Turned (bench.step program).state := by
  rcases Executor.step_cases program bench with
    ⟨state, -⟩ | ⟨older, task, newer, next, after, spawned, -, -, turn, state, -⟩
  · rw [state]
    exact .inl (.inl rfl)
  · obtain ⟨-, rfl, -⟩ := stepTask_of_step turn
    rw [state]
    exact turned_stepTask placed task

/-! ## Actions from outside -/

/-- Whether an action is done at once, and no task has a turn meanwhile. -/
def Action.isImmediate : Action α → Bool
  | settle | advance _ => false
  | mutate _ | write _ | refresh | syncNow _ | dismissError | dispose | drop | addReply _
  | setLastResort _ => true

/-- To dismiss an error updates what is shown, if there is an error. -/
theorem updates_dismissError (sync : Synchronizer α) : sync.Updates sync.dismissError := by
  unfold Synchronizer.dismissError
  split
  next => exact .inl rfl
  next =>
    cases shown : sync.snapshot.error.isSome with
    | true => exact .inr (.dismissError shown)
    | false => exact .inl (if_neg (Bool.eq_false_iff.1 shown))

/-- So does every action that lets no task go on. -/
theorem turned_perform (bench : Bench α) {action : Action α}
    (immediate : action.isImmediate = true) : bench.state.Turned (perform bench action).state := by
  have same : bench.state.Updates bench.state := .inl rfl
  cases action with
  | mutate edit =>
    simp only [perform, mutate]
    split
    next => exact .inl same
    next query after mutates =>
      split at mutates
      next => cases mutates
      next =>
        cases mutates
        exact .inl same
  | refresh =>
    simp only [perform]
    split
    next => exact .inl same
    next => exact .inl same
  | write | syncNow | addReply | setLastResort => exact .inl same
  | dismissError => exact .inl (updates_dismissError bench.state)
  | dispose => exact same.dispose bench.now
  | drop => exact same.release bench.now
  | settle | advance => cases immediate

/-- A single step: somebody acts, the first task of the queue has its turn, or the clock moves. -/
inductive Step (bench : Bench α) : Bench α → Prop where
  | act {action : Action α} (immediate : action.isImmediate = true) :
      Step bench (perform bench action)
  | turn : Step bench (bench.step program)
  | clock (time : Nat) : Step bench (bench.moveTo program time)

/-- An action is one step, or it lets tasks go on and the clock move step by step. -/
theorem steps_perform (bench : Bench α) (action : Action α) :
    Relation.ReflTransGen Step bench (perform bench action) := by
  cases action with
  | mutate | write | refresh | syncNow | dismissError | dispose | drop | addReply
  | setLastResort => exact .single (.act rfl)
  | settle => exact Executor.settle_induction (fun _ steps => steps.tail .turn) .refl
  | advance duration =>
    exact Executor.advance_induction (fun _ steps => steps.tail .turn)
      (fun _ time steps => steps.tail (.clock time)) duration .refl

/-- Whatever is reached is reached by single steps. -/
theorem Reaches.steps (reaches : Reaches bench later) :
    Relation.ReflTransGen Step bench later := by
  induction reaches with
  | refl => exact .refl
  | perform _ action _ steps => exact steps.trans (steps_perform _ action)
  | step _ steps => exact steps.tail .turn
  | moveTo _ time steps => exact steps.tail (.clock time)

/-- And single steps reach nothing else. -/
theorem Step.reaches (step : Step bench later) : Reaches bench later := by
  cases step with
  | act => exact Reaches.perform .refl _
  | turn => exact ReachesBy.refl.step
  | clock time => exact ReachesBy.refl.moveTo time

/-- A single step takes what is shown to what can follow. -/
theorem Step.turned (step : Step bench later) (placed : bench.state.Placed) :
    bench.state.Turned later.state := by
  cases step with
  | act immediate => exact turned_perform bench immediate
  | turn => exact turned_step placed
  | clock => exact .inl (.inl rfl)

/-! ## What is reached -/

variable {view : View} {scope : Scope} {liveness : Liveness α} {query : String}
  {replies : List (Reply α)} {lastResort : Reply α}

/-- A commit is not the end. -/
theorem phase_commit_ne (sync : Synchronizer α) (now generation : Nat) (outcome : Outcome α) :
    (sync.commit now generation outcome).1.snapshot.phase ≠ .disposed := by
  cases outcome with
  | ok data =>
    obtain ⟨events, same⟩ := reschedule_eq
      ({ sync with snapshot := sync.snapshot.succeed data (sync.liveness data).live }.emit now
        .fetchApplied generation none) now (sync.liveness data).live
    simp only [commit, same]
    intro ends
    cases ends
  | error error =>
    cases error with
    | failed message =>
      intro ends
      cases ends
    | cancelled =>
      have phase : (sync.commit now generation (.error .cancelled)).1.snapshot.phase =
          sync.snapshot.resting := rfl
      rw [phase]
      rcases sync.snapshot.resting_cases with failed | ⟨ready, -⟩ | ⟨idle, -⟩
      · simp [failed]
      · simp [ready]
      · simp [idle]

/-- What is shown as over is over. -/
theorem Change.disposed {tasks rest : List (Task α)}
    (shown : sync.snapshot.phase = .disposed → sync.disposed = true)
    (change : Change sync tasks after rest) :
    after.snapshot.phase = .disposed → after.disposed = true := by
  cases change with
  | write | reply | hold | record | spawn | leave | skip | tick | discard => exact shown
  | dismissError active =>
    intro ends
    have phase := (snapshot_dismissError sync).2
    rw [Synchronizer.dismissError, if_neg (Bool.eq_false_iff.1 active)] at phase
    exact shown (phase.symm.trans ends)
  | dispose now => exact fun _ => disposed_dispose sync now
  | begin unstarted active goesOn issued =>
    obtain ⟨call, events, -, -, begins⟩ := begin_of_issue issued _ _
    rw [begins]
    intro ends
    cases ends
  | commit => exact fun ends => (phase_commit_ne _ _ _ _ ends).elim

/-- Wherever a synchronizer is, a current generation loads, and only the end shows the end. -/
theorem Reachable.placed
    (created : create view scope liveness query { replies, lastResort } = .ok sync)
    (reachable : Reachable sync bench) : bench.state.Placed := by
  have closed := (reachable.steady created).closed
  refine ⟨fun generation current => ?_, fun active ends => ?_⟩
  · obtain ⟨running, active⟩ := Controller.isCurrent_iff.1 current
    have sound := reachable.upheld created (closed.symm.trans running)
    exact sound.consistent.loading.2 (active ▸ rfl)
  · have shown : bench.state.snapshot.phase = .disposed → bench.state.disposed = true := by
      refine reachable.keeps Change.disposed ?_
      obtain ⟨setting, rfl⟩ := eq_of_create created
      exact nofun
    exact absurd (active.symm.trans (shown ends)) Bool.false_ne_true

/-- What no step changes of what is shown holds from any moment on. -/
theorem Reaches.turned {Property : Snapshot α → Prop}
    (each : ∀ {before after : Synchronizer α}, before.Turned after → Property before.snapshot →
      Property after.snapshot)
    (created : create view scope liveness query { replies, lastResort } = .ok sync)
    (reachable : Reachable sync bench) (reaches : Reaches bench later)
    (holds : Property bench.state.snapshot) : Property later.state.snapshot := by
  have steps := reaches.steps
  clear reaches
  have both : Reachable sync later ∧ Property later.state.snapshot := by
    induction steps with
    | refl => exact ⟨reachable, holds⟩
    | tail _ step before =>
      obtain ⟨reachable, holds⟩ := before
      have placed := reachable.placed created
      exact ⟨reachable.trans step.reaches, each (step.turned placed) holds⟩
  exact both.2

/-- The fields of what is shown are in accord at all times. -/
theorem Reachable.coherent
    (created : create view scope liveness query { replies, lastResort } = .ok sync)
    (reachable : Reachable sync bench) : bench.state.snapshot.Coherent := by
  refine Reaches.turned Turned.coherent created .start reachable ?_
  obtain ⟨setting, rfl⟩ := eq_of_create created
  exact ⟨iff_of_false nofun nofun, nofun, fun _ => ⟨rfl, rfl⟩, nofun⟩

/-- The version tells what is shown, and never goes back. -/
theorem Reaches.version
    (created : create view scope liveness query { replies, lastResort } = .ok sync)
    (reachable : Reachable sync bench) (reaches : Reaches bench later) :
    later.state.snapshot = bench.state.snapshot ∨
      bench.state.snapshot.version < later.state.snapshot.version := by
  let Property (snapshot : Snapshot α) : Prop :=
    snapshot = bench.state.snapshot ∨ bench.state.snapshot.version < snapshot.version
  have each {before after : Synchronizer α} (turned : before.Turned after)
      (holds : Property before.snapshot) : Property after.snapshot := by
    rcases turned.version with same | raised
    · exact same ▸ holds
    · rcases holds with same | already
      · exact .inr (same ▸ raised)
      · exact .inr (Nat.lt_trans already raised)
  exact Reaches.turned each created reachable reaches (.inl rfl)

/-- Wherever a synchronizer is, the fields of what it shows are in accord.  A step that changes any
of them raises the version, and takes the phase to one that can follow.  So the version never goes
back, and of two moments with the same version one shows what the other does. -/
theorem snapshot_coherent
    (created : create view scope liveness query { replies, lastResort } = .ok sync)
    (reachable : Reachable sync bench) :
    bench.state.snapshot.Coherent ∧
      (∀ later, Step bench later →
        (later.state.snapshot = bench.state.snapshot ∨
          bench.state.snapshot.version < later.state.snapshot.version) ∧
        (later.state.snapshot.phase = bench.state.snapshot.phase ∨
          Lifecycle.Leads (bench.state.aborts < later.state.aborts) bench.state.snapshot.phase
            later.state.snapshot.phase)) ∧
      ∀ later, Reaches bench later →
        Relation.ReflTransGen Step bench later ∧
        bench.state.snapshot.version ≤ later.state.snapshot.version ∧
        (later.state.snapshot.version = bench.state.snapshot.version →
          later.state.snapshot = bench.state.snapshot) := by
  refine ⟨reachable.coherent created, fun later step => ?_, fun later reaches => ?_⟩
  · have turned := step.turned (reachable.placed created)
    exact ⟨turned.version, turned.leads⟩
  · refine ⟨reaches.steps, ?_⟩
    rcases Reaches.version created reachable reaches with same | raised
    · exact ⟨Nat.le_of_eq (congrArg Snapshot.version same.symm), fun _ => same⟩
    · exact ⟨Nat.le_of_lt raised, fun equal => absurd equal.symm (Nat.ne_of_lt raised)⟩

/-- The first fetch is aborted when it lands.  The view was loading, and is idle again. -/
theorem snapshot_coherent_aborted :
    let created := create (View.preset "executions" .execution) {} (Verdict.ofCount 1000) ""
      { replies := [], lastResort := .after 10 (.error .cancelled) }
    ∃ sync : Synchronizer Nat, created = .ok sync ∧
      let loading := (([.settle] : List (Action Nat)).foldl perform sync.start).moveTo program 10
      Reachable sync loading ∧ Step loading (loading.step program) ∧
        loading.state.snapshot.phase = .loading ∧
        (loading.step program).state.snapshot.phase = .idle ∧
        loading.state.snapshot.Coherent ∧
        loading.state.snapshot.version < (loading.step program).state.snapshot.version := by
  intro created
  have isCreated : created = .ok _ := rfl
  refine ⟨_, isCreated, ?_⟩
  intro loading
  have reachable : Reachable _ loading := (Reachable.start.foldl [.settle]).moveTo 10
  obtain ⟨coherent, steps, -⟩ := snapshot_coherent isCreated reachable
  have waits : loading.state.snapshot.phase = .loading := by decide
  have returns : (loading.step program).state.snapshot.phase = .idle := by decide
  refine ⟨reachable, .turn, waits, returns, coherent, ?_⟩
  rcases (steps _ .turn).1 with same | raised
  · exact nomatch waits.symm.trans ((congrArg Snapshot.phase same).symm.trans returns)
  · exact raised

end Synchronizer

end QuerySync
