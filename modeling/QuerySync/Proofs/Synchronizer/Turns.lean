import QuerySync.Proofs.Executor
import QuerySync.Proofs.Synchronizer.Sound

/-!
# Turns of the tasks of a synchronizer

Whatever task has its turn, what holds of a synchronizer and its tasks goes on to hold, as long
as the synchronizer is not over (`keeps_upheld`).  So it does with every action from outside
(`Upheld.perform`).
-/

namespace QuerySync.Synchronizer

variable {α : Type} {view : View} {sync after : Synchronizer α} {now : Nat}
  {tasks older newer : List (Task α)} {task next : Task α}

/-! ## Cycles -/

theorem Task.pending?_eq {cycle : Cycle α} (works : task.cycle? = some cycle) :
    task.pending? = cycle.pending? := by
  rw [Task.pending?, works]
  rfl

theorem Task.ne_watcher {cycle : Cycle α} (works : task.cycle? = some cycle) (seen : Nat) :
    task ≠ .watcher seen := by
  rintro rfl
  exact nomatch works

/-- A task in the middle of a fetch does not look at the location. -/
theorem Task.looks_fetching {pending : Pending α}
    (works : task.cycle? = some (.fetching pending)) (version : Nat) :
    task.looks version = false := by
  cases task with
  | watcher seen => exact nomatch works
  | cycle caller work =>
    cases works
    rfl
  | timer loop => rfl
  | ended => rfl

/-- A new loop of the poll timer has no fetch. -/
theorem idle_timers {timers : List (Timer α)}
    (unstarted : ∀ timer ∈ timers, timer.stage = .unstarted) :
    ∀ task ∈ timers.map Task.timer, task.pending? = none := by
  intro task member
  obtain ⟨timer, armed, rfl⟩ := List.mem_map.1 member
  simp only [Task.pending?, Task.cycle?, unstarted timer armed]
  rfl

/-- A reply that lands gives its outcome. -/
theorem reply_of_landed {reply : Reply α} {start : Nat} {outcome : Outcome α}
    (landed : (reply.flight start).landed? now = some outcome) :
    ∃ delay, reply = .after delay outcome := by
  cases reply with
  | never => exact nomatch landed
  | after delay given =>
    simp only [Reply.flight, Flight.landed?] at landed
    split at landed
    next =>
      cases landed
      exact ⟨delay, rfl⟩
    next => exact nomatch landed

/-- What lands for the active generation is the reply to its call. -/
theorem Tracked.landed (tracked : sync.Tracked tasks) (coherent : sync.controller.Coherent)
    {pending : Pending α} (member : pending ∈ pendings tasks)
    (active : sync.controller.active = some pending.generation) {outcome : Outcome α}
    (landed : pending.outcome? sync.controller now = some outcome) :
    ∃ call ∈ sync.transport.calls, call.generation = pending.generation ∧
      ∃ delay, call.reply = .after delay outcome := by
  obtain ⟨call, isCall, generation, flight⟩ := tracked.called pending member
  have uncancelled : sync.controller.isCancelled pending.generation ≠ true :=
    fun cancelled => coherent.uncancelled active (Controller.isCancelled_iff.1 cancelled)
  rw [Pending.outcome?, if_neg uncancelled, flight] at landed
  exact ⟨call, isCall, generation, reply_of_landed landed⟩

/-- For a sound synchronizer that is the latest call. -/
theorem Sound.landed (sound : Sound view sync tasks) {pending : Pending α}
    (member : pending ∈ pendings tasks)
    (active : sync.controller.active = some pending.generation) {outcome : Outcome α}
    (landed : pending.outcome? sync.controller now = some outcome) :
    ∃ call ∈ sync.transport.calls.head?, ∃ delay, call.reply = .after delay outcome := by
  have coherent := sound.consistent.coherent
  obtain ⟨call, isCall, generation, reply⟩ :=
    sound.tracked.landed coherent member active landed
  exact ⟨call, sound.consistent.head?_calls isCall (generation.trans (coherent.latest active)),
    reply⟩

/-- The fetch of the active generation is committed, and its generation is the last one. -/
theorem Sound.resolve_of_isCurrent (sound : Sound view sync (older ++ task :: newer))
    {pending : Pending α} (works : task.cycle? = some (.fetching pending)) {outcome : Outcome α}
    (landed : pending.outcome? sync.controller now = some outcome) (done : next.pending? = none)
    (current : sync.controller.isCurrent pending.generation = true) :
    Sound view (sync.resolve now pending.generation outcome).2.1
      (older ++ next :: newer ++
        (sync.resolve now pending.generation outcome).2.2.map .timer) := by
  have has : task.pending? = some pending := Task.pending?_eq works
  have blind := Task.looks_fetching works sync.store.version
  have active := (Controller.isCurrent_iff.1 current).2
  obtain ⟨call, latest, delay, reply⟩ :=
    sound.landed (by simp [pendings_split, has]) active landed
  obtain ⟨scheduler, events, snapshot, timers, resolved, commits⟩ :=
    Synchronizer.resolve_of_isCurrent current now outcome
  rw [resolved]
  refine ⟨sound.view, sound.consistent.commit rfl rfl commits.query commits.rests latest ?_,
    sound.tracked.commit has active done (idle_timers commits.starts.unstarted) rfl rfl,
    sound.watched.replace (Task.ne_watcher works) rfl (.inr ⟨commits.query, blind⟩) rfl⟩
  rw [reply]
  exact fun isReady => commits.shows isReady delay

/-- Any other fetch is dropped, and changes nothing that is shown. -/
theorem Sound.resolve_of_not_isCurrent (sound : Sound view sync (older ++ task :: newer))
    {pending : Pending α} (works : task.cycle? = some (.fetching pending)) (outcome : Outcome α)
    (done : next.pending? = none)
    (superseded : sync.controller.isCurrent pending.generation = false) :
    Sound view (sync.resolve now pending.generation outcome).2.1
      (older ++ next :: newer ++
        (sync.resolve now pending.generation outcome).2.2.map .timer) := by
  obtain ⟨isView, consistent, tracked, watched⟩ := sound
  have inactive : sync.controller.active ≠ some pending.generation := fun active =>
    Bool.eq_false_iff.1 superseded (Controller.isCurrent_iff.2 ⟨consistent.running, active⟩)
  obtain ⟨error, events, resolved⟩ :=
    Synchronizer.resolve_of_not_isCurrent superseded now outcome
  rw [resolved, List.map_nil]
  have dropped : sync.Tracked (older ++ next :: newer ++ []) := by
    refine tracked.drop (fun active same => ?_) done nofun
    rw [Task.pending?_eq works] at same
    exact absurd (active.trans same.symm) inactive
  exact ⟨isView, { consistent with coherent := { consistent.coherent with } }, { dropped with },
    watched.replace (Task.ne_watcher works) rfl (.inr ⟨rfl, Task.looks_fetching works _⟩) rfl⟩

/-- A cycle that begins takes the next generation, and calls for the query of the location. -/
theorem Sound.begin (sound : Sound view sync (older ++ task :: newer)) {cause : Cause}
    (works : task.cycle? = some (.unstarted cause))
    (wrapped : next.pending? = (sync.begin now cause).1.pending?)
    (goesOn : sync.isOver next = false) :
    Sound view (sync.begin now cause).2 (older ++ next :: newer) := by
  obtain ⟨isView, consistent, tracked, watched⟩ := sound
  cases issued : sync.controller.issue with
  | error error =>
    have disposed := (Controller.issue_eq_error issued).1
    exact absurd (consistent.running.symm.trans disposed) Bool.false_ne_true
  | ok taken =>
    obtain ⟨generation, controller⟩ := taken
    obtain ⟨call, events, called, query, begins⟩ := begin_of_issue issued now cause
    rw [begins] at wrapped ⊢
    refine ⟨isView, consistent.begin issued called rfl rfl,
      tracked.begin consistent.coherent (Task.pending?_eq works) wrapped issued called rfl rfl
        goesOn, ?_⟩
    rw [← List.append_nil (older ++ next :: newer)]
    exact watched.replace (Task.ne_watcher works) rfl (.inl query) rfl

/-- So a cycle that goes on keeps everything in place. -/
theorem Sound.advanceCycle (sound : Sound view sync (older ++ task :: newer))
    (active : sync.disposed = false) {cycle : Cycle α} (works : task.cycle? = some cycle)
    (able : sync.canRunCycle now cycle = true)
    (wrapped : next.pending? = (sync.advanceCycle now cycle).1.pending?)
    (goesOn : sync.isOver next = false) :
    Sound view (sync.advanceCycle now cycle).2.1
      (older ++ next :: newer ++ (sync.advanceCycle now cycle).2.2.map .timer) := by
  cases cycle with
  | unstarted cause =>
    simp only [Synchronizer.advanceCycle, active] at wrapped ⊢
    simpa using sound.begin works wrapped goesOn
  | fetching pending =>
    obtain ⟨outcome, landed⟩ := Option.isSome_iff_exists.1 able
    simp only [Synchronizer.advanceCycle, landed] at wrapped ⊢
    cases current : sync.controller.isCurrent pending.generation with
    | true =>
      obtain ⟨_, _, _, _, resolved, -⟩ := Synchronizer.resolve_of_isCurrent current now outcome
      rw [resolved] at wrapped
      exact sound.resolve_of_isCurrent works landed wrapped current
    | false =>
      obtain ⟨_, _, resolved⟩ := Synchronizer.resolve_of_not_isCurrent current now outcome
      rw [resolved] at wrapped
      exact sound.resolve_of_not_isCurrent works outcome wrapped current
  | finished result => exact nomatch able

/-! ## Timers -/

/-- Counters and records are nobody's concern. -/
theorem Sound.note (sound : Sound view sync tasks) {scheduler : Scheduler Unit}
    (armed : scheduler.armed = sync.scheduler.armed) {holders : Nat}
    {events : List (Nat × Event)} {finished : List (Nat × Nat × Except SyncError Unit)} :
    Sound view { sync with scheduler, holders, events, finished } tasks := by
  obtain ⟨isView, consistent, tracked, watched⟩ := sound
  refine ⟨isView, { consistent with }, { tracked with holder := ?_ }, { watched with }⟩
  intro generation active
  obtain ⟨task, member, has, goesOn⟩ := tracked.holder generation active
  refine ⟨task, member, has, ?_⟩
  cases task with
  | timer loop =>
    simp only [isOver, Scheduler.isOver, armed] at goesOn ⊢
    exact goesOn
  | watcher | cycle | ended => rfl

/-- A task that has no fetch, or is over, goes on to have none. -/
theorem Sound.pass (sound : Sound view sync (older ++ task :: newer))
    (gone : task.pending? = none ∨ sync.isOver task = true)
    (noWatcher : ∀ seen, task ≠ .watcher seen)
    (blind : task.looks sync.store.version = false) (done : next.pending? = none) :
    Sound view sync (older ++ next :: newer ++ []) := by
  obtain ⟨isView, consistent, tracked, watched⟩ := sound
  refine ⟨isView, consistent, tracked.drop (fun _ has => ?_) done nofun,
    watched.replace noWatcher rfl (.inr ⟨rfl, blind⟩) rfl⟩
  rcases gone with none | isOver
  · rw [none] at has
    exact nomatch has
  · exact isOver

/-- A loop that goes on does so too, whether it meets a deadline or is in its cycle. -/
theorem Sound.stepTimer {timer : Timer α} (sound : Sound view sync (older ++ .timer timer :: newer))
    (active : sync.disposed = false) (able : canRun now sync (.timer timer) = true) :
    Sound view (sync.stepTimer now timer).2.1
      (older ++ (sync.stepTimer now timer).1 :: newer ++ (sync.stepTimer now timer).2.2) := by
  unfold Synchronizer.stepTimer
  cases stage : timer.stage with
  | unstarted =>
    exact sound.pass (.inl (by simp [Task.pending?, Task.cycle?, stage])) nofun rfl rfl
  | waiting deadline =>
    have idle : (Task.timer timer).pending? = none := by simp [Task.pending?, Task.cycle?, stage]
    simp only
    split
    next => exact sound.pass (.inl idle) nofun rfl rfl
    next =>
      obtain ⟨stage, _, _, meets, -, armed, waitsOrWorks⟩ := meet_eq sync now deadline timer
      rw [meets]
      refine (sound.pass (.inl idle) nofun rfl ?_).note armed
      rcases waitsOrWorks with rfl | rfl
      · rfl
      · rfl
  | working deadline cycle =>
    simp only
    split
    next isOver => exact sound.pass (.inr isOver) nofun rfl rfl
    next goesOn =>
      have goesOn : sync.scheduler.isOver timer.arming = false := Bool.eq_false_iff.2 goesOn
      have works : (Task.timer timer).cycle? = some cycle := by simp [Task.cycle?, stage]
      simp only [canRun, stage, goesOn, Bool.false_or] at able
      refine sound.advanceCycle active works able ?_ goesOn
      cases (sync.advanceCycle now cycle).1 with
      | unstarted cause => rfl
      | fetching pending => rfl
      | finished result => rfl
  | ended =>
    exact sound.pass (.inl (by simp [Task.pending?, Task.cycle?, stage])) nofun rfl rfl

/-! ## All tasks -/

/-- To let go changes nothing as long as somebody else holds on. -/
theorem Sound.release (sound : Sound view sync tasks)
    (active : (sync.release now).disposed = false) : Sound view (sync.release now) tasks := by
  unfold Synchronizer.release at active ⊢
  dsimp only at active ⊢
  split
  next last =>
    rw [if_pos last, dispose] at active
    split at active
    next disposed => exact absurd (disposed.symm.trans active) Bool.false_ne_true.symm
    next => exact nomatch active
  next => exact sound.note rfl

/-- A cycle that ends for a caller answers it, and lets go. -/
theorem Sound.stepCycle {caller : Option Nat} {cycle : Cycle α}
    (sound : Sound view sync (older ++ .cycle caller cycle :: newer))
    (active : sync.disposed = false) (able : sync.canRunCycle now cycle = true)
    (goesOn : (sync.stepCycle now caller cycle).2.1.disposed = false) :
    Sound view (sync.stepCycle now caller cycle).2.1
      (older ++ (sync.stepCycle now caller cycle).1 :: newer ++
        (sync.stepCycle now caller cycle).2.2) := by
  have advanced (next : Task α)
      (wrapped : next.pending? = (sync.advanceCycle now cycle).1.pending?)
      (runs : sync.isOver next = false) :=
    sound.advanceCycle active rfl able wrapped runs
  unfold Synchronizer.stepCycle at goesOn ⊢
  rcases result : sync.advanceCycle now cycle with ⟨resolved, after, timers⟩
  rw [result] at advanced goesOn
  cases resolved with
  | unstarted cause => cases caller <;> exact advanced (.cycle _ (.unstarted cause)) rfl rfl
  | fetching pending => cases caller <;> exact advanced (.cycle _ (.fetching pending)) rfl rfl
  | finished result =>
    have ended : Sound view after (older ++ .ended :: newer ++ timers.map .timer) :=
      advanced .ended rfl rfl
    cases caller with
    | none => exact ended
    | some call => exact (ended.note rfl).release goesOn

/-- Every task that has its turn keeps everything in place. -/
theorem Sound.stepTask (sound : Sound view sync (older ++ task :: newer))
    (active : sync.disposed = false) (able : canRun now sync task = true)
    (goesOn : (stepTask now sync task).2.1.disposed = false) :
    Sound view (stepTask now sync task).2.1
      (older ++ (stepTask now sync task).1 :: newer ++ (stepTask now sync task).2.2) := by
  cases task with
  | watcher seen =>
    simp only [Synchronizer.stepTask, active]
    refine ⟨sound.view, sound.consistent, sound.tracked.drop nofun rfl ?_, ?_, .inr ?_⟩
    · exact List.forall_mem_singleton.2 rfl
    · exact ⟨sync.store.version, by simp, Nat.le_refl _⟩
    · exact ⟨.cycle none (.unstarted .paramsChanged), by simp, rfl⟩
  | cycle caller cycle => exact sound.stepCycle active able goesOn
  | timer timer => exact sound.stepTimer active able
  | ended => exact nomatch able

/-- A synchronizer and its tasks are sound, or it is over. -/
def Upheld (view : View) (sync : Synchronizer α) (tasks : List (Task α)) : Prop :=
  sync.disposed = false → Sound view sync tasks

/-- So turns keep what holds until the end. -/
theorem keeps_upheld (view : View) : (program (α := α)).Keeps (Upheld view) := by
  intro now sync older task newer next after spawned sound able turn goesOn
  obtain ⟨rfl, rfl, rfl⟩ := stepTask_of_step turn
  have active : sync.disposed = false := by
    refine Bool.eq_false_iff.2 fun disposed => ?_
    exact Bool.eq_false_iff.1 goesOn ((later_stepTask sync now task).disposed disposed)
  exact (sound active).stepTask active able goesOn

/-! ## Actions from outside -/

/-- A new task has no fetch that could be out of place. -/
theorem Sound.spawn (sound : Sound view sync tasks) {spawned : List (Task α)}
    (idle : ∀ task ∈ spawned, task.pending? = none) : Sound view sync (tasks ++ spawned) := by
  obtain ⟨isView, consistent, ⟨distinct, called, held, holder⟩, ⟨watcher, fresh⟩⟩ := sound
  rw [← pendings_append idle] at distinct called held
  refine ⟨isView, consistent, ⟨distinct, called, held, fun generation active => ?_⟩, ?_, ?_⟩
  · obtain ⟨task, member, has⟩ := holder generation active
    exact ⟨task, List.mem_append_left _ member, has⟩
  · obtain ⟨seen, watches, old⟩ := watcher
    exact ⟨seen, List.mem_append_left _ watches, old⟩
  · refine fresh.imp_right ?_
    rintro ⟨task, member, looks⟩
    exact ⟨task, List.mem_append_left _ member, looks⟩

/-- A write that changes the location is not seen by the watcher yet. -/
theorem Sound.write (sound : Sound view sync tasks) (params : Params) :
    Sound view (sync.write params) tasks := by
  obtain ⟨isView, consistent, tracked, watched⟩ := sound
  refine ⟨isView, { consistent with }, { tracked with }, ?_⟩
  by_cases same : params = sync.store.params
  · have store : sync.store.write params = sync.store := if_pos same
    unfold Synchronizer.write
    rw [store]
    exact watched
  · have store : sync.store.write params = { params, version := sync.store.version + 1 } :=
      if_neg same
    unfold Synchronizer.write
    rw [store]
    obtain ⟨seen, watches, old⟩ := watched.watcher
    refine ⟨⟨seen, watches, Nat.le_succ_of_le old⟩, .inr ⟨.watcher seen, watches, ?_⟩⟩
    exact bne_iff_ne.2 (Nat.ne_of_lt (Nat.lt_succ_of_le old))

/-- To dismiss an error changes nothing that the others rely on. -/
theorem Sound.dismissError (sound : Sound view sync tasks) :
    Sound view sync.dismissError tasks := by
  obtain ⟨isView, consistent, tracked, watched⟩ := sound
  unfold Synchronizer.dismissError Snapshot.dismissError
  split
  next => exact ⟨isView, consistent, tracked, watched⟩
  next =>
    split
    next => exact ⟨isView, { consistent with }, { tracked with }, { watched with }⟩
    next => exact ⟨isView, consistent, tracked, watched⟩

/-- What is still to be answered does not matter. -/
theorem Sound.reply (sound : Sound view sync tasks) {transport : Transport α}
    (calls : transport.calls = sync.transport.calls) :
    Sound view { sync with transport } tasks := by
  obtain ⟨isView, consistent, tracked, watched⟩ := sound
  refine ⟨isView, { consistent with calls := ?_, query := ?_, ready := ?_ },
    { tracked with called := ?_ }, { watched with }⟩
  · rw [calls]
    exact consistent.calls
  · rw [calls]
    exact consistent.query
  · rw [calls]
    exact consistent.ready
  · rw [calls]
    exact tracked.called

variable {bench : Bench α}

/-- A change from outside has to keep everything in place as long as it is not the end. -/
theorem Upheld.change (sound : Upheld view bench.state bench.tasks)
    (goesOn : after.disposed = false → bench.state.disposed = false)
    (kept : after.disposed = false → Sound view bench.state bench.tasks →
      Sound view after bench.tasks) :
    Upheld view (change bench after).state (change bench after).tasks := by
  intro active
  unfold Synchronizer.change
  rw [Executor.tasks_act, List.append_nil]
  exact kept active (sound (goesOn active))

theorem Upheld.step (bench : Bench α) (sound : Upheld view bench.state bench.tasks) :
    Upheld view (bench.step program).state (bench.step program).tasks :=
  Executor.step_keeps (keeps_upheld view) sound

theorem Upheld.moveTo (bench : Bench α) (time : Nat) (sound : Upheld view bench.state bench.tasks) :
    Upheld view (bench.moveTo program time).state (bench.moveTo program time).tasks :=
  sound

/-- Every action keeps what holds until the end. -/
theorem Upheld.perform (sound : Upheld view bench.state bench.tasks) (action : Action α) :
    Upheld view (perform bench action).state (perform bench action).tasks := by
  cases action with
  | mutate edit =>
    simp only [Synchronizer.perform, Synchronizer.mutate]
    split
    next => exact sound
    next query after mutates =>
      split at mutates
      next => cases mutates
      next =>
        cases mutates
        exact sound.change id fun _ before => before.write _
  | write params => exact sound.change id fun _ before => before.write params
  | refresh =>
    simp only [Synchronizer.perform, Synchronizer.refresh]
    split
    next => exact sound
    next cycle starts =>
      split at starts
      next => cases starts
      next =>
        cases starts
        exact fun active => (sound active).spawn (List.forall_mem_singleton.2 rfl)
  | syncNow call =>
    intro active
    have held : Sound view bench.state.hold bench.tasks := (sound active).note rfl
    exact held.spawn (List.forall_mem_singleton.2 rfl)
  | dismissError =>
    refine sound.change (fun active => ?_) fun _ before => before.dismissError
    unfold Synchronizer.dismissError at active
    split at active
    next => exact active
    next => exact active
  | dispose =>
    intro active
    exact absurd (disposed_dispose ..) (Bool.eq_false_iff.1 active)
  | drop =>
    refine sound.change (fun active => ?_) fun active before => before.release active
    refine Bool.eq_false_iff.2 fun disposed => ?_
    exact Bool.eq_false_iff.1 active ((later_release bench.state bench.now).disposed disposed)
  | addReply reply => exact sound.change id fun _ before => before.reply rfl
  | setLastResort reply => exact sound.change id fun _ before => before.reply rfl
  | settle => exact Executor.settle_induction Upheld.step sound
  | advance duration =>
    exact Executor.advance_induction Upheld.step Upheld.moveTo duration sound

/-- It holds of a new synchronizer: its watcher looks, and its first cycle fetches. -/
theorem Upheld.start {scope : Scope} {liveness : Liveness α} {query : String}
    {replies : List (Reply α)} {lastResort : Reply α}
    (created : create view scope liveness query { replies, lastResort } = .ok sync) :
    Upheld view (start sync).state (start sync).tasks := by
  intro _
  obtain ⟨setting, rfl⟩ := eq_of_create created
  exact ⟨rfl, ⟨rfl, Controller.coherent_initial, rfl, ⟨nofun, nofun⟩, nofun, nofun⟩,
    ⟨List.nodup_nil, nofun, nofun, nofun⟩,
    ⟨⟨_, List.mem_cons_self, Nat.le_refl _⟩, .inl rfl⟩⟩

end QuerySync.Synchronizer
