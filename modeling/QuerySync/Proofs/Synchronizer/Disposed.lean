import QuerySync.Proofs.Synchronizer.Log

/-!
# Nothing happens after the end

A synchronizer that is over stays as it is (`disposed_absorbing`): what it shows does not change,
it fetches nothing, no timer fires, and every call from outside is refused.  Tasks that were left
only run out.  A fetch that lands then is put on record as dropped, and nothing else is
(`Concluded`).

After the end no task can take a generation and no loop goes on, so the only changes left are
those that nobody sees (`Idle`).
-/

namespace QuerySync.Synchronizer

variable {α : Type} {sync after first : Synchronizer α} {now : Nat}
  {tasks later : List (Task α)}

/-! ## The record -/

/-- A log in which the end is on record once, and after it only fetches that had started before
are dropped.  Newest first. -/
def Concluded (log : List Event) : Prop :=
  ∃ dropped last before, log = dropped ++ last :: before ∧ last.kind = .disposed ∧
    (∀ event ∈ before, event.kind ≠ .disposed) ∧
    ∀ event ∈ dropped, event.kind = .fetchDiscarded ∧
      ∃ generation ∈ generations .fetchStarted before, event.generation = some generation

/-- A record that is concluded may go on with the drop of a fetch that started before. -/
theorem Concluded.discard {log : List Event} {event : Event} {generation : Nat}
    (concluded : Concluded log) (isDiscard : event.kind = .fetchDiscarded)
    (about : event.generation = some generation)
    (started : generation ∈ generations .fetchStarted log) : Concluded (event :: log) := by
  obtain ⟨dropped, last, before, rfl, isLast, once, onlyDropped⟩ := concluded
  refine ⟨event :: dropped, last, before, rfl, isLast, once, ?_⟩
  refine List.forall_mem_cons.2 ⟨⟨isDiscard, generation, ?_, about⟩, onlyDropped⟩
  rw [generations_append, generations_cons_of_ne (by simp [isLast])] at started
  rcases List.mem_append.1 started with isDropped | isBefore
  · obtain ⟨other, member, isStart, -⟩ := mem_generations.1 isDropped
    exact nomatch isStart.symm.trans (onlyDropped other member).1
  · exact isBefore

/-- What is on record of the end, and of the fetches on their way. -/
structure Closing (sync : Synchronizer α) (tasks : List (Task α)) : Prop where
  /-- Every fetch on its way is on record. -/
  started : ∀ pending ∈ pendings tasks, pending.generation ∈ sync.started
  /-- No end is on record before the end. -/
  unconcluded : sync.disposed = false → ∀ event ∈ sync.log, event.kind ≠ .disposed
  /-- After it, it is. -/
  concluded : sync.disposed = true → Concluded sync.log
  /-- The view says so. -/
  resting : sync.disposed = true →
    sync.snapshot.phase = .disposed ∧ sync.snapshot.isLoading = false

/-! ## Changes before the end -/

/-- A task that leaves its fetch makes no other one. -/
theorem pendings_leave {older newer : List (Task α)} {task next : Task α}
    (idle : next.pending? = none) :
    ∀ pending ∈ pendings (older ++ next :: newer), pending ∈ pendings (older ++ task :: newer) := by
  intro pending member
  rw [pendings_split, idle, Option.toList_none, List.nil_append] at member
  exact pendings_sublist.subset member

/-- A change is the end, or it is not, and puts fetches on record that begin. -/
theorem Change.dispose_or (steady : sync.Steady tasks) (change : Change sync tasks after later) :
    (∃ now, sync.disposed = false ∧ after = sync.dispose now ∧ later = tasks) ∨
    after.disposed = sync.disposed ∧
      (∃ added, after.log = added ++ sync.log ∧ ∀ event ∈ added, event.kind ≠ .disposed) ∧
      ∀ pending ∈ pendings later,
        pending ∈ pendings tasks ∨ pending.generation ∈ after.started := by
  cases change with
  | write | reply | hold | record | dismissError =>
    exact .inr ⟨rfl, ⟨[], rfl, nofun⟩, fun _ => .inl⟩
  | dispose now active => exact .inl ⟨now, active, rfl, rfl⟩
  | spawn fresh =>
    refine .inr ⟨rfl, ⟨[], rfl, nofun⟩, fun _ member => .inl ?_⟩
    rwa [pendings_append (idle_fresh fresh)] at member
  | leave gone idle arming =>
    refine .inr ⟨rfl, ⟨[], rfl, nofun⟩, fun _ member => .inl ?_⟩
    exact pendings_leave (Task.pending?_eq_none idle) _ member
  | skip waits goesOn =>
    exact .inr ⟨rfl, ⟨[], rfl, nofun⟩, fun _ member => .inl (pendings_leave rfl _ member)⟩
  | tick now waits goesOn =>
    exact .inr ⟨rfl, ⟨[_], rfl, List.forall_mem_singleton.2 nofun⟩,
      fun _ member => .inl (pendings_leave rfl _ member)⟩
  | @begin older newer task next now generation cause _ _ _ _ issued fetching _ =>
    have log := log_begin issued now cause
    obtain ⟨_, _, -, -, begins⟩ := begin_of_issue issued now cause
    refine .inr ⟨by rw [begins], ⟨[_], log, List.forall_mem_singleton.2 nofun⟩, ?_⟩
    intro pending member
    rw [begins] at fetching
    rw [pendings_split, Task.pending?_eq fetching, Cycle.pending?, Option.toList_some] at member
    rcases List.mem_append.1 member with isOlder | member
    · exact .inl (pendings_sublist.subset (List.mem_append_left _ isOlder))
    rcases List.mem_cons.1 member with rfl | isNewer
    · refine .inr ?_
      rw [started, log]
      exact mem_generations.2 ⟨_, List.mem_cons_self, rfl, rfl⟩
    · exact .inl (pendings_sublist.subset (List.mem_append_right _ isNewer))
  | @commit _ _ _ _ now pending outcome lands current =>
    obtain ⟨switches, event, log, ends, others, -⟩ :=
      commit_log sync.deactivate steady.set now pending.generation outcome
    obtain ⟨_, _, _, _, commits, -, -, -, -, starts⟩ :=
      commit_eq sync.deactivate now pending.generation outcome
    refine .inr ⟨?_, ⟨switches ++ [event], ?_, ?_⟩, fun _ member => .inl ?_⟩
    · rw [commits]
      rfl
    · rw [log, List.append_assoc]
      rfl
    · refine List.forall_mem_append.2 ⟨fun other member isEnd => ?_, ?_⟩
      · rcases (others other member).2 with isArm | isDisarm
        · exact nomatch isArm.symm.trans isEnd
        · exact nomatch isDisarm.symm.trans isEnd
      · exact List.forall_mem_singleton.2 (Event.kind_ne_of_ends ends rfl)
    · rw [commits, pendings_append (idle_timers starts.unstarted)] at member
      exact pendings_leave lands.done _ member
  | discard lands superseded =>
    refine .inr ⟨rfl, ⟨[_], rfl, List.forall_mem_singleton.2 nofun⟩, fun _ member => .inl ?_⟩
    exact pendings_leave lands.done _ member

/-! ## Changes after the end -/

/-- A change that nobody sees: a call of `syncNow` may be refused, and a fetch that was on its way
may be dropped. -/
structure Idle (sync : Synchronizer α) (tasks : List (Task α)) (after : Synchronizer α)
    (later : List (Task α)) : Prop where
  disposed : after.disposed = sync.disposed
  snapshot : after.snapshot = sync.snapshot
  calls : after.transport.calls = sync.transport.calls
  arms : after.scheduler.arms = sync.scheduler.arms
  ticks : after.scheduler.ticks = sync.scheduler.ticks
  finished : ∃ refused, after.finished = refused ++ sync.finished ∧
    ∀ entry ∈ refused, entry.2.2 = .error .disposed
  log : after.log = sync.log ∨ ∃ event pending, after.log = event :: sync.log ∧
    event.kind = .fetchDiscarded ∧ event.generation = some pending.generation ∧
    pending ∈ pendings tasks
  fetches : ∀ pending ∈ pendings later, pending ∈ pendings tasks

/-- A change of nothing but tasks is idle if it adds no fetch. -/
theorem Idle.of_tasks (kept : ∀ pending ∈ pendings later, pending ∈ pendings tasks) :
    sync.Idle tasks sync later :=
  ⟨rfl, rfl, rfl, rfl, rfl, ⟨[], rfl, nofun⟩, .inl rfl, kept⟩

/-- After the end every change is one that nobody sees. -/
theorem Change.idle (steady : sync.Steady tasks) (isOver : sync.disposed = true)
    (change : Change sync tasks after later) : sync.Idle tasks after later := by
  have refl : sync.Idle tasks sync tasks := .of_tasks fun _ => id
  have closed : sync.controller.disposed = true := steady.closed.trans isOver
  have ended (arming : Nat) : sync.scheduler.isOver arming = true := by
    rw [Scheduler.isOver, steady.unarmed isOver]
    rfl
  cases change with
  | write | hold => exact { refl with }
  | reply calls => exact { refl with calls }
  | record call now refused =>
    exact { refl with
      finished := ⟨[_], rfl, List.forall_mem_singleton.2 (refused closed)⟩ }
  | spawn fresh =>
    refine .of_tasks fun _ member => ?_
    rwa [pendings_append (idle_fresh fresh)] at member
  | leave gone idle arming => exact .of_tasks (pendings_leave (Task.pending?_eq_none idle))
  | discard lands superseded =>
    refine { refl with log := .inr ⟨_, _, rfl, rfl, rfl, ?_⟩, fetches := ?_ }
    · exact mem_pendings lands.pending?
    · exact pendings_leave lands.done
  | dismissError active | dispose now active | begin _ active =>
    exact absurd (isOver.symm.trans active) Bool.false_ne_true.symm
  | skip waits goesOn | tick now waits goesOn =>
    exact absurd ((ended _).symm.trans goesOn) Bool.false_ne_true.symm
  | commit lands current =>
    exact absurd (closed.symm.trans (Controller.isCurrent_iff.1 current).1) Bool.false_ne_true.symm

/-! ## The end -/

/-- The end comes once: it is put on record after everything else. -/
theorem Closing.dispose (closing : sync.Closing tasks) (active : sync.disposed = false) :
    (sync.dispose now).Closing tasks := by
  rw [dispose_of_active active]
  refine ⟨?_, nofun, fun _ => ?_, fun _ => ⟨rfl, rfl⟩⟩
  · exact fun pending member => closing.started pending member
  · exact ⟨[], _, _, rfl, rfl, closing.unconcluded active, nofun⟩

/-- Every change keeps the record of the end in order. -/
theorem Closing.change (closing : sync.Closing tasks) (steady : sync.Steady tasks)
    (change : Change sync tasks after later) : after.Closing later := by
  rcases change.dispose_or steady with
    ⟨now, active, rfl, rfl⟩ | ⟨disposed, ⟨added, log, noEnd⟩, fetches⟩
  · exact closing.dispose active
  have started : ∀ generation ∈ sync.started, generation ∈ after.started := by
    intro generation member
    rw [Synchronizer.started, log, generations_append]
    exact List.mem_append_right _ member
  refine ⟨fun pending member => ?_, fun active => ?_, fun isOver => ?_, fun isOver => ?_⟩
  · rcases fetches pending member with known | isStarted
    · exact started _ (closing.started pending known)
    · exact isStarted
  · rw [log]
    exact List.forall_mem_append.2 ⟨noEnd, closing.unconcluded (disposed ▸ active)⟩
  · have concluded := closing.concluded (disposed ▸ isOver)
    rcases (change.idle steady (disposed ▸ isOver)).log with
      same | ⟨event, pending, drops, isDiscard, about, isPending⟩
    · exact same ▸ concluded
    · exact drops ▸ concluded.discard isDiscard about (closing.started pending isPending)
  · rw [(change.idle steady (disposed ▸ isOver)).snapshot]
    exact closing.resting (disposed ▸ isOver)

variable {view : View} {scope : Scope} {liveness : Liveness α} {query : String}
  {replies : List (Reply α)} {lastResort : Reply α} {bench last : Bench α}

/-- So it is in order wherever a synchronizer is. -/
theorem Reachable.closing
    (created : create view scope liveness query { replies, lastResort } = .ok sync)
    (reachable : Reachable sync bench) : bench.state.Closing bench.tasks := by
  refine reachable.upholds Closing.change created ?_
  obtain ⟨setting, rfl⟩ := eq_of_create created
  exact ⟨nofun, nofun, nofun, nofun⟩

/-- What is left of a synchronizer that is over. -/
structure Frozen (first sync : Synchronizer α) : Prop where
  /-- It is over. -/
  disposed : sync.disposed = true
  /-- It shows what it showed. -/
  snapshot : sync.snapshot = first.snapshot
  /-- It fetches nothing. -/
  calls : sync.transport.calls = first.transport.calls
  /-- No timer is armed. -/
  arms : sync.scheduler.arms = first.scheduler.arms
  /-- No timer fires. -/
  ticks : sync.scheduler.ticks = first.scheduler.ticks
  /-- Calls of `syncNow` that end are refused. -/
  finished : ∃ refused, sync.finished = refused ++ first.finished ∧
    ∀ entry ∈ refused, entry.2.2 = .error .disposed

/-- What is over is changed by nothing that can be seen. -/
theorem Frozen.change (frozen : first.Frozen sync) (steady : sync.Steady tasks)
    (change : Change sync tasks after later) : first.Frozen after := by
  have idle := change.idle steady frozen.disposed
  obtain ⟨earlier, finished, allRefused⟩ := frozen.finished
  obtain ⟨refused, finishes, nowRefused⟩ := idle.finished
  refine ⟨?_, ?_, ?_, ?_, ?_, ⟨refused ++ earlier, ?_, ?_⟩⟩
  · exact idle.disposed.trans frozen.disposed
  · exact idle.snapshot.trans frozen.snapshot
  · exact idle.calls.trans frozen.calls
  · exact idle.arms.trans frozen.arms
  · exact idle.ticks.trans frozen.ticks
  · rw [finishes, finished, List.append_assoc]
  · exact List.forall_mem_append.2 ⟨nowRefused, allRefused⟩

/-- From the end on nothing about a synchronizer changes. -/
theorem Reaches.frozen (steady : bench.state.Steady bench.tasks)
    (isOver : bench.state.disposed = true) (reaches : Reaches bench last) :
    bench.state.Frozen last.state := by
  have refl : bench.state.Frozen bench.state := ⟨isOver, rfl, rfl, rfl, rfl, ⟨[], rfl, nofun⟩⟩
  exact reaches.changes.upholds Frozen.change steady refl

/-! ## Calls of `syncNow` -/

/-- Letting go of a synchronizer answers no call. -/
theorem finished_release (sync : Synchronizer α) (now : Nat) :
    (sync.release now).finished = sync.finished := by
  unfold release dispose
  dsimp only
  split
  next => split <;> rfl
  next => rfl

/-- After the end a call of `syncNow` is refused at its first turn. -/
theorem stepTask_syncNow (isOver : sync.disposed = true) (now call : Nat) :
    (stepTask now sync (.cycle (some call) (.unstarted .manual))).2.1.finished =
      (call, now, .error .disposed) :: sync.finished := by
  simp only [stepTask, stepCycle, advanceCycle, isOver]
  exact finished_release _ now

/-- A call of `syncNow` waits for its first turn, or was refused.  The entries of calls that
ended before are given. -/
def Refuses (call : Nat) (before : List (Nat × Nat × Except SyncError Unit)) (bench : Bench α) :
    Prop :=
  bench.state.disposed = true ∧ ∃ refused, bench.state.finished = refused ++ before ∧
    (.cycle (some call) (.unstarted .manual) ∈ bench.tasks ∨
      ∃ time, (call, time, .error .disposed) ∈ refused)

/-- A call that waits for its first turn goes on to wait, or has it and is refused. -/
theorem Refuses.step {call : Nat} {before : List (Nat × Nat × Except SyncError Unit)}
    (steady : bench.state.Steady bench.tasks) (refuses : Refuses call before bench) :
    Refuses call before (bench.step program) := by
  obtain ⟨isOver, refused, finished, waits⟩ := refuses
  have frozen := Reaches.frozen steady isOver ReachesBy.refl.step
  obtain ⟨more, finishes, -⟩ := frozen.finished
  refine ⟨frozen.disposed, more ++ refused, ?_, ?_⟩
  · rw [finishes, finished, List.append_assoc]
  -- the call that waits may be the one whose turn it is
  rcases waits with waits | ⟨time, isRefused⟩
  · rcases Executor.step_cases program bench with
      ⟨-, tasks⟩ | ⟨older, task, newer, next, after, spawned, split, able, turn, state, tasks⟩
    · rw [tasks]
      exact .inl waits
    by_cases same : task = .cycle (some call) (.unstarted .manual)
    · subst same
      obtain ⟨-, rfl, -⟩ := stepTask_of_step turn
      have ended := stepTask_syncNow isOver bench.now call
      rw [← state, finishes, ← List.singleton_append] at ended
      rw [List.append_cancel_right ended]
      exact .inr ⟨bench.now, List.mem_cons_self⟩
    · rw [tasks]
      exact .inl (mem_replace (split ▸ waits) (Ne.symm same))
  · exact .inr ⟨time, List.mem_append_right _ isRefused⟩

theorem later_step (bench : Bench α) : bench.state.Later (bench.step program).state := by
  rcases Executor.step_cases program bench with
    ⟨state, -⟩ | ⟨older, task, newer, next, after, spawned, -, -, turn, state, -⟩
  · rw [state]
    exact .refl bench.state
  · obtain ⟨-, rfl, -⟩ := stepTask_of_step turn
    rw [state]
    exact later_stepTask bench.state bench.now task

/-- No task writes to the location, so settling does not either. -/
theorem later_settle (bench : Bench α) : bench.state.Later (bench.settle program).state := by
  have each (between : Bench α) (later : bench.state.Later between.state) :
      bench.state.Later (between.step program).state := later.trans (later_step between)
  exact Executor.settle_induction each (.refl bench.state)

/-- After the end, whoever calls `syncNow` is refused. -/
theorem Reachable.refuses
    (created : create view scope liveness query { replies, lastResort } = .ok sync)
    (reachable : Reachable sync bench) (isOver : bench.state.disposed = true) (call : Nat) :
    ∃ refused time,
      ((Synchronizer.perform bench (.syncNow call)).settle program).state.finished =
        refused ++ bench.state.finished ∧ (call, time, .error .disposed) ∈ refused := by
  have called : Reachable sync (Synchronizer.perform bench (.syncNow call)) :=
    reachable.perform _
  have each (between : Bench α)
      (holds : between.state.Steady between.tasks ∧ Refuses call bench.state.finished between) :
      (between.step program).state.Steady (between.step program).tasks ∧
        Refuses call bench.state.finished (between.step program) :=
    ⟨(changes_step between).keeps Steady.change holds.1, holds.2.step holds.1⟩
  have waits : .cycle (some call) (.unstarted .manual) ∈
      (Synchronizer.perform bench (.syncNow call)).tasks :=
    List.mem_append_right _ List.mem_cons_self
  obtain ⟨-, -, refused, finished, stillWaits | ⟨time, isRefused⟩⟩ :=
    Executor.settle_induction each ⟨called.steady created, isOver, [], rfl, .inl waits⟩
  · have settled : Reachable sync _ := called.perform .settle
    exact nomatch settled.alert.canRun_eq_false (ready_settle called) stillWaits
  · exact ⟨refused, time, finished, isRefused⟩

/-! ## What is left -/

/-- A synchronizer that is over, some time later. -/
structure Over (first : Synchronizer α) (last : Bench α) : Prop where
  /-- Nothing changed. -/
  frozen : first.Frozen last.state
  /-- No timer is armed. -/
  unarmed : last.state.scheduler.isArmed = false
  /-- The end is on record once, and only the drops of fetches after it. -/
  concluded : Concluded last.state.log
  /-- Edits are refused. -/
  mutate : ∀ edit, last.state.mutate edit = .error .disposed ∧
    (perform last (.mutate edit)).state.store = last.state.store
  /-- Settings of parameters are refused. -/
  setParam : ∀ key value, last.state.setParam key value = .error .disposed
  /-- No cycle is started. -/
  refresh : last.state.refresh = .error .disposed ∧
    (perform last .refresh).state.store = last.state.store
  /-- Nobody waits for a cycle. -/
  syncNow : ∀ call, let after := (perform last (.syncNow call)).settle program
    (∃ refused time, after.state.finished = refused ++ last.state.finished ∧
      (call, time, .error .disposed) ∈ refused) ∧ after.state.store = last.state.store

/-- All the laws of a synchronizer that is over, at any moment after its end. -/
theorem Reachable.over_of_disposed
    (created : create view scope liveness query { replies, lastResort } = .ok sync)
    (reachable : Reachable sync bench) (disposed : bench.state.disposed = true)
    (reaches : Reaches bench last) : Over bench.state last := by
  have later : Reachable sync last := reachable.trans reaches
  have steady := later.steady created
  have frozen := reaches.frozen (reachable.steady created) disposed
  have refused (edit : Edit) : last.state.mutate edit = .error .disposed :=
    if_pos frozen.disposed
  have refusedRefresh : last.state.refresh = .error .disposed := if_pos frozen.disposed
  refine ⟨frozen, ?_, (later.closing created).concluded frozen.disposed, ?_, ?_, ?_, ?_⟩
  · rw [Scheduler.isArmed, steady.unarmed frozen.disposed]
    rfl
  · refine fun edit => ⟨refused edit, ?_⟩
    simp only [Synchronizer.perform, refused edit]
  · exact fun key value => refused _
  · refine ⟨refusedRefresh, ?_⟩
    simp only [Synchronizer.perform, refusedRefresh]
  · exact fun call => ⟨later.refuses created frozen.disposed call, (later_settle _).store⟩

/-- Whoever disposes of a synchronizer, or is the last to let go of it, ends it.  From then on
nothing about it changes any more, and every call from outside is refused. -/
theorem disposed_absorbing
    (created : create view scope liveness query { replies, lastResort } = .ok sync)
    (reachable : Reachable sync bench) :
    (perform bench .dispose).state.disposed = true ∧
    (bench.state.holders ≤ 1 → (perform bench .drop).state.disposed = true) ∧
    (bench.state.disposed = true →
      bench.state.snapshot.phase = .disposed ∧ bench.state.snapshot.isLoading = false ∧
      ∀ last, Reaches bench last → Over bench.state last) := by
  refine ⟨disposed_dispose bench.state bench.now, fun alone => ?_, fun disposed => ?_⟩
  · have none : bench.state.holders - 1 = 0 := by omega
    simp only [perform, change, Executor.state_act, release, none]
    exact disposed_dispose _ bench.now
  · obtain ⟨phase, isLoading⟩ := (reachable.closing created).resting disposed
    refine ⟨phase, isLoading, fun last reaches => ?_⟩
    exact reachable.over_of_disposed created disposed reaches

/-- A call of `syncNow` is in the middle of its fetch, and the poll timer is armed, when the end
comes.  The location changes after that, and time goes by, but the fetch is dropped, the call is
refused, and the timer never fires. -/
theorem disposed_absorbing_executions :
    let created := create (View.preset "executions" .execution) {} (Verdict.ofCount 5000) ""
      { replies := [.after 10 (.ok 3), .after 20 (.ok 4)], lastResort := .never }
    ∃ sync : Synchronizer Nat, created = .ok sync ∧
      let bench := [.advance 10, .syncNow 7, .settle, .dispose].foldl perform sync.start
      let last := [.write (KeyMap.ofList [("page", "2")]), .advance 6000].foldl perform bench
      Reachable sync bench ∧ bench.state.disposed = true ∧ Over bench.state last ∧
        last.state.snapshot.data = some 3 ∧
        last.state.log.map (·.kind) =
          [.fetchDiscarded, .disposed, .fetchStarted, .pollArmed, .fetchApplied, .fetchStarted] ∧
        last.state.finished.map (·.1) = [7] := by
  intro created
  have isCreated : created = .ok _ := rfl
  refine ⟨_, isCreated, ?_⟩
  intro bench last
  have reachable : Reachable _ bench := Reachable.start.foldl _
  have disposed : bench.state.disposed = true := by decide
  obtain ⟨-, -, absorbing⟩ := disposed_absorbing isCreated reachable
  obtain ⟨-, -, isOver⟩ := absorbing disposed
  refine ⟨reachable, disposed, isOver last (Reaches.foldl .refl _), ?_, ?_, ?_⟩
  · decide
  · decide
  · decide

end QuerySync.Synchronizer
