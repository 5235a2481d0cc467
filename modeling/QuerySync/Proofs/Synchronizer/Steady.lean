import QuerySync.Proofs.Synchronizer.Changes

/-!
# What holds also at the end

Some of what holds of a synchronizer holds of one that is over too (`Steady`): its controller
keeps its law, there is one call for each generation, fetches on their way are tracked, and
loops have numbers that were given out.  Nobody is active at the end, and no timer is armed.
Every change keeps all of this (`Steady.change`).
-/

namespace QuerySync.Synchronizer

variable {α : Type} {sync after : Synchronizer α} {now : Nat}
  {tasks later older newer spawned : List (Task α)} {task next : Task α}

/-- What holds of a synchronizer and its tasks at all times. -/
structure Steady (sync : Synchronizer α) (tasks : List (Task α)) : Prop where
  coherent : sync.controller.Coherent
  calls : sync.transport.calls.map (·.generation) =
    (List.range' 1 sync.controller.issued).reverse
  tracked : sync.Tracked tasks
  numbered : sync.Numbered tasks
  closed : sync.controller.disposed = sync.disposed
  unarmed : sync.disposed = true → sync.scheduler.armed = none
  set : sync.scheduler.setting.isSome = true

/-! ## Tasks -/

theorem mem_pendings {pending : Pending α} (has : task.pending? = some pending) :
    pending ∈ pendings (older ++ task :: newer) := by
  rw [pendings_split, has]
  simp

/-- The task that a fetch lands for has it. -/
theorem Lands.pending? {pending : Pending α} {outcome : Outcome α}
    (lands : sync.Lands now task next pending outcome) : task.pending? = some pending :=
  Task.pending?_eq lands.fetching

/-- After that it has none. -/
theorem Lands.done {pending : Pending α} {outcome : Outcome α}
    (lands : sync.Lands now task next pending outcome) : next.pending? = none :=
  Task.pending?_eq_none lands.idle

/-- A task that has its turn goes on as the same loop, or as none. -/
theorem Numbered.replace (numbered : sync.Numbered (older ++ task :: newer))
    (same : ∀ arming ∈ next.arming?, arming ∈ task.arming?)
    (later : sync.scheduler.arms ≤ after.scheduler.arms) :
    after.Numbered (older ++ next :: newer) := by
  intro timer member
  rcases List.mem_append.1 member with isOlder | member
  · exact Nat.le_trans (numbered timer (List.mem_append_left _ isOlder)) later
  rcases List.mem_cons.1 member with rfl | isNewer
  · have arming := same timer.arming rfl
    cases task with
    | timer known =>
      rw [← Option.some.inj arming]
      exact Nat.le_trans (numbered known (by simp)) later
    | watcher | cycle | ended => exact nomatch arming
  · exact Nat.le_trans
      (numbered timer (List.mem_append_right _ (List.mem_cons_of_mem _ isNewer))) later

/-- Loops that the timer starts are numbered on. -/
theorem Numbered.starts {timers : List (Timer α)} (numbered : sync.Numbered tasks)
    (starts : sync.scheduler.Starts timers) : sync.Numbered (tasks ++ timers.map .timer) := by
  intro timer member
  rcases List.mem_append.1 member with old | new
  · exact numbered timer old
  · obtain ⟨started, isStarted, same⟩ := List.mem_map.1 new
    cases same
    exact starts.arming timer isStarted

theorem idle_fresh {spawned : List (Task α)} (fresh : ∀ task ∈ spawned, task.Fresh) :
    ∀ task ∈ spawned, task.pending? = none := by
  intro task member
  cases fresh task member
  rfl

/-! ## Outcomes -/

/-- A commit leaves the setting of the poll timer. -/
theorem setting_commit (sync : Synchronizer α) (now generation : Nat) (outcome : Outcome α) :
    (sync.commit now generation outcome).1.scheduler.setting = sync.scheduler.setting := by
  cases outcome with
  | ok data =>
    obtain ⟨events, same⟩ := reschedule_eq
      ({ sync with snapshot := sync.snapshot.succeed data (sync.liveness data).live }.emit now
        .fetchApplied generation none) now (sync.liveness data).live
    simp only [commit, same]
    exact Scheduler.setting_reschedule _ _
  | error error => cases error <;> rfl

/-- The end of a synchronizer that goes on, written out. -/
theorem dispose_of_active (active : sync.disposed = false) (now : Nat) :
    sync.dispose now =
      { sync with
        disposed := true
        controller := sync.controller.dispose
        scheduler := sync.scheduler.stop
        snapshot := sync.snapshot.dispose
        events := (now, { view := sync.view.name, kind := .disposed }) :: sync.events } := by
  rw [dispose, if_neg (Bool.eq_false_iff.1 active)]
  rfl

/-! ## Changes -/

namespace Steady

/-- A cycle that begins takes the next generation, and is the only one to fetch it. -/
theorem begin {generation : Nat} {cause : Cause} {controller : Controller}
    (steady : sync.Steady (older ++ task :: newer))
    (unstarted : task.cycle? = some (.unstarted cause)) (active : sync.disposed = false)
    (goesOn : sync.isOver task = false)
    (issued : sync.controller.issue = .ok (generation, controller))
    (fetching : next.cycle? = some (sync.begin now cause).1)
    (arming : next.arming? = task.arming?) :
    (sync.begin now cause).2.Steady (older ++ next :: newer) := by
  obtain ⟨coherent, calls, tracked, numbered, closed, unarmed, set⟩ := steady
  obtain ⟨running, isNext, isController⟩ := Controller.issue_eq_ok_iff.1 issued
  obtain ⟨call, events, called, query, begins⟩ := begin_of_issue issued now cause
  rw [begins] at fetching ⊢
  have goesOn : sync.isOver next = false := by rw [isOver_eq, arming, ← isOver_eq, goesOn]
  refine ⟨coherent.issue issued, ?_, ?_, ?_, ?_, ?_, set⟩
  · simp only [List.map_cons, called, calls, isController, isNext]
    rw [List.range'_1_concat, List.reverse_append, Nat.add_comm 1]
    rfl
  · exact tracked.begin coherent (Task.pending?_eq unstarted) (Task.pending?_eq fetching) issued
      called rfl rfl goesOn
  · exact numbered.replace (fun _ member => arming ▸ member) (Nat.le_refl _)
  · simp only [isController]
    exact closed
  · exact fun disposed => absurd (active.symm.trans disposed) Bool.false_ne_true

/-- A commit takes its fetch out, and starts a loop of the poll timer at most. -/
theorem commit {pending : Pending α} {outcome : Outcome α}
    (steady : sync.Steady (older ++ task :: newer))
    (lands : sync.Lands now task next pending outcome)
    (current : sync.controller.isCurrent pending.generation = true) :
    (sync.deactivate.commit now pending.generation outcome).1.Steady
      (older ++ next :: newer ++
        (sync.deactivate.commit now pending.generation outcome).2.map Task.timer) := by
  obtain ⟨coherent, calls, tracked, numbered, closed, unarmed, set⟩ := steady
  obtain ⟨running, active⟩ := Controller.isCurrent_iff.1 current
  have setting := setting_commit sync.deactivate now pending.generation outcome
  obtain ⟨scheduler, events, snapshot, timers, commits, -, -, -, later, starts⟩ :=
    commit_eq sync.deactivate now pending.generation outcome
  rw [commits] at setting ⊢
  refine ⟨coherent.deactivate, calls, ?_, ?_, closed, ?_, setting ▸ set⟩
  · refine tracked.commit lands.pending? active lands.done (idle_timers starts.unstarted) ?_ ?_
    · rfl
    · rfl
  · refine Numbered.starts (numbered.replace (fun _ member => ?_) later.arms) starts
    exact lands.arming ▸ member
  · exact fun disposed => absurd (running.symm.trans (closed.trans disposed)) Bool.false_ne_true

/-- A drop takes its fetch out, and nothing else happens. -/
theorem discard {pending : Pending α} {outcome : Outcome α}
    (steady : sync.Steady (older ++ task :: newer))
    (lands : sync.Lands now task next pending outcome)
    (superseded : sync.controller.isCurrent pending.generation = false) {discarded : Nat}
    {events : List (Nat × Event)} :
    { sync with controller := { sync.controller with discarded }, events }.Steady
      (older ++ next :: newer) := by
  obtain ⟨coherent, calls, tracked, numbered, closed, unarmed, set⟩ := steady
  have dropped : sync.Tracked (older ++ next :: newer ++ []) := by
    refine tracked.drop (fun active same => ?_) lands.done nofun
    rw [lands.pending?] at same
    have running : sync.controller.disposed ≠ true := fun isOver =>
      nomatch (coherent.disposed isOver).symm.trans active
    cases same
    exact absurd (Controller.isCurrent_iff.2 ⟨Bool.eq_false_iff.2 running, active⟩)
      (Bool.eq_false_iff.1 superseded)
  rw [List.append_nil] at dropped
  exact ⟨{ coherent with }, calls, { dropped with },
    numbered.replace (fun _ member => lands.arming ▸ member) (Nat.le_refl _), closed, unarmed, set⟩

/-- Someone who has no fetch goes on to have none, whatever is counted or put on record. -/
theorem leave (steady : sync.Steady (older ++ task :: newer))
    (gone : task.pending? = none ∨ sync.isOver task = true) (idle : next.pending? = none)
    (same : ∀ arming ∈ next.arming?, arming ∈ task.arming?) :
    sync.Steady (older ++ next :: newer) := by
  obtain ⟨coherent, calls, tracked, numbered, closed, unarmed, set⟩ := steady
  have dropped : sync.Tracked (older ++ next :: newer ++ []) := by
    refine tracked.drop (fun _ has => ?_) idle nofun
    rcases gone with none | isOver
    · rw [none] at has
      exact nomatch has
    · exact isOver
  rw [List.append_nil] at dropped
  exact ⟨coherent, calls, dropped, numbered.replace same (Nat.le_refl _), closed, unarmed, set⟩

/-- A loop that waits may go on to any stage without a fetch. -/
theorem turn {timer : Timer α} {stage : Loop.Stage (Cycle α)} {deadline : Nat}
    (steady : sync.Steady (older ++ .timer timer :: newer))
    (waits : timer.stage = .waiting deadline)
    (idle : (Task.timer { timer with stage }).pending? = none) :
    sync.Steady (older ++ .timer { timer with stage } :: newer) :=
  steady.leave (.inl (Task.pending?_eq_none (Task.cycle?_of_waiting waits))) idle fun _ => id

/-- Counters of deadlines and records are nobody's concern. -/
theorem note (steady : sync.Steady tasks) {ticks skipped : Nat} {events : List (Nat × Event)} :
    { sync with scheduler := { sync.scheduler with ticks, skipped }, events }.Steady tasks :=
  { steady with tracked := { steady.tracked with } }

/-- The end leaves no loop armed and no generation active. -/
theorem dispose (steady : sync.Steady tasks) (active : sync.disposed = false) :
    (sync.dispose now).Steady tasks := by
  obtain ⟨coherent, calls, ⟨distinct, called, held, -⟩, numbered, closed, -, set⟩ := steady
  have ended := Controller.dispose_of_active (closed.trans active)
  rw [dispose_of_active active]
  refine ⟨coherent.dispose, ?_, ⟨distinct, called, fun pending member => ?_, ?_⟩, numbered, ?_,
    fun _ => rfl, set⟩
  · rw [Controller.issued_dispose]
    exact calls
  · rw [ended]
    refine .inr ?_
    rcases held pending member with isActive | cancelled
    · exact List.mem_append_left _ (Option.mem_toList.2 isActive)
    · exact List.mem_append_right _ cancelled
  · rw [coherent.active_dispose]
    exact nofun
  · rw [ended]

/-- A cycle from outside has no fetch yet and is no loop. -/
theorem spawn (steady : sync.Steady tasks) (fresh : ∀ task ∈ spawned, task.Fresh) :
    sync.Steady (tasks ++ spawned) := by
  obtain ⟨coherent, calls, ⟨distinct, called, held, holder⟩, numbered, closed, unarmed, set⟩ :=
    steady
  rw [← pendings_append (idle_fresh fresh)] at distinct called held
  refine ⟨coherent, calls, ⟨distinct, called, held, fun generation active => ?_⟩, ?_, closed,
    unarmed, set⟩
  · obtain ⟨task, member, has⟩ := holder generation active
    exact ⟨task, List.mem_append_left _ member, has⟩
  · intro timer member
    rcases List.mem_append.1 member with old | new
    · exact numbered timer old
    · exact nomatch fresh _ new

/-- Every change keeps what holds at all times. -/
theorem change (steady : sync.Steady tasks) (change : Change sync tasks after later) :
    after.Steady later := by
  cases change with
  | write params => exact { steady with tracked := { steady.tracked with } }
  | hold holders => exact { steady with tracked := { steady.tracked with } }
  | record call now refused => exact { steady with tracked := { steady.tracked with } }
  | dismissError active => exact { steady with tracked := { steady.tracked with } }
  | reply calls =>
    exact
      { steady with
        calls := calls ▸ steady.calls
        tracked := { steady.tracked with called := calls ▸ steady.tracked.called } }
  | dispose now active => exact steady.dispose active
  | spawn fresh => exact steady.spawn fresh
  | leave gone idle arming => exact steady.leave gone (Task.pending?_eq_none idle) arming
  | skip waits goesOn => exact (steady.turn waits rfl).note
  | tick now waits goesOn => exact (steady.turn waits rfl).note
  | begin unstarted active goesOn issued fetching arming =>
    exact steady.begin unstarted active goesOn issued fetching arming
  | commit lands current => exact steady.commit lands current
  | discard lands superseded => exact steady.discard lands superseded

end Steady

/-! ## What is reached -/

variable {view : View} {scope : Scope} {liveness : Liveness α} {query : String}
  {replies : List (Reply α)} {lastResort : Reply α} {bench : Bench α}

/-- A new synchronizer is steady. -/
theorem Steady.start
    (created : create view scope liveness query { replies, lastResort } = .ok sync) :
    sync.start.state.Steady sync.start.tasks := by
  obtain ⟨setting, rfl⟩ := eq_of_create created
  exact ⟨Controller.coherent_initial, rfl, ⟨List.nodup_nil, nofun, nofun, nofun⟩,
    (prompt_start _).numbered, rfl, nofun, rfl⟩

/-- Wherever it is, a synchronizer is steady. -/
theorem Reachable.steady
    (created : create view scope liveness query { replies, lastResort } = .ok sync)
    (reachable : Reachable sync bench) : bench.state.Steady bench.tasks :=
  reachable.keeps Steady.change (Steady.start created)

/-- A property that every change of a steady synchronizer keeps holds from any moment on. -/
theorem Changes.upholds {Property : Synchronizer α → List (Task α) → Prop}
    (each : ∀ {sync tasks after later}, Property sync tasks → sync.Steady tasks →
      Change sync tasks after later → Property after later)
    (changes : Changes sync tasks after later) (steady : sync.Steady tasks)
    (holds : Property sync tasks) : Property after later := by
  have both {sync tasks after later} (now : sync.Steady tasks ∧ Property sync tasks)
      (change : Change sync tasks after later) : after.Steady later ∧ Property after later :=
    ⟨now.1.change change, each now.2 now.1 change⟩
  exact (changes.keeps both ⟨steady, holds⟩).2

/-- A property of a new synchronizer that every change of a steady one keeps holds wherever it is.
-/
theorem Reachable.upholds {Property : Synchronizer α → List (Task α) → Prop}
    (each : ∀ {sync tasks after later}, Property sync tasks → sync.Steady tasks →
      Change sync tasks after later → Property after later)
    (created : create view scope liveness query { replies, lastResort } = .ok sync)
    (reachable : Reachable sync bench) (starts : Property sync.start.state sync.start.tasks) :
    Property bench.state bench.tasks :=
  (Reaches.changes reachable).upholds each (Steady.start created) starts

end QuerySync.Synchronizer
