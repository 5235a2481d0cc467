import QuerySync.Proofs.Synchronizer.Log

/-!
# What becomes of a fetch

A fetch that starts is applied, fails or is dropped, and its end is on record, once
(`settled_accounted`).  There is one exception.  The poll timer runs its cycles itself, so when it
is stopped in the middle of a cycle, the cycle is gone, and the end of its fetch is never put on
record (`cutShort`).  This happens to no other fetch, and to every fetch of the poll timer that
had not ended when the timer was stopped.

The fate of a fetch is followed from its start (`Fate`).  As long as it is on its way its end is
not on record, and its task is over exactly if the timer was stopped since.  When the task has its
turn the fetch ends or is lost.
-/

namespace QuerySync

variable {α : Type}

/-- Whether a fetch was started by the poll timer. -/
def Event.ticked (event : Event) : Bool := event.detail == some Cause.pollTick.name

/-- Only the cause of the poll timer has its name. -/
theorem beq_name_pollTick (cause : Cause) :
    (some cause.name == some Cause.pollTick.name) = decide (cause = .pollTick) := by
  cases cause <;> decide

/-- Whether the poll timer was stopped before the fetch of a generation ended, by what is on
record since its start, newest first. -/
def cutShort (generation : Nat) : List Event → Bool
  | [] => false
  | event :: before =>
    cutShort generation before || (event.kind.stops && before.countP (·.ends generation) == 0)

section
variable {generation : Nat} {added since log newer older : List Event} {event : Event}

/-- Events that end no fetch count for nothing. -/
theorem countP_eq_zero (silent : ∀ event ∈ added, event.ends generation = false) :
    added.countP (·.ends generation) = 0 :=
  List.countP_eq_zero.2 fun event member => Bool.eq_false_iff.1 (silent event member)

/-- What happens to other fetches matters only in that it stops the timer. -/
theorem cutShort_append (silent : ∀ event ∈ added, event.ends generation = false) :
    cutShort generation (added ++ since) =
      (cutShort generation since ||
        (added.any (·.kind.stops) && since.countP (·.ends generation) == 0)) := by
  induction added with
  | nil => simp
  | cons event added induction =>
    have others : ∀ other ∈ added, other.ends generation = false :=
      fun other member => silent other (List.mem_cons_of_mem _ member)
    rw [List.cons_append, cutShort, induction others, List.countP_append, countP_eq_zero others,
      Nat.zero_add, List.any_cons, Bool.and_or_distrib_right, Bool.or_assoc]
    congr 1
    exact Bool.or_comm _ _

/-- The end of a fetch stops no timer. -/
theorem Event.stops_eq_false (ends : event.ends generation = true) :
    event.kind.stops = false := by
  have isEnd := (Event.ends_iff.1 ends).1
  cases kind : event.kind with
  | fetchApplied | fetchFailed | fetchDiscarded => rfl
  | fetchStarted | pollArmed | pollDisarmed | pollTick | disposed =>
    rw [kind] at isEnd
    exact nomatch isEnd

/-- Whoever ended is not cut short after that. -/
theorem cutShort_land (silent : ∀ event ∈ added, event.ends generation = false)
    (ends : event.ends generation = true) :
    cutShort generation (added ++ event :: since) = cutShort generation since := by
  have counted : (event :: since).countP (·.ends generation) ≠ 0 := by
    simp [ends]
  rw [cutShort_append silent, cutShort, Event.stops_eq_false ends]
  simp [counted]

/-- An event that was on record stays there, and what is added comes after it. -/
theorem split_of_append (split : added ++ log = newer ++ event :: older) (old : event ∉ added) :
    ∃ since, newer = added ++ since ∧ log = since ++ event :: older := by
  rcases List.append_eq_append_iff.1 split with ⟨since, isNewer, isLog⟩ | ⟨rest, isAdded, isOlder⟩
  · exact ⟨since, isNewer, isLog⟩
  · cases rest with
    | nil => exact ⟨[], by simpa using isAdded.symm, isOlder.symm⟩
    | cons first rest =>
      cases isOlder
      exact absurd (isAdded ▸ List.mem_append_right _ List.mem_cons_self) old

end

namespace Synchronizer

variable {sync after : Synchronizer α} {now : Nat}
  {tasks later older newer spawned : List (Task α)} {task next : Task α}

/-- A task has the fetch of a generation. -/
def Task.Fetches (task : Task α) (generation : Nat) : Prop :=
  task.pending?.map (·.generation) = some generation

/-- The poll timer, and nobody else, starts cycles for its ticks. -/
def Caused (tasks : List (Task α)) : Prop :=
  ∀ task ∈ tasks, ∀ cause, task.cycle? = some (.unstarted cause) →
    (decide (cause = .pollTick)) = task.arming?.isSome

/-- What became of the fetch that started with an event, by what is on record since. -/
inductive Fate (sync : Synchronizer α) (tasks : List (Task α)) (generation : Nat) (event : Event)
    (since : List Event) : Prop where
  /-- It is on its way, and its task is over exactly if the timer was stopped. -/
  | flying {task : Task α} (member : task ∈ tasks) (fetches : task.Fetches generation)
      (silent : since.countP (·.ends generation) = 0)
      (ticked : event.ticked = task.arming?.isSome)
      (isOver : sync.isOver task = (event.ticked && cutShort generation since))
  /-- It ended. -/
  | ended (gone : ∀ task ∈ tasks, ¬ task.Fetches generation)
      (once : since.countP (·.ends generation) = 1)
      (kept : (event.ticked && cutShort generation since) = false)
  /-- It is lost. -/
  | lost (gone : ∀ task ∈ tasks, ¬ task.Fetches generation)
      (silent : since.countP (·.ends generation) = 0)
      (cut : (event.ticked && cutShort generation since) = true)

/-- Every fetch that started is accounted for. -/
structure Accounted (sync : Synchronizer α) (tasks : List (Task α)) : Prop where
  /-- Cycles for ticks are started by the timer. -/
  caused : Caused tasks
  /-- Generations on record were issued. -/
  issued : ∀ event ∈ sync.log, ∀ generation, event.generation = some generation →
    generation ≤ sync.controller.issued
  /-- Its end is not on record before its start, and it has a fate. -/
  fate : ∀ {since event before generation}, sync.log = since ++ event :: before →
    event.starts generation = true →
    before.countP (·.ends generation) = 0 ∧ Fate sync tasks generation event since

/-! ## Fates -/

/-- What is put on record while the timer may be stopped. -/
structure Adds (sync after : Synchronizer α) (added : List Event) : Prop where
  log : after.log = added ++ sync.log
  known : ∀ event ∈ added, ∀ generation, event.generation = some generation →
    generation ≤ after.controller.issued
  issued : sync.controller.issued ≤ after.controller.issued
  /-- A loop that went on is over exactly if the timer was stopped. -/
  stops : ∀ arming ≤ sync.scheduler.arms,
    after.scheduler.isOver arming =
      (sync.scheduler.isOver arming || added.any (·.kind.stops))

namespace Adds

variable {added : List Event}

/-- The timer stays as it is. -/
theorem of_armed_eq (log : after.log = added ++ sync.log)
    (armed : after.scheduler.armed = sync.scheduler.armed)
    (known : ∀ event ∈ added, ∀ generation, event.generation = some generation →
      generation ≤ after.controller.issued)
    (issued : sync.controller.issued ≤ after.controller.issued)
    (goesOn : added.any (·.kind.stops) = false) : sync.Adds after added where
  log := log
  known := known
  issued := issued
  stops := fun arming _ => by rw [goesOn, Bool.or_false, Scheduler.isOver, armed, Scheduler.isOver]

/-- A change that leaves the log, the armed loop and the generations alone adds nothing. -/
theorem nothing (log : after.log = sync.log) (armed : after.scheduler.armed = sync.scheduler.armed)
    (issued : after.controller.issued = sync.controller.issued) : sync.Adds after [] :=
  .of_armed_eq log armed (List.forall_mem_nil _) (Nat.le_of_eq issued.symm) rfl

/-- The end adds itself to the log, and stops every loop. -/
theorem dispose (active : sync.disposed = false) (now : Nat) :
    sync.Adds (sync.dispose now) [{ view := sync.view.name, kind := .disposed }] := by
  rw [dispose_of_active active]
  refine ⟨rfl, List.forall_mem_singleton.2 nofun, ?_, fun _ _ => (Bool.or_true _).symm⟩
  exact Nat.le_of_eq Controller.issued_dispose.symm

/-- A cycle that begins adds the start of its fetch. -/
theorem begin {generation : Nat} {controller : Controller}
    (issued : sync.controller.issue = .ok (generation, controller)) (now : Nat) (cause : Cause) :
    sync.Adds (sync.begin now cause).2
      [{ view := sync.view.name, kind := .fetchStarted, generation, detail := cause.name }] := by
  have log := log_begin issued now cause
  obtain ⟨-, isNext, isController⟩ := Controller.issue_eq_ok_iff.1 issued
  obtain ⟨call, events, -, -, begins⟩ := begin_of_issue issued now cause
  rw [begins] at log ⊢
  refine .of_armed_eq log rfl (List.forall_mem_singleton.2 ?_) ?_ rfl
  · rintro _ ⟨⟩
    exact Nat.le_of_eq (by rw [isController])
  · simp only [isController]
    omega

/-- A loop is over if it was before, or if something was added that stops loops. -/
theorem isOver (adds : sync.Adds after added) (numbered : sync.Numbered tasks)
    (member : task ∈ tasks) :
    after.isOver task =
      (sync.isOver task || (task.arming?.isSome && added.any (·.kind.stops))) := by
  cases task with
  | timer timer =>
    simpa [Task.arming?, Synchronizer.isOver]
      using adds.stops timer.arming (numbered timer member)
  | watcher | cycle | ended => rfl

theorem land {generation : Nat} {switches : List Event} {ending : Event}
    (log : after.log = switches ++ ending :: sync.log)
    (known : generation ≤ after.controller.issued)
    (issued : sync.controller.issued ≤ after.controller.issued)
    (ends : ending.ends generation = true) (about : ∀ event ∈ switches, event.generation = none)
    (stops : ∀ arming ≤ sync.scheduler.arms, after.scheduler.isOver arming =
      (sync.scheduler.isOver arming || switches.any (·.kind.stops))) :
    sync.Adds after (switches ++ [ending]) := by
  refine ⟨log.trans (List.append_cons switches ending _), ?_, issued, ?_⟩
  · refine List.forall_mem_append.2 ⟨fun event member other isAbout => ?_, ?_⟩
    · exact nomatch (about event member).symm.trans isAbout
    · refine List.forall_mem_singleton.2 fun other isAbout => ?_
      rwa [← Option.some.inj ((Event.ends_iff.1 ends).2.symm.trans isAbout)]
  · intro arming isKnown
    rw [stops arming isKnown, List.any_append, List.any_cons, Event.stops_eq_false ends]
    simp

/-- A commit adds the end of its fetch, and after it what the poll timer does. -/
theorem commit {generation : Nat} (set : sync.scheduler.setting.isSome = true) (now : Nat)
    (known : generation ≤ sync.controller.issued) (outcome : Outcome α) :
    ∃ switches ending,
      sync.Adds (sync.deactivate.commit now generation outcome).1 (switches ++ [ending]) ∧
      ending.ends generation = true ∧
      ∀ event ∈ switches, event.generation = none ∧ event.kind ≠ .fetchStarted := by
  obtain ⟨switches, ending, log, ends, others, stops⟩ :=
    commit_log sync.deactivate set now generation outcome
  obtain ⟨_, _, _, _, commits, -⟩ := commit_eq sync.deactivate now generation outcome
  rw [commits] at log stops ⊢
  refine ⟨switches, ending, .land log known (Nat.le_refl _) ends
    (fun event member => (others event member).1) stops, ends, fun event member => ?_⟩
  refine ⟨(others event member).1, fun isStart => ?_⟩
  rcases (others event member).2 with isArm | isDisarm
  · exact nomatch isArm.symm.trans isStart
  · exact nomatch isDisarm.symm.trans isStart

/-- A drop adds the end of its fetch alone. -/
theorem discard {generation : Nat} (known : generation ≤ sync.controller.issued) {discarded : Nat}
    {detail : Option String} :
    sync.Adds ({ sync with controller := { sync.controller with discarded } }.emit now
        .fetchDiscarded generation detail)
      ([] ++ [{ view := sync.view.name, kind := .fetchDiscarded, generation, detail }]) :=
  .land rfl known (Nat.le_refl _) (Event.ends_iff.2 ⟨rfl, rfl⟩) (List.forall_mem_nil _)
    fun _ _ => (Bool.or_false _).symm

/-- A fetch that the change is not about goes on as before. -/
theorem pass (adds : sync.Adds after added) (numbered : sync.Numbered tasks) {generation : Nat}
    (same : ∀ task : Task α, task.Fetches generation → (task ∈ later ↔ task ∈ tasks))
    (silent : ∀ event ∈ added, event.ends generation = false) {event : Event} {since : List Event}
    (fate : Fate sync tasks generation event since) :
    Fate after later generation event (added ++ since) := by
  have counted : (added ++ since).countP (·.ends generation) =
      since.countP (·.ends generation) := by
    rw [List.countP_append, countP_eq_zero silent, Nat.zero_add]
  have stillGone (gone : ∀ task ∈ tasks, ¬ task.Fetches generation) :
      ∀ task ∈ later, ¬ task.Fetches generation :=
    fun task member fetches => gone task ((same task fetches).1 member) fetches
  cases fate with
  | flying member fetches none ticked isOver =>
    refine .flying ((same _ fetches).2 member) fetches (counted.trans none) ticked ?_
    -- its task is over if it was, or if it is a loop and the timer was stopped just now
    rw [adds.isOver numbered member, isOver, cutShort_append silent, none, ← ticked]
    simp [Bool.and_or_distrib_left]
  | ended gone once kept =>
    refine .ended (stillGone gone) (counted.trans once) ?_
    rw [cutShort_append silent, once]
    simpa using kept
  | lost gone none cut =>
    refine .lost (stillGone gone) (counted.trans none) ?_
    rw [cutShort_append silent, Bool.and_or_distrib_left, cut, Bool.true_or]

end Adds

/-- A task without a fetch fetches no generation. -/
theorem Task.not_fetches (idle : task.pending? = none) (generation : Nat) :
    ¬ task.Fetches generation := by
  simp [Task.Fetches, idle]

/-- Whoever else has a fetch keeps it when one task is replaced. -/
theorem mem_replace_iff {other : Task α} {generation : Nat} (fetches : other.Fetches generation)
    (notTask : ¬ task.Fetches generation) (notNext : ¬ next.Fetches generation) :
    other ∈ older ++ next :: newer ↔ other ∈ older ++ task :: newer := by
  have notTask : other ≠ task := by
    rintro rfl
    exact notTask fetches
  have notNext : other ≠ next := by
    rintro rfl
    exact notNext fetches
  simp [notTask, notNext]

/-- New tasks without a fetch are not those that fetch a generation. -/
theorem mem_spawn_iff {other : Task α} {generation : Nat} (fetches : other.Fetches generation)
    (idle : ∀ task ∈ spawned, task.pending? = none) :
    other ∈ tasks ++ spawned ↔ other ∈ tasks := by
  refine List.mem_append.trans (or_iff_left fun member => ?_)
  exact Task.not_fetches (idle other member) generation fetches

/-- Once its task has left a fetch, no task has it. -/
theorem gone_of_replace {generation : Nat} (tracked : sync.Tracked (older ++ task :: newer))
    (fetches : task.Fetches generation) (idle : next.pending? = none)
    (spawnedIdle : ∀ task ∈ spawned, task.pending? = none) :
    ∀ other ∈ older ++ next :: newer ++ spawned, ¬ other.Fetches generation := by
  intro other member otherFetches
  obtain ⟨pending, has, rfl⟩ := Option.map_eq_some_iff.1 fetches
  obtain ⟨held, isHeld, same⟩ := Option.map_eq_some_iff.1 otherFetches
  have fetched : held ∈ pendings (older ++ next :: newer ++ spawned) :=
    List.mem_filterMap.2 ⟨other, member, isHeld⟩
  rw [pendings_drop idle spawnedIdle] at fetched
  refine ((nodup_split has).1 tracked.distinct).1 ?_
  exact same ▸ List.mem_map_of_mem fetched

/-- The only task that has the fetch is the one that is replaced. -/
theorem eq_of_fetches {generation : Nat} {other : Task α}
    (tracked : sync.Tracked (older ++ task :: newer)) (fetches : task.Fetches generation)
    (member : other ∈ older ++ task :: newer) (otherFetches : other.Fetches generation) :
    other = task := by
  refine Classical.byContradiction fun different => ?_
  -- it would still be there if the task ended, but nobody else has the fetch
  have kept : other ∈ older ++ .ended :: newer ++ [] := mem_replace member different
  exact gone_of_replace tracked fetches rfl (List.forall_mem_nil _) other kept otherFetches

/-- The fetch of a task that goes on ends. -/
theorem Fate.land {generation : Nat} {event ending : Event} {since switches : List Event}
    (fate : Fate sync (older ++ task :: newer) generation event since)
    (tracked : sync.Tracked (older ++ task :: newer)) (fetches : task.Fetches generation)
    (goesOn : sync.isOver task = false) (idle : next.pending? = none)
    (spawnedIdle : ∀ task ∈ spawned, task.pending? = none) (ends : ending.ends generation = true)
    (silent : ∀ event ∈ switches, event.ends generation = false) :
    Fate after (older ++ next :: newer ++ spawned) generation event
      (switches ++ ending :: since) := by
  have isTask : task ∈ older ++ task :: newer := by simp
  cases fate with
  | flying member otherFetches none ticked isOver =>
    cases eq_of_fetches tracked fetches member otherFetches
    refine .ended (gone_of_replace tracked fetches idle spawnedIdle) ?_ ?_
    · rw [List.countP_append, countP_eq_zero silent]
      simp [ends, none]
    · rw [cutShort_land silent ends, ← isOver, goesOn]
  | ended gone | lost gone => exact absurd fetches (gone task isTask)

/-- The fetch of a task that is over is lost. -/
theorem Fate.leave {generation : Nat} {event : Event} {since : List Event}
    (fate : Fate sync (older ++ task :: newer) generation event since)
    (tracked : sync.Tracked (older ++ task :: newer)) (fetches : task.Fetches generation)
    (stopped : sync.isOver task = true) (idle : next.pending? = none) :
    Fate sync (older ++ next :: newer) generation event since := by
  have isTask : task ∈ older ++ task :: newer := by simp
  have gone := gone_of_replace tracked fetches idle (List.forall_mem_nil _)
  rw [List.append_nil] at gone
  cases fate with
  | flying member otherFetches none ticked isOver =>
    cases eq_of_fetches tracked fetches member otherFetches
    exact .lost gone none (isOver.symm.trans stopped)
  | ended gone | lost gone => exact absurd fetches (gone task isTask)

/-! ## Causes -/

/-- A task that has its turn needs a cause for its cycle only if it has a new one. -/
theorem Caused.replace (caused : Caused (older ++ task :: newer))
    (causes : ∀ cause, next.cycle? = some (.unstarted cause) →
      (decide (cause = .pollTick)) = next.arming?.isSome) : Caused (older ++ next :: newer) := by
  intro other member cause unstarted
  rcases List.mem_append.1 member with isOlder | member
  · exact caused other (List.mem_append_left _ isOlder) cause unstarted
  rcases List.mem_cons.1 member with rfl | isNewer
  · exact causes cause unstarted
  · exact caused other (List.mem_append_right _ (List.mem_cons_of_mem _ isNewer)) cause unstarted

/-- A task that leaves its cycle needs no cause. -/
theorem Caused.rest (caused : Caused (older ++ task :: newer)) (idle : next.cycle? = none) :
    Caused (older ++ next :: newer) :=
  caused.replace fun _ unstarted => nomatch idle.symm.trans unstarted

/-- New tasks need a cause for the cycles that they begin with. -/
theorem Caused.spawn (caused : Caused tasks)
    (causes : ∀ task ∈ spawned, ∀ cause, task.cycle? = some (.unstarted cause) →
      (decide (cause = .pollTick)) = task.arming?.isSome) : Caused (tasks ++ spawned) := by
  intro other member cause unstarted
  rcases List.mem_append.1 member with old | new
  · exact caused other old cause unstarted
  · exact causes other new cause unstarted

/-- New loops of the poll timer have no cycle yet. -/
theorem Caused.timers (caused : Caused tasks) {timers : List (Timer α)}
    (unstarted : ∀ timer ∈ timers, timer.stage = .unstarted) :
    Caused (tasks ++ timers.map .timer) := by
  refine caused.spawn fun task member cause works => ?_
  obtain ⟨timer, started, rfl⟩ := List.mem_map.1 member
  simp [Task.cycle?, unstarted timer started] at works

/-! ## Changes -/

namespace Accounted

variable {added : List Event}

/-- Every generation in the log was issued, the added ones too. -/
theorem issued_of_adds (accounted : sync.Accounted tasks) (adds : sync.Adds after added) :
    ∀ event ∈ after.log, ∀ generation, event.generation = some generation →
      generation ≤ after.controller.issued := by
  rw [adds.log]
  refine List.forall_mem_append.2 ⟨adds.known, fun event member generation about => ?_⟩
  exact Nat.le_trans (accounted.issued event member generation about) adds.issued

/-- A change that begins no fetch is accounted for if every fate is. -/
theorem adds (accounted : sync.Accounted tasks) (adds : sync.Adds after added)
    (caused : Caused later) (unstarted : ∀ event ∈ added, event.kind ≠ .fetchStarted)
    (fate : ∀ {generation event since}, Fate sync tasks generation event since →
      Fate after later generation event (added ++ since)) : after.Accounted later where
  caused := caused
  issued := accounted.issued_of_adds adds
  fate := by
    intro since event before generation log starts
    have old : event ∉ added := fun member =>
      unstarted event member (Event.starts_iff.1 starts).1
    obtain ⟨since, rfl, earlier⟩ := split_of_append (adds.log.symm.trans log) old
    obtain ⟨first, known⟩ := accounted.fate earlier starts
    exact ⟨first, fate known⟩

/-- A change that is about no fetch. -/
theorem quiet (accounted : sync.Accounted tasks) (steady : sync.Steady tasks)
    (adds : sync.Adds after added) (caused : Caused later)
    (about : ∀ event ∈ added, event.generation = none ∧ event.kind ≠ .fetchStarted)
    (same : ∀ {task : Task α} {generation}, task.Fetches generation →
      (task ∈ later ↔ task ∈ tasks)) : after.Accounted later := by
  refine accounted.adds adds caused (fun event member => (about event member).2) ?_
  intro generation event since fate
  refine adds.pass steady.numbered (fun _ => same) (fun event member => ?_) fate
  simp [Event.ends, (about event member).1]

/-- A loop goes on without a fetch, as before. -/
theorem rest (accounted : sync.Accounted (older ++ task :: newer))
    (steady : sync.Steady (older ++ task :: newer)) (adds : sync.Adds after added)
    (about : ∀ event ∈ added, event.generation = none ∧ event.kind ≠ .fetchStarted)
    (caused : Caused (older ++ next :: newer)) (free : task.pending? = none)
    (idle : next.pending? = none) : after.Accounted (older ++ next :: newer) :=
  accounted.quiet steady adds caused about fun fetches =>
    mem_replace_iff fetches (Task.not_fetches free _) (Task.not_fetches idle _)

/-- The fetch of a task ends. -/
theorem land {ending : Event} {switches : List Event} {pending : Pending α}
    {outcome : Outcome α} (accounted : sync.Accounted (older ++ task :: newer))
    (steady : sync.Steady (older ++ task :: newer))
    (lands : sync.Lands now task next pending outcome)
    (adds : sync.Adds after (switches ++ [ending]))
    (ends : ending.ends pending.generation = true)
    (about : ∀ event ∈ switches, event.generation = none ∧ event.kind ≠ .fetchStarted)
    {timers : List (Timer α)} (unstarted : ∀ timer ∈ timers, timer.stage = .unstarted) :
    after.Accounted (older ++ next :: newer ++ timers.map .timer) := by
  have fetches : task.Fetches pending.generation := by simp [Task.Fetches, lands.pending?]
  have spawnedIdle := idle_timers unstarted
  have silent (generation : Nat) : ∀ event ∈ switches, event.ends generation = false :=
    fun event member => by simp [Event.ends, (about event member).1]
  refine accounted.adds adds ((accounted.caused.rest lands.idle).timers unstarted) ?_ ?_
  · refine List.forall_mem_append.2 ⟨fun event member => (about event member).2, ?_⟩
    exact List.forall_mem_singleton.2 (Event.kind_ne_of_ends ends rfl)
  intro generation event since fate
  by_cases same : generation = pending.generation
  · subst same
    rw [← List.append_cons switches]
    exact fate.land steady.tracked fetches lands.goesOn lands.done spawnedIdle ends (silent _)
  · have different : ¬ task.Fetches generation := fun other =>
      same (Option.some.inj (other.symm.trans fetches))
    refine adds.pass steady.numbered (fun other otherFetches => ?_) ?_ fate
    · refine (mem_spawn_iff otherFetches spawnedIdle).trans ?_
      exact mem_replace_iff otherFetches different (Task.not_fetches lands.done _)
    · refine List.forall_mem_append.2 ⟨silent generation, List.forall_mem_singleton.2 ?_⟩
      refine Bool.eq_false_iff.2 fun otherEnds => same ?_
      exact Option.some.inj ((Event.ends_iff.1 otherEnds).2.symm.trans (Event.ends_iff.1 ends).2)

/-- A fetch begins. -/
theorem begin {generation : Nat} {cause : Cause} {controller : Controller}
    (accounted : sync.Accounted (older ++ task :: newer))
    (steady : sync.Steady (older ++ task :: newer))
    (unstarted : task.cycle? = some (.unstarted cause)) (goesOn : sync.isOver task = false)
    (issued : sync.controller.issue = .ok (generation, controller))
    (fetching : next.cycle? = some (sync.begin now cause).1)
    (arming : next.arming? = task.arming?) :
    (sync.begin now cause).2.Accounted (older ++ next :: newer) := by
  have adds := Adds.begin issued now cause
  obtain ⟨-, isNext, -⟩ := Controller.issue_eq_ok_iff.1 issued
  obtain ⟨call, events, -, -, begins⟩ := begin_of_issue issued now cause
  rw [begins] at fetching adds ⊢
  have fetches : next.Fetches generation := by
    simp [Task.Fetches, Task.pending?_eq fetching, Cycle.pending?]
  have earlier {event : Event} {other : Nat} (member : event ∈ sync.log)
      (about : event.generation = some other) : other ≠ generation := by
    have := accounted.issued event member other about
    omega
  refine ⟨?_, accounted.issued_of_adds adds, ?_⟩
  · exact accounted.caused.replace fun _ works => nomatch fetching.symm.trans works
  intro since event before other log starts
  rw [adds.log] at log
  -- either this is the start of the fetch that begins, or one that was on record before
  cases since with
  | nil =>
    obtain ⟨rfl, rfl⟩ := List.cons.inj log
    obtain rfl : generation = other := Option.some.inj (Event.starts_iff.1 starts).2
    refine ⟨countP_eq_zero fun event member => ?_, .flying (by simp) fetches rfl ?_ ?_⟩
    · exact Bool.eq_false_iff.2 fun ends => earlier member (Event.ends_iff.1 ends).2 rfl
    · rw [arming, ← accounted.caused task (by simp) cause unstarted]
      exact beq_name_pollTick cause
    · rw [isOver_eq, arming, ← isOver_eq]
      exact goesOn.trans (Bool.and_false _).symm
  | cons first since =>
    obtain ⟨rfl, known⟩ := List.cons.inj log
    have known : sync.log = since ++ event :: before := known
    obtain ⟨silent, fate⟩ := accounted.fate known starts
    have different : other ≠ generation :=
      earlier (by simp [known]) (Event.starts_iff.1 starts).2
    refine ⟨silent, adds.pass steady.numbered (fun _ has => ?_) ?_ fate⟩
    · refine mem_replace_iff has (Task.not_fetches (Task.pending?_eq unstarted) _) fun also => ?_
      exact different (Option.some.inj (also.symm.trans fetches))
    · exact List.forall_mem_singleton.2 rfl

/-- A fetch is dropped. -/
theorem discard {pending : Pending α} {outcome : Outcome α}
    (accounted : sync.Accounted (older ++ task :: newer))
    (steady : sync.Steady (older ++ task :: newer))
    (lands : sync.Lands now task next pending outcome) {discarded : Nat}
    {detail : Option String} :
    ({ sync with controller := { sync.controller with discarded } }.emit now .fetchDiscarded
      pending.generation detail).Accounted (older ++ next :: newer) := by
  have known := steady.tracked.generation_le steady.coherent (mem_pendings lands.pending?)
  have adds : sync.Adds ({ sync with controller := { sync.controller with discarded } }.emit now
      .fetchDiscarded pending.generation detail) ([] ++ [_]) := .discard known
  have landed := accounted.land steady lands adds (Event.ends_iff.2 ⟨rfl, rfl⟩)
    (List.forall_mem_nil _) (List.forall_mem_nil _)
  rwa [List.map_nil, List.append_nil] at landed

/-- Every change keeps every fetch accounted for. -/
theorem change (accounted : sync.Accounted tasks) (steady : sync.Steady tasks)
    (change : Change sync tasks after later) : after.Accounted later := by
  cases change with
  | write | reply | hold | record | dismissError =>
    exact accounted.quiet steady (.nothing rfl rfl rfl) accounted.caused (List.forall_mem_nil _)
      fun _ => Iff.rfl
  | dispose now active =>
    exact accounted.quiet steady (.dispose active now) accounted.caused
      (List.forall_mem_singleton.2 ⟨rfl, nofun⟩) fun _ => Iff.rfl
  | spawn fresh =>
    refine accounted.quiet steady (.nothing rfl rfl rfl) (accounted.caused.spawn ?_)
      (List.forall_mem_nil _) fun fetches => mem_spawn_iff fetches (idle_fresh fresh)
    intro task member cause unstarted
    cases fresh task member with
    | cycle caller outside =>
      cases unstarted
      exact decide_eq_false outside
  | @leave _ _ task next gone idle arming =>
    have nothing : sync.Adds sync [] := .nothing rfl rfl rfl
    refine accounted.adds nothing (accounted.caused.rest idle) (List.forall_mem_nil _) ?_
    intro generation event since fate
    have idle := Task.pending?_eq_none idle
    by_cases fetches : task.Fetches generation
    · rcases gone with free | isOver
      · exact absurd fetches (Task.not_fetches free generation)
      · exact fate.leave steady.tracked fetches isOver idle
    · exact nothing.pass steady.numbered
        (fun _ has => mem_replace_iff has fetches (Task.not_fetches idle generation))
        (List.forall_mem_nil _) fate
  | skip waits goesOn =>
    exact accounted.rest steady (.nothing rfl rfl rfl) (List.forall_mem_nil _)
      (accounted.caused.rest rfl) (Task.pending?_eq_none (Task.cycle?_of_waiting waits)) rfl
  | tick now waits goesOn =>
    refine accounted.rest steady
      (.of_armed_eq rfl rfl (List.forall_mem_singleton.2 nofun) (Nat.le_refl _) rfl)
      (List.forall_mem_singleton.2 ⟨rfl, nofun⟩) (accounted.caused.replace ?_) ?_ rfl
    · rintro _ ⟨⟩
      rfl
    · exact Task.pending?_eq_none (Task.cycle?_of_waiting waits)
  | begin unstarted active goesOn issued fetching arming =>
    exact accounted.begin steady unstarted goesOn issued fetching arming
  | @commit _ _ _ _ now pending outcome lands current =>
    obtain ⟨switches, ending, adds, ends, about⟩ := Adds.commit steady.set now
      (steady.tracked.generation_le steady.coherent (mem_pendings lands.pending?)) outcome
    obtain ⟨_, _, _, _, commits, -, -, -, -, starts⟩ :=
      commit_eq sync.deactivate now pending.generation outcome
    rw [commits] at adds ⊢
    exact accounted.land steady lands adds ends about starts.unstarted
  | discard lands superseded => exact accounted.discard steady lands

end Accounted

/-! ## Settled points -/

variable {view : View} {scope : Scope} {liveness : Liveness α} {query : String}
  {replies : List (Reply α)} {lastResort : Reply α} {bench : Bench α}

/-- Wherever a synchronizer is, every fetch that started has its fate. -/
theorem Reachable.accounted
    (created : create view scope liveness query { replies, lastResort } = .ok sync)
    (reachable : Reachable sync bench) : bench.state.Accounted bench.tasks := by
  refine reachable.upholds Accounted.change created ?_
  obtain ⟨setting, rfl⟩ := eq_of_create created
  refine ⟨?_, nofun, fun log => nomatch (List.append_eq_nil_iff.1 log.symm).2⟩
  intro task member cause unstarted
  rcases List.mem_cons.1 member with rfl | member
  · exact nomatch unstarted
  · cases List.mem_singleton.1 member
    cases unstarted
    rfl

/-- Nobody is active unless the view is loading. -/
theorem Reachable.inactive
    (created : create view scope liveness query { replies, lastResort } = .ok sync)
    (reachable : Reachable sync bench) (rests : bench.state.snapshot.phase ≠ .loading) :
    bench.state.controller.active = none := by
  have steady := reachable.steady created
  cases disposed : bench.state.disposed with
  | true => exact steady.coherent.disposed (steady.closed.trans disposed)
  | false =>
    have loading := (reachable.upheld created disposed).consistent.loading
    exact Option.not_isSome_iff_eq_none.1 fun active => rests (loading.2 active)

/-- Whenever a synchronizer is settled and not loading, each fetch that started has ended, which
is on record once and after its start, unless it was cut short. -/
theorem settled_accounted
    (created : create view scope liveness query { replies, lastResort } = .ok sync)
    (reachable : Reachable sync bench) (settled : bench.ready = [])
    (rests : bench.state.snapshot.phase ≠ .loading) {since before : List Event} {event : Event}
    {generation : Nat} (log : bench.state.log = since ++ event :: before)
    (starts : event.starts generation = true) :
    before.countP (·.ends generation) = 0 ∧
      since.countP (·.ends generation) =
        if event.ticked && cutShort generation since then 0 else 1 := by
  obtain ⟨silent, fate⟩ := (reachable.accounted created).fate log starts
  refine ⟨silent, ?_⟩
  have idle : pendings bench.tasks = [] :=
    (reachable.steady created).tracked.pendings_of_inactive
      (fun task member => reachable.alert.canRun_eq_false settled member)
      (reachable.inactive created rests)
  cases fate with
  | flying member fetches =>
    obtain ⟨pending, has, -⟩ := Option.map_eq_some_iff.1 fetches
    have fetched : pending ∈ pendings bench.tasks := List.mem_filterMap.2 ⟨_, member, has⟩
    rw [idle] at fetched
    exact nomatch fetched
  | ended gone once kept => rw [kept, once, if_neg Bool.false_ne_true]
  | lost gone none cut => rw [cut, none, if_pos rfl]

/-- A fetch for a caller takes over from the first one, and is dropped at the end.  The end of each
of them is on record. -/
theorem settled_accounted_executions :
    let created := create (View.preset "executions" .execution) {} (Verdict.ofCount 5000) ""
      { replies := [], lastResort := .never }
    ∃ sync : Synchronizer Nat, created = .ok sync ∧
      let bench := [.settle, .refresh, .settle, .dispose, .settle].foldl perform sync.start
      Reachable sync bench ∧ bench.ready = [] ∧ bench.state.snapshot.phase ≠ .loading ∧
        let started : Event :=
          { view := "executions", kind := .fetchStarted, generation := some 2
            detail := some "manual" }
        bench.state.log = bench.state.log.take 3 ++ started :: bench.state.log.drop 4 ∧
          started.starts 2 = true ∧ started.ticked = false ∧
          (bench.state.log.drop 4).countP (·.ends 2) = 0 ∧
          (bench.state.log.take 3).countP (·.ends 2) = 1 := by
  intro created
  have isCreated : created = .ok _ := rfl
  refine ⟨_, isCreated, ?_⟩
  intro bench
  have reachable : Reachable _ bench := Reachable.start.foldl _
  have settled : bench.ready = [] := by decide
  have rests : bench.state.snapshot.phase ≠ .loading := by decide
  refine ⟨reachable, settled, rests, ?_⟩
  intro started
  have log : bench.state.log = bench.state.log.take 3 ++ started :: bench.state.log.drop 4 := by
    decide
  exact ⟨log, rfl, rfl, settled_accounted isCreated reachable settled rests log rfl⟩

/-- The poll timer is in the middle of a fetch when the end comes, and the end of that fetch is
never put on record. -/
theorem settled_unaccounted_executions :
    let created := create { View.preset "executions" .execution with pollInterval := 1000 } {}
      (Verdict.ofCount 1000) ""
      { replies := [.after 10 (.ok 3), .after 500 (.ok 3)], lastResort := .never }
    ∃ sync : Synchronizer Nat, created = .ok sync ∧
      let bench := [.advance 1200, .dispose, .advance 1000].foldl perform sync.start
      Reachable sync bench ∧ bench.ready = [] ∧ bench.state.snapshot.phase ≠ .loading ∧
        bench.state.started = [2, 1] ∧ bench.state.log.countP (·.ends 2) = 0 := by
  refine ⟨_, rfl, Reachable.start.foldl _, ?_, ?_, ?_, ?_⟩
  · decide
  · decide
  · decide
  · decide

end Synchronizer

end QuerySync
