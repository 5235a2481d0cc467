import QuerySync.Proofs.Synchronizer.Log

/-!
# What is visible follows what was applied

The data of a view is what the latest applied generation fetched, and the poll timer is armed
exactly as long as that data is live (`visible_follows_applied`).  So as long as nothing is
applied neither of them changes, whatever fails, is aborted, superseded or dismissed meanwhile.

Every change leaves the data and the timer alone (`Unmoved`), ends the synchronizer, or applies
data (`Change.effect`).  Only the last one needs an argument: the generation that is applied is
later than all that were applied before, since those may not deliver any more, and the timer is
switched only if the new data says otherwise than the old.
-/

namespace QuerySync

variable {α : Type}

/-- The data of a reply. -/
def Reply.data? : Reply α → Option α
  | .after _ (.ok data) => some data
  | .after _ (.error _) | .never => none

/-- Whether an event says that the data or the poll timer changed. -/
def EventKind.moves : EventKind → Bool
  | fetchApplied | pollArmed | pollDisarmed => true
  | fetchStarted | fetchFailed | fetchDiscarded | pollTick | disposed => false

/-- Arming and disarming take turns in a log, newest first, and arming was first.  The flag says
which of them was last. -/
inductive Alternating : Bool → List Event → Prop where
  | nil : Alternating false []
  | arm {event : Event} {log : List Event} (isArm : event.kind = .pollArmed)
      (before : Alternating false log) : Alternating true (event :: log)
  | disarm {event : Event} {log : List Event} (isDisarm : event.kind = .pollDisarmed)
      (before : Alternating true log) : Alternating false (event :: log)
  | other {armed : Bool} {event : Event} {log : List Event} (notArm : event.kind ≠ .pollArmed)
      (notDisarm : event.kind ≠ .pollDisarmed) (before : Alternating armed log) :
      Alternating armed (event :: log)

section
variable {armed : Bool} {log added : List Event} {event : Event}

/-- Events that move no timer leave the switches in turn. -/
theorem Alternating.unmoved (before : Alternating armed log)
    (quiet : ∀ event ∈ added, event.kind.moves = false) : Alternating armed (added ++ log) := by
  induction added with
  | nil => exact before
  | cons event added induction =>
    have isQuiet := quiet event List.mem_cons_self
    refine .other ?_ ?_ (induction fun other member => quiet other (List.mem_cons_of_mem _ member))
    · exact fun isArm => nomatch isArm ▸ isQuiet
    · exact fun isDisarm => nomatch isDisarm ▸ isQuiet

/-- Events that apply nothing leave what was applied. -/
theorem generations_unmoved (quiet : ∀ event ∈ added, event.kind.moves = false) :
    generations .fetchApplied (added ++ log) = generations .fetchApplied log := by
  rw [generations_append, List.append_left_eq_self, List.eq_nil_iff_forall_not_mem]
  intro generation member
  obtain ⟨event, isAdded, isApplied, -⟩ := mem_generations.1 member
  exact nomatch isApplied ▸ quiet event isAdded

/-- Events that arm nothing leave how often the timer was armed. -/
theorem countP_unmoved (quiet : ∀ event ∈ added, event.kind.moves = false) :
    (added ++ log).countP (·.kind = .pollArmed) = log.countP (·.kind = .pollArmed) := by
  rw [List.countP_append, Nat.add_eq_right, List.countP_eq_zero]
  intro event isAdded isArm
  exact nomatch of_decide_eq_true isArm ▸ quiet event isAdded

end

namespace Synchronizer

variable {sync after : Synchronizer α} {now : Nat} {tasks later : List (Task α)}
  {liveness : Liveness α}

/-- The data that the fetch of a generation gave. -/
def payload? (sync : Synchronizer α) (generation : Nat) : Option α :=
  (sync.transport.calls.find? (·.generation = generation)).bind (·.reply.data?)

/-- What is visible follows the latest generation that was applied. -/
structure Visible (liveness : Liveness α) (sync : Synchronizer α) : Prop where
  /-- The data is what that generation fetched, if there is one. -/
  data : sync.snapshot.data = sync.applied.max?.bind sync.payload?
  /-- It is live if the check says so. -/
  live : sync.snapshot.live = (liveness.verdictOf sync.snapshot.data).live
  /-- The poll timer is armed exactly if it is live. -/
  armed : sync.scheduler.isArmed = sync.snapshot.live

/-- What is on record of the data and of the poll timer. -/
structure Recorded (sync : Synchronizer α) : Prop where
  /-- Generations that were applied fetched data. -/
  payload : ∀ generation ∈ sync.applied, (sync.payload? generation).isSome = true
  /-- They are applied in their order. -/
  increasing : sync.applied.Pairwise (· > ·)
  /-- Arming and disarming take turns, and arming was first. -/
  alternating : ∃ armed, Alternating armed sync.log
  /-- Every arming is on record. -/
  arms : sync.scheduler.arms = sync.log.countP (·.kind = .pollArmed)

/-! ## Changes -/

/-- A change that leaves the data and the poll timer alone. -/
structure Unmoved (sync after : Synchronizer α) : Prop where
  liveness : after.liveness = sync.liveness
  data : after.snapshot.data = sync.snapshot.data
  live : after.snapshot.live = sync.snapshot.live
  armed : after.scheduler.armed = sync.scheduler.armed
  arms : after.scheduler.arms = sync.scheduler.arms
  disposed : after.disposed = sync.disposed
  log : ∃ added, after.log = added ++ sync.log ∧ ∀ event ∈ added, event.kind.moves = false
  stale : ∀ {generation}, sync.controller.Stale generation → after.controller.Stale generation
  calls : sync.transport.calls ⊆ after.transport.calls
  payload : ∀ {generation}, sync.controller.Stale generation →
    after.payload? generation = sync.payload? generation

theorem Unmoved.refl (sync : Synchronizer α) : sync.Unmoved sync :=
  ⟨rfl, rfl, rfl, rfl, rfl, rfl, ⟨[], rfl, nofun⟩, id, List.Subset.refl _, fun _ => rfl⟩

/-- A cycle that begins makes a call, and moves nothing that follows the data. -/
theorem Unmoved.begin {generation : Nat} {controller : Controller} {cause : Cause}
    (issued : sync.controller.issue = .ok (generation, controller)) :
    sync.Unmoved (sync.begin now cause).2 := by
  obtain ⟨-, isNext, -⟩ := Controller.issue_eq_ok_iff.1 issued
  simp only [Synchronizer.begin, issued]
  refine ⟨rfl, rfl, rfl, rfl, rfl, rfl, ⟨[_], rfl, List.forall_mem_singleton.2 rfl⟩,
    fun stale => stale.issue issued, List.subset_cons_self _ _, fun {other} stale => ?_⟩
  have different : generation ≠ other := by
    have := stale.issued
    omega
  simp [payload?, Transport.call, emit, different]

/-- A change leaves the data and the poll timer alone, ends the synchronizer, or applies data that
the active generation fetched. -/
theorem Change.effect (steady : sync.Steady tasks) (change : Change sync tasks after later) :
    sync.Unmoved after ∨
    (∃ now, sync.disposed = false ∧ after = sync.dispose now) ∨
    ∃ now generation data,
      sync.disposed = false ∧ sync.controller.active = some generation ∧
      (∃ call ∈ sync.transport.calls, call.generation = generation ∧
        call.reply.data? = some data) ∧
      after = (sync.deactivate.commit now generation (.ok data)).1 := by
  cases change with
  | write | hold | record | spawn | leave | skip => exact .inl { Unmoved.refl sync with }
  | tick =>
    exact .inl { Unmoved.refl sync with log := ⟨[_], rfl, List.forall_mem_singleton.2 rfl⟩ }
  | reply calls =>
    exact .inl { Unmoved.refl sync with
      calls := calls ▸ List.Subset.refl _, payload := fun _ => by simp only [payload?, calls] }
  | dismissError active =>
    refine .inl { Unmoved.refl sync with data := ?_, live := ?_ }
    · unfold Snapshot.dismissError
      split <;> rfl
    · unfold Snapshot.dismissError
      split <;> rfl
  | dispose now active => exact .inr (.inl ⟨now, active, rfl⟩)
  | begin unstarted active goesOn issued fetching arming => exact .inl (.begin issued)
  | discard lands superseded =>
    refine .inl { Unmoved.refl sync with
      log := ⟨[_], rfl, List.forall_mem_singleton.2 rfl⟩, stale := fun stale => ?_ }
    exact ⟨stale.issued, stale.superseded⟩
  | @commit _ _ _ _ now pending outcome lands current =>
    obtain ⟨running, active⟩ := Controller.isCurrent_iff.1 current
    have stale {generation : Nat} (stale : sync.controller.Stale generation) :
        { sync.controller with active := none }.Stale generation :=
      Controller.stale_of_active_ne stale.issued nofun
    cases outcome with
    | error error =>
      cases error with
      | failed message =>
        exact .inl { Unmoved.refl sync with
          log := ⟨[_], rfl, List.forall_mem_singleton.2 rfl⟩, stale }
      | cancelled =>
        exact .inl { Unmoved.refl sync with
          log := ⟨[_], rfl, List.forall_mem_singleton.2 rfl⟩, stale }
    | ok data =>
      obtain ⟨call, isCall, generation, delay, reply⟩ := steady.tracked.landed steady.coherent
        (mem_pendings lands.pending?) active lands.landed
      refine .inr (.inr ⟨now, pending.generation, data, steady.closed.symm.trans running, active,
        ⟨call, isCall, generation, ?_⟩, rfl⟩)
      rw [reply]
      rfl

/-! ## The data -/

/-- The data fits what was applied, whatever the timer does. -/
structure Shown (liveness : Liveness α) (sync : Synchronizer α) : Prop where
  check : sync.liveness = liveness
  payload : ∀ generation ∈ sync.applied, (sync.payload? generation).isSome = true
  data : sync.snapshot.data = sync.applied.head?.bind sync.payload?
  live : sync.snapshot.live = (liveness.verdictOf sync.snapshot.data).live
  increasing : sync.applied.Pairwise (· > ·)
  stale : ∀ generation ∈ sync.applied, sync.controller.Stale generation

/-- The poll timer fits the data, and is on record. -/
structure Switched (sync : Synchronizer α) : Prop where
  armed : sync.disposed = false → sync.scheduler.isArmed = sync.snapshot.live
  alternating : ∃ armed, Alternating armed sync.log ∧
    (sync.disposed = false → armed = sync.scheduler.isArmed)
  arms : sync.scheduler.arms = sync.log.countP (·.kind = .pollArmed)

/-- What was fetched for a generation is the reply to its call. -/
theorem payload?_eq {call : Call α} (steady : sync.Steady tasks)
    (called : call ∈ sync.transport.calls) :
    sync.payload? call.generation = call.reply.data? := by
  have distinct : (sync.transport.calls.map (·.generation)).Nodup := by
    rw [steady.calls]
    exact List.nodup_reverse.2 List.nodup_range'
  obtain ⟨found, finds⟩ : ∃ found,
      sync.transport.calls.find? (·.generation = call.generation) = some found :=
    Option.isSome_iff_exists.1 (List.find?_isSome.2 ⟨call, called, decide_eq_true rfl⟩)
  have generation : found.generation = call.generation := by
    simpa using List.find?_some finds
  have same : found = call :=
    List.inj_on_of_nodup_map distinct (List.mem_of_find?_eq_some finds) called generation
  rw [payload?, finds, same]
  rfl

/-- Nothing is applied then. -/
theorem Unmoved.applied (unmoved : sync.Unmoved after) : after.applied = sync.applied := by
  obtain ⟨added, log, quiet⟩ := unmoved.log
  rw [Synchronizer.applied, log, generations_unmoved quiet]
  rfl

namespace Shown

theorem unmoved (shown : sync.Shown liveness) (unmoved : sync.Unmoved after) :
    after.Shown liveness := by
  have payload : ∀ generation ∈ sync.applied,
      after.payload? generation = sync.payload? generation :=
    fun generation member => unmoved.payload (shown.stale generation member)
  refine ⟨unmoved.liveness.trans shown.check, ?_, ?_, ?_, ?_, ?_⟩
  · rw [unmoved.applied]
    exact fun generation member => payload generation member ▸ shown.payload generation member
  · rw [unmoved.data, unmoved.applied, shown.data]
    cases last : sync.applied.head? with
    | none => rfl
    | some generation => exact (payload generation (List.mem_of_head? last)).symm
  · rw [unmoved.live, unmoved.data]
    exact shown.live
  · rw [unmoved.applied]
    exact shown.increasing
  · rw [unmoved.applied]
    exact fun generation member => unmoved.stale (shown.stale generation member)

/-- The end leaves the data, and what was applied. -/
theorem dispose (shown : sync.Shown liveness) (active : sync.disposed = false) :
    (sync.dispose now).Shown liveness := by
  rw [dispose_of_active active]
  exact { shown with stale := fun generation member => (shown.stale generation member).dispose }

/-- Switching the timer says nothing of the data. -/
theorem switch (shown : sync.Shown liveness) {scheduler : Scheduler Unit} {kind : EventKind}
    (notApplied : kind ≠ .fetchApplied) :
    ({ sync with scheduler }.emit now kind none none).Shown liveness := by
  have applied : ({ sync with scheduler }.emit now kind none none).applied = sync.applied :=
    generations_cons_of_ne notApplied
  refine ⟨shown.check, ?_, ?_, shown.live, ?_, ?_⟩
  · rw [applied]
    exact shown.payload
  · rw [applied]
    exact shown.data
  · rw [applied]
    exact shown.increasing
  · rw [applied]
    exact shown.stale

/-- Rescheduling leaves the data. -/
theorem reschedule {live : Bool} (shown : sync.Shown liveness)
    (set : sync.scheduler.setting.isSome = true) :
    (sync.reschedule now live).1.Shown liveness := by
  rcases reschedule_cases set now live with ⟨-, keeps⟩ | ⟨-, -, timers, arms⟩ | ⟨-, -, disarms⟩
  · rw [keeps]
    exact shown
  · rw [arms]
    exact shown.switch nofun
  · rw [disarms]
    exact shown.switch nofun

/-- What the active generation fetched is shown. -/
theorem succeed {generation : Nat} {data : α} (shown : sync.Shown liveness)
    (steady : sync.Steady tasks) (now : Nat) (active : sync.disposed = false)
    (isActive : sync.controller.active = some generation)
    (payload : sync.payload? generation = some data) :
    ({ sync with
      controller := { sync.controller with active := none }
      snapshot := sync.snapshot.succeed data (sync.liveness data).live }.emit now
        .fetchApplied generation none).Shown liveness := by
  have latest := steady.coherent.latest isActive
  have current : sync.controller.isCurrent generation = true :=
    Controller.isCurrent_iff.2 ⟨steady.closed.trans active, isActive⟩
  refine ⟨shown.check, ?_, payload.symm, ?_, ?_, ?_⟩
  · exact List.forall_mem_cons.2 ⟨payload ▸ rfl, shown.payload⟩
  · rw [← shown.check]
    rfl
  · refine List.pairwise_cons.2 ⟨fun other member => ?_, shown.increasing⟩
    -- it was given out earlier, and it is another one, since it may not deliver any more
    have stale := shown.stale other member
    refine Nat.lt_of_le_of_ne (latest ▸ stale.issued) ?_
    rintro rfl
    exact Bool.eq_false_iff.1 stale.superseded current
  · refine List.forall_mem_cons.2 ⟨?_, fun other member => ?_⟩
    · exact Controller.stale_of_active_ne (Nat.le_of_eq latest) nofun
    · exact Controller.stale_of_active_ne (shown.stale other member).issued nofun

/-- Every change keeps the data with what was applied last. -/
theorem change (shown : sync.Shown liveness) (steady : sync.Steady tasks)
    (change : Change sync tasks after later) : after.Shown liveness := by
  rcases change.effect steady with
    unmoved | ⟨now, active, rfl⟩ |
      ⟨now, generation, data, active, isActive, ⟨call, isCall, rfl, fetched⟩, rfl⟩
  · exact shown.unmoved unmoved
  · exact shown.dispose active
  · have payload := (payload?_eq steady isCall).trans fetched
    exact (shown.succeed steady now active isActive payload).reschedule steady.set

end Shown

/-! ## The poll timer -/

namespace Switched

theorem unmoved (switched : sync.Switched) (unmoved : sync.Unmoved after) : after.Switched := by
  obtain ⟨armed, ⟨last, alternating, isLast⟩, arms⟩ := switched
  obtain ⟨added, log, quiet⟩ := unmoved.log
  have isArmed : after.scheduler.isArmed = sync.scheduler.isArmed := by
    rw [Scheduler.isArmed, unmoved.armed, ← Scheduler.isArmed]
  refine ⟨?_, ⟨last, ?_, ?_⟩, ?_⟩
  · rw [unmoved.disposed, isArmed, unmoved.live]
    exact armed
  · rw [log]
    exact alternating.unmoved quiet
  · rw [unmoved.disposed, isArmed]
    exact isLast
  · rw [unmoved.arms, log, countP_unmoved quiet]
    exact arms

theorem dispose (switched : sync.Switched) (active : sync.disposed = false) :
    (sync.dispose now).Switched := by
  obtain ⟨armed, ⟨last, alternating, isLast⟩, arms⟩ := switched
  rw [dispose_of_active active]
  exact ⟨nofun, ⟨last, alternating.other nofun nofun, nofun⟩, arms⟩

/-- Data is shown, and the timer is switched if that data says otherwise than the old. -/
theorem reschedule {live : Bool} (set : sync.scheduler.setting.isSome = true)
    (isLive : sync.snapshot.live = live)
    (alternating : Alternating sync.scheduler.isArmed sync.log)
    (arms : sync.scheduler.arms = sync.log.countP (·.kind = .pollArmed)) :
    (sync.reschedule now live).1.Switched := by
  rcases reschedule_cases set now live with
    ⟨same, keeps⟩ | ⟨unarmed, rfl, timers, armed⟩ | ⟨armed, rfl, disarmed⟩
  · rw [keeps]
    exact ⟨fun _ => same.trans isLive.symm, ⟨_, alternating, fun _ => rfl⟩, arms⟩
  · rw [armed]
    rw [unarmed] at alternating
    refine ⟨fun _ => isLive.symm, ⟨true, .arm rfl alternating, fun _ => rfl⟩, ?_⟩
    rw [log_emit, List.countP_cons_of_pos (by rfl)]
    exact congrArg (· + 1) arms
  · rw [disarmed]
    rw [armed] at alternating
    refine ⟨fun _ => isLive.symm, ⟨false, .disarm rfl alternating, fun _ => rfl⟩, ?_⟩
    rw [log_emit, List.countP_cons_of_neg (by simp)]
    exact arms

theorem change (switched : sync.Switched) (steady : sync.Steady tasks)
    (change : Change sync tasks after later) : after.Switched := by
  rcases change.effect steady with
    unmoved | ⟨now, active, rfl⟩ | ⟨now, generation, data, active, -, -, rfl⟩
  · exact switched.unmoved unmoved
  · exact switched.dispose active
  · obtain ⟨last, alternating, isLast⟩ := switched.alternating
    refine reschedule steady.set rfl ?_ ?_
    · exact isLast active ▸ alternating.other nofun nofun
    · rw [log_emit, List.countP_cons_of_neg (by simp)]
      exact switched.arms

end Switched

/-! ## What is reached -/

variable {view : View} {scope : Scope} {query : String} {replies : List (Reply α)}
  {lastResort : Reply α} {bench last : Bench α}

/-- What holds of a synchronizer, its data and its poll timer at all times. -/
structure Mirrored (liveness : Liveness α) (sync : Synchronizer α) (tasks : List (Task α)) :
    Prop where
  steady : sync.Steady tasks
  shown : sync.Shown liveness
  switched : sync.Switched

/-- Wherever a synchronizer is, its data and its timer follow what was applied. -/
theorem Reachable.mirrored
    (created : create view scope liveness query { replies, lastResort } = .ok sync)
    (reachable : Reachable sync bench) : bench.state.Mirrored liveness bench.tasks := by
  refine ⟨reachable.steady created, reachable.upholds Shown.change created ?_,
    reachable.upholds Switched.change created ?_⟩
  · obtain ⟨setting, rfl⟩ := eq_of_create created
    exact ⟨rfl, nofun, rfl, rfl, .nil, nofun⟩
  · obtain ⟨setting, rfl⟩ := eq_of_create created
    exact ⟨fun _ => rfl, ⟨false, .nil, fun _ => rfl⟩, rfl⟩

/-- The latest of the applied generations is the greatest one. -/
theorem Shown.max?_applied (shown : sync.Shown liveness) :
    sync.applied.max? = sync.applied.head? := by
  cases applied : sync.applied with
  | nil => rfl
  | cons latest earlier =>
    have increasing := applied ▸ shown.increasing
    refine List.max?_eq_some_iff.2 ⟨List.mem_cons_self, ?_⟩
    refine List.forall_mem_cons.2 ⟨Nat.le_refl latest, fun generation member => ?_⟩
    exact Nat.le_of_lt ((List.pairwise_cons.1 increasing).1 generation member)

/-- What holds at all times says what can be seen until the end. -/
theorem Mirrored.visible (mirrored : sync.Mirrored liveness tasks)
    (active : sync.disposed = false) : sync.Visible liveness where
  data := mirrored.shown.max?_applied ▸ mirrored.shown.data
  live := mirrored.shown.live
  armed := mirrored.switched.armed active

/-- It says what is on record, too. -/
theorem Mirrored.recorded (mirrored : sync.Mirrored liveness tasks) : sync.Recorded where
  payload := mirrored.shown.payload
  increasing := mirrored.shown.increasing
  alternating := mirrored.switched.alternating.imp fun _ => And.left
  arms := mirrored.switched.arms

/-- A change takes no call back. -/
theorem Change.calls (steady : sync.Steady tasks) (change : Change sync tasks after later) :
    sync.transport.calls ⊆ after.transport.calls := by
  rcases change.effect steady with
    unmoved | ⟨now, active, rfl⟩ | ⟨now, generation, data, -, -, -, rfl⟩
  · exact unmoved.calls
  · rw [dispose_of_active active]
    exact List.Subset.refl _
  · obtain ⟨_, _, _, _, commits, -⟩ := commit_eq sync.deactivate now generation (.ok data)
    rw [commits]
    exact List.Subset.refl _

/-- Calls stay, whatever happens. -/
theorem Reaches.calls (steady : bench.state.Steady bench.tasks) (reaches : Reaches bench last) :
    bench.state.transport.calls ⊆ last.state.transport.calls := by
  have each {sync after : Synchronizer α} {tasks later : List (Task α)}
      (stays : bench.state.transport.calls ⊆ sync.transport.calls) (steady : sync.Steady tasks)
      (change : Change sync tasks after later) :
      bench.state.transport.calls ⊆ after.transport.calls :=
    List.Subset.trans stays (change.calls steady)
  exact reaches.changes.upholds each steady (List.Subset.refl _)

/-- What a generation fetched that was applied stays. -/
theorem Mirrored.payload?_eq (before : sync.Mirrored liveness tasks)
    (steady : after.Steady later) (calls : sync.transport.calls ⊆ after.transport.calls)
    {generation : Nat} (applied : generation ∈ sync.applied) :
    after.payload? generation = sync.payload? generation := by
  obtain ⟨data, fetched⟩ := Option.isSome_iff_exists.1 (before.shown.payload generation applied)
  obtain ⟨call, finds, -⟩ := Option.bind_eq_some_iff.1 fetched
  have isCall := List.mem_of_find?_eq_some finds
  have isGeneration : call.generation = generation := by simpa using List.find?_some finds
  rw [← isGeneration, Synchronizer.payload?_eq steady (calls isCall),
    Synchronizer.payload?_eq before.steady isCall]

/-- As long as nothing is applied, the data, its liveness and the poll timer stay as they are. -/
theorem Mirrored.stays (before : sync.Mirrored liveness tasks)
    (mirrored : after.Mirrored liveness later)
    (calls : sync.transport.calls ⊆ after.transport.calls)
    (active : sync.disposed = false) (goesOn : after.disposed = false)
    (applied : after.applied = sync.applied) :
    after.snapshot.data = sync.snapshot.data ∧ after.snapshot.live = sync.snapshot.live ∧
      after.scheduler.isArmed = sync.scheduler.isArmed := by
  have data : after.snapshot.data = sync.snapshot.data := by
    rw [mirrored.shown.data, before.shown.data, applied]
    cases last : sync.applied.head? with
    | none => rfl
    | some generation =>
      exact before.payload?_eq mirrored.steady calls (List.mem_of_head? last)
  have live : after.snapshot.live = sync.snapshot.live := by
    rw [mirrored.shown.live, before.shown.live, data]
  refine ⟨data, live, ?_⟩
  rw [mirrored.switched.armed goesOn, before.switched.armed active, live]

/-- Wherever a synchronizer is that is not over, its data is what the latest applied generation
fetched, and its poll timer is armed exactly as long as that data is live.  As long as nothing
else is applied they stay as they are.  And what was applied, armed and disarmed is on record. -/
theorem visible_follows_applied
    (created : create view scope liveness query { replies, lastResort } = .ok sync)
    (reachable : Reachable sync bench) :
    (bench.state.disposed = false →
      bench.state.Visible liveness ∧
      ∀ last, Reaches bench last → last.state.disposed = false →
        last.state.applied = bench.state.applied →
        last.state.snapshot.data = bench.state.snapshot.data ∧
          last.state.snapshot.live = bench.state.snapshot.live ∧
          last.state.scheduler.isArmed = bench.state.scheduler.isArmed) ∧
    bench.state.Recorded := by
  have mirrored := reachable.mirrored created
  refine ⟨fun active => ⟨mirrored.visible active, ?_⟩, mirrored.recorded⟩
  intro last reaches goesOn applied
  have reached : Reachable sync last := reachable.trans reaches
  exact mirrored.stays (reached.mirrored created) (reaches.calls mirrored.steady) active goesOn
    applied

/-- Live data is fetched and polled.  The next fetch fails and its error is dismissed, which
changes nothing of that. -/
theorem visible_follows_applied_executions :
    let created := create (View.preset "executions" .execution) {} (Verdict.ofCount 5000) ""
      { replies := [.after 10 (.ok 3), .after 10 (.error (.failed "down"))], lastResort := .never }
    ∃ sync : Synchronizer Nat, created = .ok sync ∧
      let bench := [.advance 10].foldl perform sync.start
      let last := [.refresh, .advance 10, .dismissError].foldl perform bench
      Reachable sync bench ∧ bench.state.disposed = false ∧ bench.state.applied = [1] ∧
        bench.state.snapshot.data = some 3 ∧ bench.state.scheduler.isArmed = true ∧
        bench.state.Visible (Verdict.ofCount 5000) ∧ bench.state.Recorded ∧
        Reaches bench last ∧ last.state.started = [2, 1] ∧ last.state.applied = [1] ∧
        last.state.snapshot.data = some 3 ∧ last.state.scheduler.isArmed = true := by
  intro created
  have isCreated : created = .ok _ := rfl
  refine ⟨_, isCreated, ?_⟩
  intro bench last
  have reachable : Reachable _ bench := Reachable.start.foldl _
  obtain ⟨follows, recorded⟩ := visible_follows_applied isCreated reachable
  obtain ⟨visible, stays⟩ := follows (by decide)
  have reaches : Reaches bench last := Reaches.foldl .refl _
  obtain ⟨data, -, isArmed⟩ := stays last reaches (by decide) (by decide)
  refine ⟨reachable, ?_, ?_, ?_, ?_, visible, recorded, reaches, ?_, ?_, ?_, ?_⟩
  · decide
  · decide
  · decide
  · decide
  · decide
  · decide
  · exact data.trans (by decide)
  · exact isArmed.trans (by decide)

end Synchronizer

end QuerySync
