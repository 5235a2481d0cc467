import QuerySync.Proofs.Synchronizer.Steady

/-!
# What is on record

The log of a synchronizer is its events without their times, newest first, as if there were room
for all of them.  Most changes put nothing on record.  The others put an event there for the fetch
that starts or ends, or for the synchronizer itself, and committing data may arm or disarm the
poll timer after that (`commit_log`).  A loop that went on before that is over after it exactly
if it was put on record that the timer was stopped (`reschedule_log`).
-/

namespace QuerySync

namespace EventKind

/-- Whether a fetch ends with an event. -/
def ends : EventKind → Bool
  | fetchApplied | fetchFailed | fetchDiscarded => true
  | fetchStarted | pollArmed | pollDisarmed | pollTick | disposed => false

/-- Whether the poll timer is not armed after an event. -/
def stops : EventKind → Bool
  | pollDisarmed | disposed => true
  | fetchStarted | fetchApplied | fetchFailed | fetchDiscarded | pollArmed | pollTick => false

end EventKind

namespace Event

/-- Whether the fetch of a generation starts with an event. -/
def starts (event : Event) (generation : Nat) : Bool :=
  event.kind == .fetchStarted && event.generation == some generation

/-- Whether the fetch of a generation ends with an event. -/
def ends (event : Event) (generation : Nat) : Bool :=
  event.kind.ends && event.generation == some generation

theorem starts_iff {event : Event} {generation : Nat} :
    event.starts generation = true ↔
      event.kind = .fetchStarted ∧ event.generation = some generation := by
  simp [starts]

theorem ends_iff {event : Event} {generation : Nat} :
    event.ends generation = true ↔
      event.kind.ends = true ∧ event.generation = some generation := by
  simp [ends]

/-- The end of a fetch is of a kind that ends fetches. -/
theorem kind_ne_of_ends {event : Event} {generation : Nat} {kind : EventKind}
    (ends : event.ends generation = true) (other : kind.ends = false) : event.kind ≠ kind := by
  rintro rfl
  exact Bool.eq_false_iff.1 other (ends_iff.1 ends).1

end Event

/-- The generations of the events of a kind, newest first. -/
def generations (kind : EventKind) (log : List Event) : List Nat :=
  log.filterMap fun event => if event.kind = kind then event.generation else none

section
variable {kind : EventKind} {log added : List Event} {event : Event} {generation : Nat}

/-- A generation is among those of a kind if an event of that kind is about it. -/
theorem mem_generations :
    generation ∈ generations kind log ↔
      ∃ event ∈ log, event.kind = kind ∧ event.generation = some generation := by
  simp [generations, List.mem_filterMap]

theorem generations_append :
    generations kind (added ++ log) = generations kind added ++ generations kind log :=
  List.filterMap_append

theorem generations_cons_of_ne (different : event.kind ≠ kind) :
    generations kind (event :: log) = generations kind log := by
  simp [generations, different]

end

namespace Synchronizer

variable {α : Type} {sync after : Synchronizer α} {now : Nat} {tasks later : List (Task α)}

/-- What is on record, newest first. -/
def log (sync : Synchronizer α) : List Event := sync.events.map (·.2)

/-- The generations that were applied, newest first. -/
def applied (sync : Synchronizer α) : List Nat := generations .fetchApplied sync.log

/-- The generations that were started, newest first. -/
def started (sync : Synchronizer α) : List Nat := generations .fetchStarted sync.log

@[simp] theorem log_emit (sync : Synchronizer α) (now : Nat) (kind : EventKind)
    (generation : Option Nat) (detail : Option String) :
    (sync.emit now kind generation detail).log =
      { view := sync.view.name, kind, generation, detail } :: sync.log := rfl

/-! ## What is put on record -/

/-- A cycle that begins puts the start of its fetch on record, with its cause. -/
theorem log_begin {generation : Nat} {controller : Controller}
    (issued : sync.controller.issue = .ok (generation, controller)) (now : Nat) (cause : Cause) :
    (sync.begin now cause).2.log =
      { view := sync.view.name, kind := .fetchStarted, generation, detail := cause.name } ::
        sync.log := by
  simp only [begin, issued, Transport.call]
  rfl

/-- Rescheduling leaves a timer that is as it should be, and else arms it or disarms it, and says
so. -/
theorem reschedule_cases (set : sync.scheduler.setting.isSome = true) (now : Nat) (live : Bool) :
    (sync.scheduler.isArmed = live ∧ sync.reschedule now live = (sync, [])) ∨
    (sync.scheduler.isArmed = false ∧ live = true ∧ ∃ timers, sync.reschedule now live =
      ({ sync with
        scheduler := { sync.scheduler with
          armed := some (sync.scheduler.arms + 1)
          arms := sync.scheduler.arms + 1 } }.emit now .pollArmed none none, timers)) ∨
    (sync.scheduler.isArmed = true ∧ live = false ∧ sync.reschedule now live =
      ({ sync with scheduler := sync.scheduler.stop }.emit now .pollDisarmed none none, [])) := by
  by_cases same : sync.scheduler.isArmed = live
  · refine .inl ⟨same, ?_⟩
    unfold reschedule
    rw [Scheduler.reschedule_of_isArmed_eq same]
    dsimp only
    split
    next armed unarmed => exact nomatch armed.symm.trans unarmed
    next armed unarmed => exact nomatch armed.symm.trans unarmed
    next => rfl
  refine .inr ?_
  obtain ⟨setting, set⟩ := Option.isSome_iff_exists.1 set
  cases live with
  | true =>
    have unarmed : sync.scheduler.isArmed = false := Bool.eq_false_iff.2 same
    refine .inl ⟨unarmed, rfl, [{ setting with arming := sync.scheduler.arms + 1 }], ?_⟩
    unfold reschedule
    rw [Scheduler.reschedule_of_unarmed unarmed set, unarmed]
    rfl
  | false =>
    have armed : sync.scheduler.isArmed = true := by simpa using same
    refine .inr ⟨armed, rfl, ?_⟩
    unfold reschedule
    rw [armed]
    rfl

/-- Rescheduling puts on record if the timer was switched, and a loop that went on is over exactly
if the timer was stopped. -/
theorem reschedule_log (set : sync.scheduler.setting.isSome = true) (now : Nat) (live : Bool) :
    ∃ switches, (sync.reschedule now live).1.log = switches ++ sync.log ∧
      (∀ event ∈ switches, event.generation = none ∧
        (event.kind = .pollArmed ∨ event.kind = .pollDisarmed)) ∧
      ∀ arming ≤ sync.scheduler.arms,
        (sync.reschedule now live).1.scheduler.isOver arming =
          (sync.scheduler.isOver arming || switches.any (·.kind.stops)) := by
  rcases reschedule_cases set now live with
    ⟨-, keeps⟩ | ⟨unarmed, -, timers, arms⟩ | ⟨-, -, disarms⟩
  · rw [keeps]
    exact ⟨[], rfl, nofun, fun _ _ => (Bool.or_false _).symm⟩
  · rw [arms]
    refine ⟨[_], rfl, List.forall_mem_singleton.2 ⟨rfl, .inl rfl⟩, fun arming known => ?_⟩
    -- nobody was armed, so every loop was over, and the new number is nobody's
    have wasOver : sync.scheduler.isOver arming = true := by
      rw [Scheduler.isOver, Option.isNone_iff_eq_none.1 (Option.isSome_eq_false_iff.1 unarmed)]
      rfl
    rw [wasOver, Bool.true_or]
    refine bne_iff_ne.2 fun same => ?_
    have : sync.scheduler.arms + 1 = arming := Option.some.inj same
    omega
  · rw [disarms]
    exact ⟨[_], rfl, List.forall_mem_singleton.2 ⟨rfl, .inr rfl⟩,
      fun _ _ => (Bool.or_true _).symm⟩

/-- Committing puts on record that the fetch ended, and after that whether the timer was
switched. -/
theorem commit_log (sync : Synchronizer α) (set : sync.scheduler.setting.isSome = true)
    (now generation : Nat) (outcome : Outcome α) :
    ∃ switches event,
      (sync.commit now generation outcome).1.log = switches ++ event :: sync.log ∧
      event.ends generation = true ∧
      (∀ other ∈ switches, other.generation = none ∧
        (other.kind = .pollArmed ∨ other.kind = .pollDisarmed)) ∧
      ∀ arming ≤ sync.scheduler.arms,
        (sync.commit now generation outcome).1.scheduler.isOver arming =
          (sync.scheduler.isOver arming || switches.any (·.kind.stops)) := by
  cases outcome with
  | error error =>
    cases error with
    | failed | cancelled =>
      exact ⟨[], _, rfl, Event.ends_iff.2 ⟨rfl, rfl⟩, nofun, fun _ _ => (Bool.or_false _).symm⟩
  | ok data =>
    have stillSet : ({ sync with
        snapshot := sync.snapshot.succeed data (sync.liveness data).live }.emit now .fetchApplied
          generation none).scheduler.setting.isSome = true := set
    obtain ⟨switches, log, others, isOver⟩ :=
      reschedule_log stillSet now (sync.liveness data).live
    exact ⟨switches, _, log, Event.ends_iff.2 ⟨rfl, rfl⟩, others, isOver⟩

end Synchronizer

end QuerySync
