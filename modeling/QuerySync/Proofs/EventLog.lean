import QuerySync.Event

/-!
# What a log keeps

A log keeps the newest of the events that were recorded, as many as its capacity says
(`SharedLog.holders_see_newest`).  A capacity of zero counts as one: a log makes room first and then
adds the event, so it has its newest event in any case (`SharedLog.capacity_exceeded`).

A log may have several holders, such as a synchronizer that records and somebody who looks on.  They
have the events in common, so each of them sees what any of them recorded.
-/

namespace QuerySync

/-! ## One log -/

/-- Some events are the newest ones of those that were recorded, as many as a log has room for. -/
structure Newest (capacity : Nat) (recorded events : List Event) : Prop where
  /-- No event is missing between two others, and none after the last. -/
  suffix : events <:+ recorded
  /-- No event was dropped while there was room. -/
  length : events.length = min recorded.length (max capacity 1)

/-- A log that has the newest events has them after one event more. -/
theorem EventLog.newest_record {log : EventLog} {recorded : List Event}
    (newest : Newest log.capacity recorded log.events) (event : Event) :
    Newest log.capacity (recorded ++ [event]) (log.record event).events := by
  have kept := newest.length
  rw [record]
  split
  next room =>
    refine ⟨List.suffix_append_self_iff.2 newest.suffix, ?_⟩
    simp only [List.length_append, List.length_singleton]
    omega
  next full =>
    have shorter : log.events.drop 1 <:+ recorded :=
      (List.drop_suffix 1 log.events).trans newest.suffix
    refine ⟨List.suffix_append_self_iff.2 shorter, ?_⟩
    simp only [List.length_append, List.length_singleton, List.length_drop]
    omega

/-! ## Several holders -/

/-- A log with several holders. -/
structure SharedLog where
  /-- The capacity of the log, once for each holder. -/
  capacities : List Nat
  /-- The events that the holders have in common, oldest first. -/
  events : List Event := []
deriving DecidableEq, Repr

namespace SharedLog

/-- The log as one of its holders has it. -/
def held? (shared : SharedLog) (holder : Nat) : Option EventLog :=
  shared.capacities[holder]?.map fun capacity => { capacity, events := shared.events }

/-- What becomes of a new log of some capacity, and the events that were recorded in it by then. -/
inductive Reached (capacity : Nat) : SharedLog → List Event → Prop where
  /-- A new log has one holder, and no events. -/
  | new : Reached capacity { capacities := [capacity] } []
  /-- A holder makes another one. -/
  | clone {shared : SharedLog} {recorded : List Event} {holder : Nat} {log : EventLog}
      (reached : Reached capacity shared recorded) (held : shared.held? holder = some log) :
      Reached capacity { shared with capacities := shared.capacities ++ [log.capacity] } recorded
  /-- A holder lets go of the log. -/
  | drop {shared : SharedLog} {recorded : List Event} (holder : Nat)
      (reached : Reached capacity shared recorded) :
      Reached capacity { shared with capacities := shared.capacities.eraseIdx holder } recorded
  /-- A holder records an event. -/
  | record {shared : SharedLog} {recorded : List Event} {holder : Nat} {log : EventLog}
      (reached : Reached capacity shared recorded) (held : shared.held? holder = some log)
      (event : Event) :
      Reached capacity { shared with events := (log.record event).events } (recorded ++ [event])

variable {capacity holder : Nat} {shared : SharedLog} {recorded : List Event} {log : EventLog}

theorem of_held? (held : shared.held? holder = some log) :
    log.capacity ∈ shared.capacities ∧ log.events = shared.events := by
  obtain ⟨own, isHolder, rfl⟩ := Option.map_eq_some_iff.1 held
  exact ⟨List.mem_of_getElem? isHolder, rfl⟩

/-- Every holder has the capacity that the log was made for. -/
theorem Reached.capacity_eq (reached : Reached capacity shared recorded) :
    ∀ own ∈ shared.capacities, own = capacity := by
  induction reached with
  | new => exact fun own member => List.mem_singleton.1 member
  | clone reached held induction =>
    intro own member
    rcases List.mem_append.1 member with earlier | isNew
    · exact induction own earlier
    · exact List.mem_singleton.1 isNew ▸ induction _ (of_held? held).1
  | drop holder reached induction =>
    exact fun own member => induction own (List.mem_of_mem_eraseIdx member)
  | record reached held event induction => exact induction

/-- The holders have the newest events in common. -/
theorem Reached.newest (reached : Reached capacity shared recorded) :
    Newest capacity recorded shared.events := by
  induction reached with
  | new => exact ⟨List.suffix_refl _, rfl⟩
  | clone reached held induction => exact induction
  | drop holder reached induction => exact induction
  | record reached held event induction =>
    obtain ⟨isHolder, same⟩ := of_held? held
    have capacity_eq := reached.capacity_eq _ isHolder
    rw [← same, ← capacity_eq] at induction
    exact capacity_eq ▸ EventLog.newest_record induction event

/-- Whoever recorded them, and whoever looks: a log has the newest events, oldest first, as many as
its capacity says and at least one.  Kinds and counts are those of these events. -/
theorem holders_see_newest (reached : Reached capacity shared recorded)
    (held : shared.held? holder = some log) :
    ∃ older newest, recorded = older ++ newest ∧
      newest.length = min recorded.length (max capacity 1) ∧
      log.events = newest ∧ log.kinds = newest.map Event.kind ∧
      ∀ kind, log.count kind = (newest.filter fun event => event.kind = kind).length := by
  obtain ⟨⟨older, split⟩, length⟩ := reached.newest
  obtain ⟨-, same⟩ := of_held? held
  refine ⟨older, shared.events, split.symm, length, same, ?_, fun kind => ?_⟩
  · rw [EventLog.kinds, same]
  · rw [EventLog.count, same, List.countP_eq_length_filter]

/-- A log for two events, in which a second holder records after the first one. -/
theorem holders_see_newest_of_two :
    let started : Event := { view := "runs", kind := .fetchStarted, generation := some 1 }
    let applied : Event := { view := "runs", kind := .fetchApplied, generation := some 1 }
    let armed : Event := { view := "runs", kind := .pollArmed }
    let shared : SharedLog := { capacities := [2, 2], events := [applied, armed] }
    let log : EventLog := { capacity := 2, events := [applied, armed] }
    Reached 2 shared [started, applied, armed] ∧ shared.held? 0 = some log ∧
      ∃ older newest, [started, applied, armed] = older ++ newest ∧ newest.length = 2 ∧
        [applied, armed] = newest ∧ log.kinds = newest.map Event.kind ∧
        ∀ kind, log.count kind = (newest.filter fun event => event.kind = kind).length := by
  intro started applied armed shared log
  have first : Reached 2 { capacities := [2], events := [started] } [started] :=
    .record .new (show held? _ 0 = some { capacity := 2 } from rfl) started
  have second : Reached 2 { capacities := [2, 2], events := [started] } [started] :=
    .clone first (show held? _ 0 = some { capacity := 2, events := [started] } from rfl)
  have third : Reached 2 { capacities := [2, 2], events := [started, applied] }
      [started, applied] :=
    .record second (show held? _ 1 = some { capacity := 2, events := [started] } from rfl) applied
  have reached : Reached 2 shared [started, applied, armed] :=
    .record third (show held? _ 1 = some { capacity := 2, events := [started, applied] } from rfl)
      armed
  have held : shared.held? 0 = some log := rfl
  exact ⟨reached, held, holders_see_newest reached held⟩

/-- A log for no event has one. -/
theorem capacity_exceeded :
    let disposed : Event := { view := "runs", kind := .disposed }
    ∃ shared log, Reached 0 shared [disposed] ∧ shared.held? 0 = some log ∧
      log.events = [disposed] ∧ log.events.length ≠ min [disposed].length log.capacity ∧
      ¬ log.events.length ≤ log.capacity := by
  intro disposed
  have reached : Reached 0 { capacities := [0], events := [disposed] } [disposed] :=
    .record .new (show held? _ 0 = some { capacity := 0 } from rfl) disposed
  refine ⟨_, { capacity := 0, events := [disposed] }, reached, rfl, rfl, ?_, ?_⟩
  · decide
  · decide

end SharedLog

end QuerySync
