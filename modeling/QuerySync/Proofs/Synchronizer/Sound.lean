import Mathlib.Data.List.Nodup
import QuerySync.Proofs.Synchronizer.Steps

/-!
# What holds of a synchronizer at all times

Three things hold of a synchronizer and its tasks as long as it is not over.  What the view
shows fits the calls that were made (`Consistent`).  Every fetch on its way belongs to a call,
and the active generation has a task that can resolve it (`Tracked`).  And what the view shows
is what the location says, unless somebody is about to look (`Watched`).  No turn of a task and
no action from outside breaks any of them (`Sound`).
-/

namespace QuerySync

variable {α : Type}

/-- The fetch of a cycle. -/
def Cycle.pending? : Cycle α → Option (Pending α)
  | .fetching pending => some pending
  | .unstarted _ | .finished _ => none

namespace Synchronizer

/-- The cycle of a task. -/
def Task.cycle? : Task α → Option (Cycle α)
  | .cycle _ work => some work
  | .timer loop =>
    match loop.stage with
    | .working _ work => some work
    | .unstarted | .waiting _ | .ended => none
  | .watcher _ | .ended => none

/-- The fetch of a task. -/
def Task.pending? (task : Task α) : Option (Pending α) := task.cycle?.bind Cycle.pending?

/-- The fetches of tasks. -/
def pendings (tasks : List (Task α)) : List (Pending α) := tasks.filterMap Task.pending?

/-- Whether a task drops its cycle when it runs again. -/
def isOver (sync : Synchronizer α) : Task α → Bool
  | .timer timer => sync.scheduler.isOver timer.arming
  | .watcher _ | .cycle _ _ | .ended => false

/-- Whether a task is about to look at the location, which was changed a number of times. -/
def Task.looks (version : Nat) : Task α → Bool
  | .watcher seen => seen != version
  | .cycle _ (.unstarted _) => true
  | .cycle _ _ | .timer _ | .ended => false

/-! ## Invariants -/

/-- What a view shows fits the calls that were made. -/
structure Consistent (sync : Synchronizer α) : Prop where
  /-- The controller is not over. -/
  running : sync.controller.disposed = false
  /-- The controller keeps its law. -/
  coherent : sync.controller.Coherent
  /-- There is one call for each generation. -/
  calls : sync.transport.calls.map (·.generation) =
    (List.range' 1 sync.controller.issued).reverse
  /-- The view is loading as long as a generation is active. -/
  loading : sync.snapshot.phase = .loading ↔ sync.controller.active.isSome = true
  /-- The view shows the query of the latest call. -/
  query : ∀ call ∈ sync.transport.calls.head?, call.query = sync.snapshot.query
  /-- Data that is ready is what the latest call gave, unless its transport aborted it. -/
  ready : sync.snapshot.phase = .ready →
    ∃ call ∈ sync.transport.calls.head?, Shows sync.snapshot.data call.reply

/-- Fetches on their way, and who may resolve them. -/
structure Tracked (sync : Synchronizer α) (tasks : List (Task α)) : Prop where
  /-- No generation has two fetches. -/
  distinct : ((pendings tasks).map (·.generation)).Nodup
  /-- Each fetch was called. -/
  called : ∀ pending ∈ pendings tasks, ∃ call ∈ sync.transport.calls,
    call.generation = pending.generation ∧ pending.flight = call.reply.flight call.time
  /-- Each fetch is the active one, or was cancelled. -/
  held : ∀ pending ∈ pendings tasks, sync.controller.active = some pending.generation ∨
    pending.generation ∈ sync.controller.cancelled
  /-- A task that goes on has the active fetch. -/
  holder : ∀ generation, sync.controller.active = some generation →
    ∃ task ∈ tasks, task.pending?.map (·.generation) = some generation ∧ sync.isOver task = false

/-- What a view shows, and what the location says. -/
structure Watched (sync : Synchronizer α) (tasks : List (Task α)) : Prop where
  /-- Somebody watches the location. -/
  watcher : ∃ seen, .watcher seen ∈ tasks ∧ seen ≤ sync.store.version
  /-- The view shows what the location says, or somebody is about to look. -/
  fresh : sync.snapshot.query = sync.view.decode sync.store.params ∨
    ∃ task ∈ tasks, task.looks sync.store.version = true

/-- What holds of the synchronizer of a view and of its tasks, as long as it is not over. -/
structure Sound (view : View) (sync : Synchronizer α) (tasks : List (Task α)) : Prop where
  /-- It is the synchronizer of the view. -/
  view : sync.view = view
  /-- The view fits the calls. -/
  consistent : sync.Consistent
  /-- Fetches are tracked. -/
  tracked : sync.Tracked tasks
  /-- The location is watched. -/
  watched : sync.Watched tasks

variable {view : View} {sync : Synchronizer α} {tasks older newer spawned : List (Task α)}
  {task next : Task α}

/-! ## Fetches of a list of tasks -/

/-- New tasks have no fetch. -/
theorem pendings_append (idle : ∀ task ∈ spawned, task.pending? = none) :
    pendings (tasks ++ spawned) = pendings tasks := by
  have none : pendings spawned = [] := List.filterMap_eq_nil_iff.2 idle
  unfold pendings at none ⊢
  rw [List.filterMap_append, none, List.append_nil]

theorem pendings_replace (idle : ∀ task ∈ spawned, task.pending? = none) :
    pendings (older ++ next :: newer ++ spawned) =
      pendings older ++ (next.pending?.toList ++ pendings newer) := by
  rw [pendings_append idle]
  unfold pendings
  rw [List.filterMap_append]
  cases has : next.pending? with
  | none => rw [List.filterMap_cons_none has, Option.toList_none, List.nil_append]
  | some pending => rw [List.filterMap_cons_some has, Option.toList_some, List.singleton_append]

theorem pendings_split :
    pendings (older ++ task :: newer) =
      pendings older ++ (task.pending?.toList ++ pendings newer) := by
  rw [← List.append_nil (older ++ task :: newer)]
  exact pendings_replace nofun

/-- A task that has done its fetch takes it out of the list. -/
theorem pendings_drop (done : next.pending? = none)
    (idle : ∀ task ∈ spawned, task.pending? = none) :
    pendings (older ++ next :: newer ++ spawned) = pendings older ++ pendings newer := by
  rw [pendings_replace idle, done, Option.toList_none, List.nil_append]

theorem pendings_sublist :
    (pendings older ++ pendings newer).Sublist (pendings (older ++ task :: newer)) := by
  rw [pendings_split]
  exact (List.Sublist.refl _).append (List.sublist_append_right _ _)

/-- The fetches of a list are apart if one of them is apart from the others, and these are. -/
theorem nodup_split {pending : Pending α} (has : task.pending? = some pending) :
    ((pendings (older ++ task :: newer)).map (·.generation)).Nodup ↔
      pending.generation ∉ (pendings older ++ pendings newer).map (·.generation) ∧
        ((pendings older ++ pendings newer).map (·.generation)).Nodup := by
  rw [pendings_split, has, Option.toList_some, List.singleton_append, List.map_append,
    List.map_cons, List.nodup_middle, ← List.map_append, List.nodup_cons]

theorem mem_replace {other : Task α} (member : other ∈ older ++ task :: newer)
    (different : other ≠ task) : other ∈ older ++ next :: newer ++ spawned := by
  refine List.mem_append_left _ ?_
  rcases List.mem_append.1 member with isOlder | member
  · exact List.mem_append_left _ isOlder
  rcases List.mem_cons.1 member with same | isNewer
  · exact absurd same different
  · exact List.mem_append_right _ (List.mem_cons_of_mem _ isNewer)

/-! ## Turns of one task -/

namespace Tracked

/-- A task lets go of a fetch that is not the active one, or that it would drop anyway. -/
theorem drop (tracked : sync.Tracked (older ++ task :: newer))
    (gone : ∀ {generation}, sync.controller.active = some generation →
      task.pending?.map (·.generation) = some generation → sync.isOver task = true)
    (done : next.pending? = none) (idle : ∀ task ∈ spawned, task.pending? = none) :
    sync.Tracked (older ++ next :: newer ++ spawned) := by
  obtain ⟨distinct, called, held, holder⟩ := tracked
  refine ⟨?_, ?_, ?_, ?_⟩
  · rw [pendings_drop done idle]
    exact distinct.sublist (pendings_sublist.map _)
  · rw [pendings_drop done idle]
    exact fun pending member => called pending (pendings_sublist.subset member)
  · rw [pendings_drop done idle]
    exact fun pending member => held pending (pendings_sublist.subset member)
  · intro generation active
    obtain ⟨other, member, has, goesOn⟩ := holder generation active
    refine ⟨other, mem_replace member ?_, has, goesOn⟩
    rintro rfl
    exact Bool.eq_false_iff.1 goesOn (gone active has)

/-- The active fetch is resolved. -/
theorem commit (tracked : sync.Tracked (older ++ task :: newer)) {pending : Pending α}
    (has : task.pending? = some pending)
    (active : sync.controller.active = some pending.generation)
    (done : next.pending? = none) (idle : ∀ task ∈ spawned, task.pending? = none)
    {after : Synchronizer α} (calls : after.transport.calls = sync.transport.calls)
    (resolved : after.controller = { sync.controller with active := none }) :
    after.Tracked (older ++ next :: newer ++ spawned) := by
  obtain ⟨distinct, called, held, -⟩ := tracked
  refine ⟨?_, ?_, ?_, ?_⟩
  · rw [pendings_drop done idle]
    exact distinct.sublist (pendings_sublist.map _)
  · rw [pendings_drop done idle, calls]
    exact fun pending member => called pending (pendings_sublist.subset member)
  · rw [pendings_drop done idle, resolved]
    intro other member
    rcases held other (pendings_sublist.subset member) with isActive | cancelled
    · refine absurd (List.mem_map_of_mem member) (?_ : other.generation ∉ _)
      rw [Option.some.inj (isActive.symm.trans active)]
      exact ((nodup_split has).1 distinct).1
    · exact .inr cancelled
  · rw [resolved]
    exact nofun

/-- The fetches on their way have generations that were issued. -/
theorem generation_le (tracked : sync.Tracked tasks) (coherent : sync.controller.Coherent)
    {pending : Pending α} (member : pending ∈ pendings tasks) :
    pending.generation ≤ sync.controller.issued := by
  rcases tracked.held pending member with isActive | cancelled
  · exact Nat.le_of_eq (coherent.latest isActive)
  · exact coherent.cancelled _ cancelled

/-- A cycle begins, and its fetch is the active one from then on. -/
theorem begin (tracked : sync.Tracked (older ++ task :: newer))
    (coherent : sync.controller.Coherent) (unstarted : task.pending? = none)
    {pending : Pending α} (has : next.pending? = some pending) {after : Synchronizer α}
    (issued : sync.controller.issue = .ok (pending.generation, after.controller)) {call : Call α}
    (generation : call.generation = pending.generation)
    (flight : pending.flight = call.reply.flight call.time)
    (calls : after.transport.calls = call :: sync.transport.calls)
    (goesOn : after.isOver next = false) : after.Tracked (older ++ next :: newer) := by
  obtain ⟨-, latest, controller⟩ := Controller.issue_eq_ok_iff.1 issued
  have before : pendings (older ++ task :: newer) = pendings older ++ pendings newer := by
    rw [pendings_split, unstarted, Option.toList_none, List.nil_append]
  have behind {other : Pending α} (member : other ∈ pendings older ++ pendings newer) :
      other.generation ≤ sync.controller.issued :=
    tracked.generation_le coherent (before ▸ member)
  have split {other : Pending α} (member : other ∈ pendings (older ++ next :: newer)) :
      other = pending ∨ other ∈ pendings older ++ pendings newer := by
    rw [pendings_split, has, Option.toList_some, List.singleton_append] at member
    simpa [or_left_comm] using member
  refine ⟨?_, ?_, ?_, ?_⟩
  · refine (nodup_split has).2 ⟨fun member => ?_, before ▸ tracked.distinct⟩
    obtain ⟨other, member, same⟩ := List.mem_map.1 member
    have := behind member
    omega
  · intro other member
    rw [calls]
    rcases split member with rfl | member
    · exact ⟨call, List.mem_cons_self, generation, flight⟩
    · obtain ⟨known, isKnown, fits⟩ := tracked.called other (before ▸ member)
      exact ⟨known, List.mem_cons_of_mem _ isKnown, fits⟩
  · intro other member
    rw [controller]
    rcases split member with rfl | member
    · exact .inl rfl
    · refine .inr (List.mem_append.2 ?_)
      rcases tracked.held other (before ▸ member) with isActive | cancelled
      · exact .inl (Option.mem_toList.2 isActive)
      · exact .inr cancelled
  · intro latest isActive
    rw [controller] at isActive
    refine ⟨next, by simp, ?_, goesOn⟩
    rw [has]
    exact isActive

end Tracked

namespace Consistent

/-- The latest call is for the latest generation, and the others are for older ones. -/
theorem generations (consistent : sync.Consistent) {call : Call α} {before : List (Call α)}
    (calls : sync.transport.calls = call :: before) :
    call.generation = sync.controller.issued ∧
      ∀ other ∈ before, other.generation < sync.controller.issued := by
  have numbered := consistent.calls
  rw [calls, List.map_cons] at numbered
  cases count : sync.controller.issued with
  | zero =>
    rw [count] at numbered
    exact nomatch numbered
  | succ issued =>
    rw [count, List.range'_1_concat, List.reverse_append, List.reverse_singleton,
      List.singleton_append, Nat.add_comm 1] at numbered
    obtain ⟨latest, earlier⟩ := List.cons.inj numbered
    refine ⟨latest, fun other member => ?_⟩
    have isEarlier : other.generation ∈ before.map (·.generation) := List.mem_map_of_mem member
    rw [earlier, List.mem_reverse, List.mem_range'_1] at isEarlier
    omega

/-- The call for the latest generation is the latest call. -/
theorem head?_calls (consistent : sync.Consistent) {call : Call α}
    (member : call ∈ sync.transport.calls) (latest : call.generation = sync.controller.issued) :
    call ∈ sync.transport.calls.head? := by
  cases calls : sync.transport.calls with
  | nil => exact nomatch calls ▸ member
  | cons first before =>
    rcases List.mem_cons.1 (calls ▸ member) with rfl | earlier
    · rfl
    · exact absurd latest (Nat.ne_of_lt ((consistent.generations calls).2 call earlier))

/-- A cycle begins. -/
theorem begin (consistent : sync.Consistent) {after : Synchronizer α} {generation : Nat}
    (issued : sync.controller.issue = .ok (generation, after.controller)) {call : Call α}
    (called : call.generation = generation)
    (calls : after.transport.calls = call :: sync.transport.calls)
    (loads : after.snapshot = sync.snapshot.load call.query) : after.Consistent := by
  obtain ⟨running, rfl, controller⟩ := Controller.issue_eq_ok_iff.1 issued
  refine ⟨?_, consistent.coherent.issue issued, ?_, ?_, ?_, ?_⟩
  · rw [controller]
    exact running
  · rw [calls, controller, List.map_cons, called, consistent.calls, List.range'_1_concat,
      List.reverse_append, Nat.add_comm 1]
    rfl
  · rw [loads, controller]
    exact ⟨fun _ => rfl, fun _ => rfl⟩
  · rw [loads, calls]
    rintro _ ⟨⟩
    rfl
  · rw [loads]
    exact nofun

/-- The active fetch is resolved. -/
theorem commit (consistent : sync.Consistent) {after : Synchronizer α}
    (calls : after.transport.calls = sync.transport.calls)
    (resolved : after.controller = { sync.controller with active := none })
    (query : after.snapshot.query = sync.snapshot.query) (rests : after.snapshot.phase ≠ .loading)
    {call : Call α} (latest : call ∈ sync.transport.calls.head?)
    (shows : after.snapshot.phase = .ready → Shows after.snapshot.data call.reply) :
    after.Consistent where
  running := by
    rw [resolved]
    exact consistent.running
  coherent := by
    rw [resolved]
    exact consistent.coherent.deactivate
  calls := by
    rw [calls, resolved]
    exact consistent.calls
  loading := by
    rw [resolved]
    exact ⟨fun loads => absurd loads rests, nofun⟩
  query := by
    rw [calls, query]
    exact consistent.query
  ready := by
    rw [calls]
    exact fun isReady => ⟨call, latest, shows isReady⟩

end Consistent

namespace Watched

/-- A task that does not watch the location, and is not about to look at it, has its turn. -/
theorem replace (watched : sync.Watched (older ++ task :: newer)) {after : Synchronizer α}
    (noWatcher : ∀ seen, task ≠ .watcher seen) (store : after.store = sync.store)
    (fresh : after.snapshot.query = sync.view.decode sync.store.params ∨
      after.snapshot.query = sync.snapshot.query ∧ task.looks sync.store.version = false)
    (view : after.view = sync.view) : after.Watched (older ++ next :: newer ++ spawned) := by
  obtain ⟨⟨seen, watches, old⟩, before⟩ := watched
  refine ⟨⟨seen, mem_replace watches (noWatcher seen).symm, store ▸ old⟩, ?_⟩
  rw [view, store]
  rcases fresh with shown | ⟨same, blind⟩
  · exact .inl shown
  · rcases before with shown | ⟨other, member, looks⟩
    · exact .inl (same.trans shown)
    · refine .inr ⟨other, mem_replace member ?_, looks⟩
      rintro rfl
      exact absurd looks (by simp [blind])

end Watched

end Synchronizer

end QuerySync
