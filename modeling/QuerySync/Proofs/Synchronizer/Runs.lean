import QuerySync.Synchronizer.Action

/-!
# Runs of a synchronizer

Actions come at any moment, tasks have their turns at any moment, and so does the clock move.  A
run may be one with some actions only (`ReachesBy`), one with any actions (`Reaches`), and one that
begins with a new synchronizer (`Reachable`).  They are the same but for what is allowed and where
they begin, so what holds of the first holds of the others too.
-/

namespace QuerySync.Synchronizer

variable {α : Type} {allowed wider : Action α → Prop} {sync : Synchronizer α}
  {bench later last : Bench α}

/-- What can become of a synchronizer and its tasks if only some actions are done. -/
inductive ReachesBy (allowed : Action α → Prop) (bench : Bench α) : Bench α → Prop where
  /-- Nothing happened yet. -/
  | refl : ReachesBy allowed bench bench
  /-- Somebody acts. -/
  | perform {later : Bench α} (reaches : ReachesBy allowed bench later) (action : Action α)
      (isAllowed : allowed action) : ReachesBy allowed bench (perform later action)
  /-- The first task of the queue has its turn. -/
  | step {later : Bench α} (reaches : ReachesBy allowed bench later) :
      ReachesBy allowed bench (later.step program)
  /-- The clock moves. -/
  | moveTo {later : Bench α} (reaches : ReachesBy allowed bench later) (time : Nat) :
      ReachesBy allowed bench (later.moveTo program time)

/-- What can become of a synchronizer and its tasks from some moment on. -/
abbrev Reaches (bench : Bench α) : Bench α → Prop := ReachesBy (fun _ => True) bench

/-- What can become of a new synchronizer and its tasks.  Actions come at any moment, and the
clock moves at any moment. -/
abbrev Reachable (sync : Synchronizer α) : Bench α → Prop := Reaches sync.start

namespace ReachesBy

/-- With more actions, as much is reached. -/
theorem mono (wide : ∀ action, allowed action → wider action)
    (reaches : ReachesBy allowed bench later) : ReachesBy wider bench later := by
  induction reaches with
  | refl => exact .refl
  | perform _ action isAllowed reaches => exact reaches.perform action (wide action isAllowed)
  | step _ reaches => exact reaches.step
  | moveTo _ time reaches => exact reaches.moveTo time

/-- What is reached from somewhere that is reached is reached. -/
theorem trans (first : ReachesBy allowed bench later) (second : ReachesBy allowed later last) :
    ReachesBy allowed bench last := by
  induction second with
  | refl => exact first
  | perform _ action isAllowed reaches => exact reaches.perform action isAllowed
  | step _ reaches => exact reaches.step
  | moveTo _ time reaches => exact reaches.moveTo time

/-- A list of actions is a run, if all of them are allowed. -/
theorem foldl (reaches : ReachesBy allowed bench later) {actions : List (Action α)}
    (areAllowed : ∀ action ∈ actions, allowed action) :
    ReachesBy allowed bench (actions.foldl Synchronizer.perform later) := by
  induction actions generalizing later with
  | nil => exact reaches
  | cons action actions induction =>
    obtain ⟨first, others⟩ := List.forall_mem_cons.1 areAllowed
    exact induction (reaches.perform action first) others

/-- Every run is one with any actions. -/
theorem reaches (reaches : ReachesBy allowed bench later) : Reaches bench later :=
  reaches.mono fun _ _ => trivial

end ReachesBy

theorem Reaches.perform (reaches : Reaches bench later) (action : Action α) :
    Reaches bench (perform later action) :=
  ReachesBy.perform reaches action trivial

theorem Reaches.foldl (reaches : Reaches bench later) (actions : List (Action α)) :
    Reaches bench (actions.foldl Synchronizer.perform later) :=
  ReachesBy.foldl reaches fun _ _ => trivial

theorem Reachable.start : Reachable sync sync.start := ReachesBy.refl

end QuerySync.Synchronizer
