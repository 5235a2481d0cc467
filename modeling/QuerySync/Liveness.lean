import QuerySync.Page
import QuerySync.Status
import QuerySync.View

/-!
# Liveness

Data is live while it may change on its own, and live data is worth polling.  A
status is in progress if it is one of a set, and data is live if something in it
has such a status.  Absent data is never live.

A check (`Liveness`) gives a verdict on data of one kind: whether it is live, how
many of its items are in progress, and when to look again.
-/

namespace QuerySync

/-! ## Verdicts -/

/-- What a check says of data. -/
structure Verdict where
  /-- Whether the data may still change on its own. -/
  live : Bool
  /-- The number of items in progress. -/
  inProgress : Nat
  /-- The time until the next look, in nanoseconds. -/
  nextCheck : Option Nat
deriving DecidableEq, Repr

/-- The verdict on data that does not change on its own. -/
def Verdict.settled : Verdict := { live := false, inProgress := 0, nextCheck := none }

/-- The verdict on data with a number of items in progress. -/
def Verdict.ofCount (interval : Nat) (inProgress : Nat) : Verdict :=
  if inProgress = 0 then settled else { live := true, inProgress, nextCheck := some interval }

/-! ## Sets of statuses -/

/-- The statuses in progress, in the form in which statuses are compared, and the
time between two looks. -/
structure LiveStatuses where
  /-- The statuses, none of them empty. -/
  statuses : List String
  /-- The time between two looks, in nanoseconds. -/
  interval : Nat
deriving DecidableEq, Repr

namespace LiveStatuses

/-- The set of a list of statuses.  Blank ones are not statuses. -/
def ofList (statuses : List String) (interval : Nat) : LiveStatuses :=
  { statuses := (statuses.map Status.normalize).filter (· ≠ ""), interval }

/-- The statuses in progress for a view, which is looked at as often as it is polled. -/
def ofView (view : View) : LiveStatuses :=
  ofList view.inProgressStatuses (view.pollInterval.toNat * 1000000)

/-- Whether a status is in progress.  An unknown one is not. -/
def isInProgress (set : LiveStatuses) (status : Option String) : Bool :=
  status.any fun text => set.statuses.contains (Status.normalize text)

variable {α : Type} [HasStatus α]

/-- Whether a single item is live. -/
def isLive (set : LiveStatuses) (item : α) : Bool := set.isInProgress (HasStatus.status item)

/-- Whether an item of a page is live. -/
def isLivePage (set : LiveStatuses) (page : Page α) : Bool := page.items.any set.isLive

end LiveStatuses

/-! ## Checks -/

/-- A check of data of one kind. -/
abbrev Liveness (α : Type) := α → Verdict

namespace Liveness

variable {α : Type}

/-- The check of a single item. -/
def item [HasStatus α] (set : LiveStatuses) : Liveness α := fun data =>
  .ofCount set.interval (set.isLive data).toNat

/-- The check of a page, which counts the items in progress. -/
def page [HasStatus α] (set : LiveStatuses) : Liveness (Page α) := fun data =>
  .ofCount set.interval (data.items.countP set.isLive)

/-- The check of data that never changes on its own. -/
def never : Liveness α := fun _ => .settled

/-- The verdict on data that may be absent. -/
def verdictOf (check : Liveness α) (data? : Option α) : Verdict := (data?.map check).getD .settled

end Liveness

end QuerySync
