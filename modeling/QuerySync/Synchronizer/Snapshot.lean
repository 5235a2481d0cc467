import QuerySync.Fault
import QuerySync.Query

/-!
# Snapshots

What a view shows at one moment: a query, the data that was fetched last, and where
the synchronizer is.  Every change raises the version, so two snapshots of one
synchronizer with equal versions are equal.

Data stays until other data takes its place.  A failure leaves it there, and so does
a fetch that is aborted, which takes the view back to where it was before.
-/

namespace QuerySync

/-- Where a synchronizer is. -/
inductive Lifecycle where
  /-- Nothing was fetched yet. -/
  | idle
  /-- A fetch is on its way. -/
  | loading
  /-- The last fetch succeeded. -/
  | ready
  /-- The last fetch failed. -/
  | failed
  /-- It is over. -/
  | disposed
deriving DecidableEq, Repr

/-- The name of a place in the life of a synchronizer. -/
def Lifecycle.name : Lifecycle → String
  | idle => "idle"
  | loading => "loading"
  | ready => "ready"
  | failed => "failed"
  | disposed => "disposed"

/-- What a view shows. -/
structure Snapshot (α : Type) where
  /-- The query of the latest cycle. -/
  query : Query
  /-- The data that was fetched last. -/
  data : Option α := none
  /-- Where the synchronizer is. -/
  phase : Lifecycle := .idle
  /-- Whether a fetch is on its way. -/
  isLoading : Bool := false
  /-- The message of the last failure, unless it was dismissed or data came after it. -/
  error : Option String := none
  /-- Whether the data is live. -/
  live : Bool := false
  /-- The number of changes. -/
  version : Nat := 0
deriving DecidableEq, Repr

namespace Snapshot

variable {α : Type}

/-- A cycle starts. -/
def load (snapshot : Snapshot α) (query : Query) : Snapshot α :=
  { snapshot with query, phase := .loading, isLoading := true, version := snapshot.version + 1 }

/-- A fetch gave data. -/
def succeed (snapshot : Snapshot α) (data : α) (live : Bool) : Snapshot α :=
  { snapshot with
    data := some data, error := none, phase := .ready, isLoading := false, live
    version := snapshot.version + 1 }

/-- A fetch failed. -/
def fail (snapshot : Snapshot α) (message : String) : Snapshot α :=
  { snapshot with
    error := some message, phase := .failed, isLoading := false
    version := snapshot.version + 1 }

/-- Where the view is if nothing is on its way: an error that is shown comes before data. -/
def resting (snapshot : Snapshot α) : Lifecycle :=
  if snapshot.error.isSome then .failed else if snapshot.data.isSome then .ready else .idle

/-- A fetch was aborted by the transport. -/
def abort (snapshot : Snapshot α) : Snapshot α :=
  { snapshot with
    phase := snapshot.resting, isLoading := false, version := snapshot.version + 1 }

/-- The error is dismissed.  Without one nothing changes. -/
def dismissError (snapshot : Snapshot α) : Snapshot α :=
  if snapshot.error.isSome then { snapshot with error := none, version := snapshot.version + 1 }
  else snapshot

/-- The synchronizer is over. -/
def dispose (snapshot : Snapshot α) : Snapshot α :=
  { snapshot with phase := .disposed, isLoading := false, version := snapshot.version + 1 }

end Snapshot

end QuerySync
