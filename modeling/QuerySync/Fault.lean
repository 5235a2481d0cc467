/-!
# Faults

A fetch ends without data when it is cancelled or fails.  Synchronizing ends
without data for more reasons, and two of them concern nobody who looks at the view:
a newer request took over, or the view is gone.  Those are silent.
-/

namespace QuerySync

/-- Why a fetch ended without data. -/
inductive FetchError where
  /-- It was cancelled. -/
  | cancelled
  /-- It failed. -/
  | failed (message : String)
deriving DecidableEq, Repr

/-- The wording of a fetch error. -/
def FetchError.message : FetchError → String
  | cancelled => "fetch cancelled"
  | failed message => "fetch failed: " ++ message

/-- Why a request ended without data. -/
inductive SyncError where
  /-- A newer request took over. -/
  | cancelled
  /-- The owner is gone. -/
  | disposed
  /-- The fetch failed. -/
  | fetch (message : String)
  /-- The configuration has a problem. -/
  | invalidConfig (message : String)
deriving DecidableEq, Repr

namespace SyncError

/-- The wording of an error. -/
def message : SyncError → String
  | cancelled => "request superseded"
  | disposed => "synchronizer disposed"
  | fetch message => message
  | invalidConfig message => "invalid config: " ++ message

/-- Whether nobody is told of an error. -/
def isSilent : SyncError → Bool
  | cancelled | disposed => true
  | fetch _ | invalidConfig _ => false

/-- The error of a request whose fetch ended without data. -/
def ofFetchError : FetchError → SyncError
  | .cancelled => cancelled
  | .failed message => fetch message

end SyncError

end QuerySync
