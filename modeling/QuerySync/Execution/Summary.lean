import QuerySync.Execution.Phase

/-!
# Summaries of executions

The row that a list of executions shows for each of them.
-/

namespace QuerySync

/-- What a list says of one execution. -/
structure ExecutionSummary where
  /-- Its name. -/
  name : String
  /-- The project it belongs to. -/
  project : String
  /-- The domain it belongs to. -/
  domain : String
  /-- Its phase. -/
  phase : Phase
  /-- When it was created, in milliseconds. -/
  createdAt : BitVec 128
deriving DecidableEq, Repr

instance : HasStatus ExecutionSummary := ⟨fun summary => HasStatus.status summary.phase⟩

end QuerySync
