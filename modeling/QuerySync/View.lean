import QuerySync.Entity
import QuerySync.Execution.Phase
import QuerySync.Params.Names

/-!
# Views

A view shows a list or a single entity.  Its configuration says which page sizes
and filters it has, how it sorts unless told otherwise, and which statuses keep it
polling.

`View.preset` is the usual configuration for a kind of entity.  A view with an
arbitrary configuration may make no sense; `View.problem?` finds out.
-/

namespace QuerySync

/-- A field to sort on, and the direction. -/
structure SortOrder where
  /-- The field. -/
  field : String
  /-- Whether the sort is descending. -/
  descending : Bool := false
deriving DecidableEq, Repr

/-- The configuration of a view. -/
structure View where
  /-- The name of the view. -/
  name : String
  /-- The kind of entity it shows. -/
  entity : Option EntityKind := none
  /-- The size of a page unless the location names one. -/
  defaultPageSize : UInt32 := 25
  /-- The page sizes that a location may name. -/
  allowedPageSizes : List UInt32 := [10, 25, 50, 100]
  /-- The sort unless the location names one. -/
  defaultSort : Option SortOrder := none
  /-- The parameters that are filters. -/
  filterKeys : List String := []
  /-- The time between two polls, in milliseconds. -/
  pollInterval : UInt64 := 10000
  /-- The statuses that keep a view polling. -/
  inProgressStatuses : List String := Phase.inProgressNames
deriving DecidableEq, Repr

namespace View

/-- The usual sort for a kind of entity. -/
def presetSort : EntityKind → SortOrder
  | .execution => ⟨"created_at", true⟩
  | .nodeExecution => ⟨"created_at", false⟩
  | .task | .workflow | .launchPlan => ⟨"name", false⟩

/-- The usual filters for a kind of entity. -/
def presetFilterKeys : EntityKind → List String
  | .execution => ["status", "version", "launch_plan"]
  | .nodeExecution => ["status"]
  | .task | .workflow | .launchPlan => ["state"]

/-- The usual view for a kind of entity.  Without a phase nothing is ever in progress. -/
def preset (name : String) (kind : EntityKind) : View :=
  { name
    entity := some kind
    defaultSort := some (presetSort kind)
    filterKeys := presetFilterKeys kind
    inProgressStatuses := if kind.hasPhase then Phase.inProgressNames else [] }

/-- Whether a parameter is one of the view's filters. -/
def isFilterKey (view : View) (key : String) : Bool := view.filterKeys.contains key

/-- Whether a parameter is read and written by the view. -/
def owns (view : View) (key : String) : Bool :=
  ParamName.reserved.contains key || view.isFilterKey key

/-- The page sizes that a location may name: those allowed, or the default one alone. -/
def pageSizes (view : View) : List UInt32 :=
  if view.allowedPageSizes = [] then [view.defaultPageSize] else view.allowedPageSizes

/-- The direction of the sort on a field unless the location names one. -/
def defaultDirection (view : View) (field : String) : Bool :=
  view.defaultSort.any fun sort => sort.field = field && sort.descending

end View

end QuerySync
