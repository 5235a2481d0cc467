import QuerySync.Fault
import QuerySync.Json.Records
import QuerySync.View.Decoding
import QuerySync.View.Problem

/-!
# Dashboards

A dashboard is a map of views.  A view has a name of its own besides the one it has
in the map, and it is found by the latter.

A dashboard is read from a text, JSON as a rule (`ofText?`), and it is good if it has a
view and all its views are good.
-/

namespace QuerySync

/-- A map of views. -/
structure Dashboard where
  /-- The views, by name. -/
  views : KeyMap View
deriving DecidableEq, Repr

namespace Dashboard

/-! ## Problems -/

/-- What may be wrong with a dashboard. -/
inductive Problem where
  /-- It has no view. -/
  | noViews
  /-- One of its views has a problem. -/
  | view (name : String) (problem : View.Problem)
deriving DecidableEq, Repr

/-- The wording of a problem. -/
def Problem.message : Problem → String
  | noViews => "at least one view must be defined"
  | view name problem => s!"view `{name}` invalid: {problem.message}"

/-- The first thing that is wrong with a dashboard, by the names of the views. -/
def problem? (dashboard : Dashboard) : Option Problem :=
  if dashboard.views.isEmpty then some .noViews
  else dashboard.views.entries.findSome? fun (name, view) => view.problem?.map (.view name)

/-! ## Views -/

/-- The view with a name. -/
def view? (dashboard : Dashboard) (name : String) : Option View := dashboard.views.get? name

/-- The view with a name, to build a synchronizer from. -/
def viewToBuild (dashboard : Dashboard) (name : String) : Except SyncError View :=
  match dashboard.view? name with
  | some view => .ok view
  | none => .error (.invalidConfig s!"unknown view `{name}`")

/-- The queries that parameters show, by the names of the views. -/
def decode (dashboard : Dashboard) (params : Params) : Except SyncError (KeyMap Query) :=
  match dashboard.problem? with
  | some problem => .error (.invalidConfig problem.message)
  | none => .ok (dashboard.views.mapValues fun view => view.decode params)

/-- The dashboard with one time between two polls for every view. -/
def withPollInterval (dashboard : Dashboard) (pollInterval : UInt64) : Dashboard :=
  { views := dashboard.views.mapValues fun view => { view with pollInterval } }

/-- A dashboard, from JSON. -/
def ofJson? : Json.Decoder Dashboard := fun value => do
  let fields ← Json.Fields.of? ["views"] value
  return { views := ← fields.required "views" (.map View.ofJson?) }

/-- A dashboard, from the text of its JSON. -/
def ofText? (text : String) : Option Dashboard := (Json.Value.ofText? text).bind ofJson?

/-! ## Reading -/

/-- Why a dashboard could not be read. -/
inductive ReadError where
  /-- The text is not that of a dashboard. -/
  | malformed
  /-- The dashboard has a problem. -/
  | problem (problem : Problem)
deriving DecidableEq, Repr

/-- The dashboard, if it has no problem. -/
def checked (dashboard : Dashboard) : Except ReadError Dashboard :=
  match dashboard.problem? with
  | some problem => .error (.problem problem)
  | none => .ok dashboard

/-- The dashboard of a text, if it has no problem.  What the text means is told by a
reader. -/
def read (reader : String → Option Dashboard) (text : String) : Except ReadError Dashboard :=
  match reader text with
  | some dashboard => dashboard.checked
  | none => .error .malformed

/-- A dashboard without problems has a view, and only valid ones. -/
theorem problem?_eq_none_iff {dashboard : Dashboard} :
    dashboard.problem? = none ↔
      dashboard.views.entries ≠ [] ∧ ∀ entry ∈ dashboard.views.entries, entry.2.Valid := by
  unfold problem? KeyMap.isEmpty
  cases entries : dashboard.views.entries with
  | nil => simp
  | cons first rest =>
    simp only [List.isEmpty_cons, Bool.false_eq_true, if_false, List.findSome?_eq_none_iff,
      Option.map_eq_none_iff, View.problem?_eq_none_iff, ne_eq, reduceCtorEq, not_false_eq_true,
      true_and]

end Dashboard

end QuerySync
