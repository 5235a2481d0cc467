import QuerySync.Params
import QuerySync.Query
import QuerySync.Text.Numeral
import QuerySync.Text.Tokens
import QuerySync.View

/-!
# The query of a location

A view reads a query from parameters, each field from a parameter of its own.
Reading never fails.  A parameter that is malformed counts as absent, and what is
absent has the view's default.

* The search and the sort field are any text that is not blank.
* The direction is `true` or `false` to the letter, and there is none without a sort
  field.
* A filter is a list of tokens, and one without tokens is not set.
* The page is a number from one, with white space around it or not.
* The page size is a number that the view allows.

A query may also come from elsewhere.  `normalize` gives it the form of one that was
read, field by field with the same defaults.
-/

namespace QuerySync

/-- The largest index of a page.  The number of that page is the largest one there is. -/
def maxPageIndex : UInt32 := 4294967294

/-- A list that has an element. -/
def nonempty? {α : Type} (values : List α) : Option (List α) :=
  if values.isEmpty then none else some values

theorem nonempty?_eq_some_iff {α : Type} {values kept : List α} :
    nonempty? values = some kept ↔ values = kept ∧ kept ≠ [] := by
  cases values with
  | nil =>
    constructor
    · exact nofun
    · rintro ⟨rfl, nonempty⟩
      exact absurd rfl nonempty
  | cons first rest =>
    constructor
    · rintro ⟨⟩
      exact ⟨rfl, List.cons_ne_nil _ _⟩
    · rintro ⟨rfl, -⟩
      rfl

namespace View

/-! ## Single fields -/

/-- A text that says something, from a parameter. -/
def textParam? (params : Params) (name : String) : Option String :=
  (params.get? name).bind Text.nonblank?

/-- The sort field, given the one that is named. -/
def sortFieldOr (view : View) (field? : Option String) : Option String :=
  field?.or (view.defaultSort.map (·.field))

/-- A direction that is spelled out. -/
def direction? (text : String) : Option Bool :=
  if text = "true" then some true else if text = "false" then some false else none

/-- The direction of the sort on a field. -/
def direction (view : View) (params : Params) (field : String) : Bool :=
  ((params.get? ParamName.descending).bind direction?).getD (view.defaultDirection field)

/-- The index of the page with a number.  Pages are numbered from one. -/
def pageIndex? (text : String) : Option UInt32 :=
  ((Text.Numeral.readUInt32? (Text.trim text)).filter (1 ≤ ·)).map (· - 1)

/-- The number of rows of a page, if the view allows it. -/
def pageSize? (view : View) (text : String) : Option UInt32 :=
  (Text.Numeral.readUInt32? (Text.trim text)).filter view.pageSizes.contains

/-- Keeps the view's filters that have values. -/
def filtersOf {α : Type} (view : View) (read : α → List String) (filters : KeyMap α) :
    KeyMap (List String) :=
  filters.filterMap fun key value => if view.isFilterKey key then nonempty? (read value) else none

/-! ## Reading and normal form -/

/-- The query that parameters show. -/
def decode (view : View) (params : Params) : Query :=
  let sortField := view.sortFieldOr (textParam? params ParamName.sortBy)
  { search := textParam? params ParamName.search
    sortField
    descending := sortField.any (view.direction params)
    filters := view.filtersOf Text.tokens params
    pageIndex := ((params.get? ParamName.page).bind pageIndex?).getD 0
    pageSize := ((params.get? ParamName.pageSize).bind view.pageSize?).getD view.defaultPageSize }

/-- The query of a location without parameters. -/
def defaults (view : View) : Query := view.decode .empty

/-- The form of a query that parameters can show. -/
def normalize (view : View) (query : Query) : Query :=
  let sortField := view.sortFieldOr (query.sortField.bind Text.nonblank?)
  { search := query.search.bind Text.nonblank?
    sortField
    descending := sortField.isSome && query.descending
    filters := view.filtersOf Text.allTokens query.filters
    pageIndex := min query.pageIndex maxPageIndex
    pageSize :=
      if view.pageSizes.contains query.pageSize then query.pageSize else view.defaultPageSize }

end View

end QuerySync
