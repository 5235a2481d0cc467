import QuerySync.View.Encoding

/-!
# Edits

An edit changes one part of a query.  Except for the edits that turn pages, each
goes back to the first page, since another list of rows is shown then.  A view
ignores an edit that it has no place for: a blank sort field, a filter it does not
have, a page size it does not allow.  The result is always in normal form.

`View.perform` does an edit to a location, and `View.editFor` is the edit that sets
one parameter.
-/

namespace QuerySync

/-- A change of one part of a query. -/
inductive Edit where
  /-- Searches for a text, or for nothing. -/
  | setSearch (text : Option String)
  /-- Sorts on a field.  The field sorted on already turns its direction. -/
  | sortBy (field : String)
  /-- Sets the direction of the sort. -/
  | setDirection (descending : Bool)
  /-- Sets the values of a filter.  Without values the filter is cleared. -/
  | setFilter (key : String) (values : List String)
  /-- Clears every filter. -/
  | clearFilters
  /-- Goes to a page. -/
  | goToPage (index : UInt32)
  /-- Goes to the page after this one, up to the last index. -/
  | nextPage
  /-- Goes to the page before this one, down to the first. -/
  | previousPage
  /-- Sets the number of rows of a page. -/
  | setPageSize (size : UInt32)
  /-- Goes back to what the view shows without parameters. -/
  | reset
deriving DecidableEq, Repr

/-- Whether an edit goes back to the first page. -/
def Edit.resetsPage : Edit → Bool
  | goToPage _ | nextPage | previousPage => false
  | setSearch _ | sortBy _ | setDirection _ | setFilter _ _ | clearFilters | setPageSize _
  | reset => true

namespace View

/-- What an edit changes, whatever the page, unless the view ignores it. -/
def change? (view : View) (query : Query) : Edit → Option Query
  | .setSearch text => some { query with search := text }
  | .sortBy field =>
    if Text.isBlank field then none
    else if query.sortField = some field then some { query with descending := !query.descending }
    else some { query with sortField := some field, descending := false }
  | .setDirection descending => some { query with descending }
  | .setFilter key values =>
    if view.isFilterKey key then some { query with filters := query.filters.insert key values }
    else none
  | .clearFilters => some { query with filters := .empty }
  | .goToPage pageIndex => some { query with pageIndex }
  | .nextPage => some { query with pageIndex := min query.pageIndex (maxPageIndex - 1) + 1 }
  | .previousPage =>
    some { query with pageIndex := if query.pageIndex = 0 then 0 else query.pageIndex - 1 }
  | .setPageSize pageSize =>
    if view.pageSizes.contains pageSize then some { query with pageSize } else none
  | .reset => some view.defaults

/-- The query after an edit. -/
def apply (view : View) (query : Query) (edit : Edit) : Query :=
  view.normalize <|
    match view.change? query edit with
    | none => query
    | some next => if edit.resetsPage then { next with pageIndex := 0 } else next

/-- The location after an edit. -/
def perform (view : View) (params : Params) (edit : Edit) : Params :=
  view.encode (view.apply (view.decode params) edit) params

/-- The edit that sets one parameter.  A malformed page is the first one, and a
malformed page size is the default one. -/
def editFor (view : View) (key value : String) : Edit :=
  if key = ParamName.search then .setSearch (some value)
  else if key = ParamName.sortBy then .sortBy value
  else if key = ParamName.descending then .setDirection (value = "true")
  else if key = ParamName.page then .goToPage ((pageIndex? value).getD 0)
  else if key = ParamName.pageSize then
    .setPageSize ((Text.Numeral.readUInt32? (Text.trim value)).getD view.defaultPageSize)
  else .setFilter key (Text.tokens value)

end View

end QuerySync
