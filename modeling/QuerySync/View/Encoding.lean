import QuerySync.View.Decoding

/-!
# The location of a query

A view writes a query onto the parameters that are there already.  Parameters that
the view does not own stay as they are.  Of its own it writes those alone that
differ from the default, and a direction never without its field.

A query has many spellings: ` 2 ` and `2` are one page, `a, b` and `a,b` are one
filter.  A field that did not change keeps the text it had.
-/

namespace QuerySync.View

/-- The text of a direction. -/
def directionText (descending : Bool) : String := if descending then "true" else "false"

/-- The number of the page with an index.  Pages are numbered from one. -/
def pageText (index : UInt32) : String := toString (index.toNat + 1)

/-- A parameter with its old text if its field did not change, and a new text otherwise. -/
def keeping (previous : Params) (unchanged : Bool) (name text : String) : String × String :=
  (name, if unchanged then (previous.get? name).getD text else text)

/-- The parameter of the search. -/
def searchParams (query before : Query) (previous : Params) : List (String × String) :=
  (query.search.map
    (keeping previous (before.search == query.search) ParamName.search)).toList

/-- Whether the sort did not change, and was named. -/
def sortUnchanged (query before : Query) (previous : Params) : Bool :=
  before.sortField == query.sortField && before.descending == query.descending &&
    (textParam? previous ParamName.sortBy).isSome

/-- Whether the direction of a query has to be written for a field. -/
def pinned (view : View) (query : Query) (field : String) : Bool :=
  query.descending != view.defaultDirection field

/-- Whether a field is the one that the view sorts on by default. -/
def isDefaultField (view : View) (field : String) : Bool :=
  view.defaultSort.any (·.field = field)

/-- The parameters of the sort. -/
def sortParams (view : View) (query before : Query) (previous : Params) : List (String × String) :=
  match query.sortField with
  | none => []
  | some field =>
    let unchanged := sortUnchanged query before previous
    (if view.pinned query field || !view.isDefaultField field then
      [keeping previous unchanged ParamName.sortBy field]
    else []) ++
    if view.pinned query field then
      [keeping previous unchanged ParamName.descending (directionText query.descending)]
    else []

/-- The parameters of the filters. -/
def filterParams (query before : Query) (previous : Params) : List (String × String) :=
  query.filters.entries.map fun (key, values) =>
    keeping previous (before.filters.get? key == some values) key (Text.joinTokens values)

/-- The parameter of the page. -/
def pageParams (query before : Query) (previous : Params) : List (String × String) :=
  if query.pageIndex = 0 then []
  else
    [keeping previous (before.pageIndex == query.pageIndex) ParamName.page
      (pageText query.pageIndex)]

/-- The parameter of the page size. -/
def pageSizeParams (view : View) (query before : Query) (previous : Params) :
    List (String × String) :=
  if query.pageSize = view.defaultPageSize then []
  else
    [keeping previous (before.pageSize == query.pageSize) ParamName.pageSize
      (toString query.pageSize.toNat)]

/-- The parameters of a query in normal form.  `before` is what `previous` shows. -/
def ownParams (view : View) (query before : Query) (previous : Params) : List (String × String) :=
  searchParams query before previous ++ view.sortParams query before previous ++
    filterParams query before previous ++ pageParams query before previous ++
    view.pageSizeParams query before previous

/-- The parameters that the view leaves alone. -/
def foreign (view : View) (params : Params) : Params := params.filterKeys fun key => !view.owns key

/-- The parameters that show a query, written onto those that are there. -/
def encode (view : View) (query : Query) (previous : Params) : Params :=
  (view.foreign previous).insertAll
    (view.ownParams (view.normalize query) (view.decode previous) previous)

end QuerySync.View
