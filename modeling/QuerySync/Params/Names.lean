/-!
# Names of parameters

The parameters that every view has.  A view adds one for each of its filters, so no
filter may take one of these names.
-/

namespace QuerySync.ParamName

/-- The text searched for. -/
def search : String := "q"

/-- The field sorted on. -/
def sortBy : String := "sort_by"

/-- The direction of the sort, `true` or `false`. -/
def descending : String := "descending"

/-- The number of the page, counted from one. -/
def page : String := "page"

/-- The number of rows of a page. -/
def pageSize : String := "rows_per_page"

/-- The names that no filter may take. -/
def reserved : List String := [search, sortBy, descending, page, pageSize]

end QuerySync.ParamName
