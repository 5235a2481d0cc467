import QuerySync.KeyMap

/-!
# Queries

A query says what a view shows: a search, a sort, filters and a page.  It is a
value that every change replaces.  `View.normalize` says which queries are in the
form that a location can express.
-/

namespace QuerySync

/-- What a view shows. -/
@[ext]
structure Query where
  /-- The text searched for. -/
  search : Option String := none
  /-- The field sorted on. -/
  sortField : Option String := none
  /-- Whether the sort is descending. -/
  descending : Bool := false
  /-- The accepted values of each filter. -/
  filters : KeyMap (List String) := .empty
  /-- The page, counted from zero. -/
  pageIndex : UInt32 := 0
  /-- The number of rows of a page. -/
  pageSize : UInt32 := 0
deriving DecidableEq, Repr, Inhabited

namespace Query

/-- The number of rows before the page.  It does not overflow (`toNat_offset`). -/
def offset (query : Query) : UInt64 := query.pageIndex.toUInt64 * query.pageSize.toUInt64

/-- The accepted values of a filter, none if the filter is not set. -/
def filter (query : Query) (key : String) : List String := (query.filters.get? key).getD []

/-- Whether a row with a value passes a filter.  A filter without values passes every row. -/
def matchesFilter (query : Query) (key value : String) : Bool :=
  (query.filter key).isEmpty || (query.filter key).contains value

/-- The offset does not wrap around: it is a product of two words half as long. -/
theorem toNat_offset (query : Query) :
    query.offset.toNat = query.pageIndex.toNat * query.pageSize.toNat := by
  have index := query.pageIndex.toNat_lt
  have size := query.pageSize.toNat_lt
  have product : query.pageIndex.toNat * query.pageSize.toNat < 2 ^ 32 * 2 ^ 32 :=
    Nat.mul_lt_mul'' index size
  rw [offset, UInt64.toNat_mul, UInt32.toNat_toUInt64, UInt32.toNat_toUInt64]
  exact Nat.mod_eq_of_lt (by omega)

end Query

end QuerySync
