/-!
# Pages

One page of a list, with the number of rows of the whole list.
-/

namespace QuerySync

/-- One page of a list. -/
structure Page (α : Type) where
  /-- The rows of this page. -/
  items : List α := []
  /-- The number of rows on all pages. -/
  totalCount : UInt64 := 0
deriving DecidableEq, Repr, Inhabited

namespace Page

variable {α : Type}

/-- The number of rows of this page. -/
def size (page : Page α) : Nat := page.items.length

/-- Whether this page has no rows. -/
def isEmpty (page : Page α) : Bool := page.items.isEmpty

/-- The index of the last page that has a row, for pages of a size.  It is zero if
there are no rows, and never larger than an index can be. -/
def lastIndex (page : Page α) (pageSize : UInt32) : UInt32 :=
  if pageSize = 0 ∨ page.totalCount = 0 then 0
  else .ofNat (min ((page.totalCount.toNat - 1) / pageSize.toNat) (UInt32.size - 1))

example : (⟨[], 50⟩ : Page Nat).lastIndex 25 = 1 ∧ (⟨[], 51⟩ : Page Nat).lastIndex 25 = 2 := by
  decide

end Page

end QuerySync
