import QuerySync.Page
import QuerySync.Proofs.View.Frame
import QuerySync.Proofs.View.RoundTrip

/-!
# Going to the last page

A list says how many rows it has, and a view may go to the page with the last of them.  The index of
that page goes into the query, as a number into the location, and back.  What is shown then begins
before the last row, and ends with it or after it (`View.showLast_lands`).  There is an exception to
the second half: pages beyond the largest index have no number, so a list that needs them shows the
last page that has one.

All this is arithmetic with words of thirty-two and of sixty-four bits, which could overflow.  So
each step that adds, subtracts, multiplies or divides is done here in checked arithmetic too, which
has no result where a word would not hold it.  `showLast?` does all steps one after the other, and
the theorem says that it has a result, which is the one that the view shows.
-/

namespace QuerySync

/-! ## Checked arithmetic -/

namespace Checked

/-- The word of a number, unless it is too large. -/
def word? (n : Nat) : Option UInt64 := if n < UInt64.size then some (.ofNat n) else none

/-- A sum, unless it is too large. -/
def add? (a b : UInt64) : Option UInt64 := word? (a.toNat + b.toNat)

/-- A product, unless it is too large. -/
def mul? (a b : UInt64) : Option UInt64 := word? (a.toNat * b.toNat)

/-- A difference, unless it lies below zero. -/
def sub? (a b : UInt64) : Option UInt64 := if b ≤ a then some (a - b) else none

/-- The number before a number, unless that is zero. -/
def before? (n : UInt32) : Option UInt32 := if 1 ≤ n then some (n - 1) else none

/-- A quotient rounded up, unless the divisor is zero or the quotient too large. -/
def divUp? (a b : UInt64) : Option UInt64 :=
  if b = 0 then none else if a % b = 0 then some (a / b) else add? (a / b) 1

theorem word?_toNat (word : UInt64) : word? word.toNat = some word := by
  rw [word?, if_pos word.toNat_lt, UInt64.ofNat_toNat]

/-- A number below the size of a word is a word. -/
theorem word?_eq_some {n : Nat} (small : n < UInt64.size) :
    ∃ word, word? n = some word ∧ word.toNat = n :=
  ⟨.ofNat n, if_pos small, UInt64.toNat_ofNat_of_lt' small⟩

/-- Rounding up a quotient of words never overflows. -/
theorem divUp?_eq_some {a b : UInt64} (positive : a ≠ 0) (divisor : b ≠ 0) :
    ∃ quotient, divUp? a b = some quotient ∧ quotient.toNat = (a.toNat - 1) / b.toNat + 1 := by
  have nonzero : a.toNat ≠ 0 := fun zero => positive (UInt64.toNat_inj.1 zero)
  obtain ⟨n, isNext⟩ := Nat.exists_eq_succ_of_ne_zero nonzero
  have remainder : a % b = 0 ↔ b.toNat ∣ n + 1 := by
    rw [← UInt64.toNat_inj, UInt64.toNat_mod, isNext]
    exact Nat.dvd_iff_mod_eq_zero.symm
  rw [divUp?, if_neg divisor, isNext, Nat.succ_sub_one]
  by_cases whole : b.toNat ∣ n + 1
  · refine ⟨a / b, if_pos (remainder.2 whole), ?_⟩
    rw [UInt64.toNat_div, isNext, Nat.succ_div_of_dvd whole]
  · have quotient : (a / b).toNat = n / b.toNat := by
      rw [UInt64.toNat_div, isNext, Nat.succ_div_of_not_dvd whole]
    have small : n / b.toNat + 1 < UInt64.size := by
      have below := Nat.div_le_self n b.toNat
      have bounded := a.toNat_lt_size
      omega
    rw [if_neg (mt remainder.1 whole), add?, quotient]
    exact word?_eq_some small

/-- Taking one away from what is not zero does not underflow. -/
theorem sub?_one {a : UInt64} {n : Nat} (isNext : a.toNat = n + 1) :
    ∃ last, sub? a 1 = some last ∧ last.toNat = n := by
  have one : (1 : UInt64).toNat = 1 := rfl
  have positive : 1 ≤ a := by
    rw [UInt64.le_iff_toNat_le, one, isNext]
    exact Nat.le_add_left 1 n
  refine ⟨a - 1, if_pos positive, ?_⟩
  rw [UInt64.toNat_sub_of_le _ _ positive, one, isNext, Nat.add_sub_cancel]

end Checked

open Checked

/-! ## The steps, checked -/

namespace Page

variable {α : Type} (page : Page α) (pageSize : UInt32)

/-- The index of the last page: the number of pages, less one, and the largest index if that is
too large for thirty-two bits. -/
def lastIndex? : Option UInt32 :=
  if pageSize = 0 ∨ page.totalCount = 0 then some 0
  else do
    let pages ← divUp? page.totalCount pageSize.toUInt64
    let last ← sub? pages 1
    return if last.toNat < UInt32.size then last.toUInt32 else 4294967295

variable {page pageSize}

/-- The last index is that of the last row, cut off where a word ends. -/
theorem toNat_lastIndex (sized : pageSize ≠ 0) (rows : page.totalCount ≠ 0) :
    (page.lastIndex pageSize).toNat =
      min ((page.totalCount.toNat - 1) / pageSize.toNat) (UInt32.size - 1) := by
  have size : UInt32.size = 4294967296 := rfl
  rw [lastIndex, if_neg (not_or_intro sized rows), UInt32.toNat_ofNat_of_lt']
  omega

/-- No step of the last index overflows: it subtracts one only where there are rows, and divides by
a size that is not zero. -/
theorem lastIndex?_eq (page : Page α) (pageSize : UInt32) :
    page.lastIndex? pageSize = some (page.lastIndex pageSize) := by
  by_cases empty : pageSize = 0 ∨ page.totalCount = 0
  · rw [lastIndex?, lastIndex, if_pos empty, if_pos empty]
  obtain ⟨sized, rows⟩ := not_or.1 empty
  have divisor : pageSize.toUInt64 ≠ 0 := fun zero =>
    sized (UInt32.toNat_inj.1 (congrArg UInt64.toNat zero))
  obtain ⟨pages, counted, number⟩ := divUp?_eq_some rows divisor
  obtain ⟨last, subtracted, isLast⟩ := sub?_one number
  rw [lastIndex?, if_neg empty, counted, Option.bind_eq_bind, Option.bind_some, subtracted]
  refine congrArg some (UInt32.toNat_inj.1 ?_)
  rw [toNat_lastIndex sized rows, ← UInt32.toNat_toUInt64 pageSize, ← isLast]
  have size : UInt32.size = 4294967296 := rfl
  split
  next fits =>
    rw [UInt64.toNat_toUInt32, Nat.mod_eq_of_lt fits]
    omega
  next large =>
    have largest : (4294967295 : UInt32).toNat = 4294967295 := rfl
    omega

end Page

/-- The number of rows before the page. -/
def Query.offset? (query : Query) : Option UInt64 :=
  mul? query.pageIndex.toUInt64 query.pageSize.toUInt64

/-- A product of two words of 32 bits fits in one of 64. -/
theorem Query.offset?_eq (query : Query) : query.offset? = some query.offset := by
  rw [offset?, mul?, UInt32.toNat_toUInt64, UInt32.toNat_toUInt64, ← toNat_offset, word?_toNat]

namespace View

variable {view : View} {query : Query}

/-- The number of the page that parameters name. -/
def pageNumber? (params : Params) : Option UInt32 :=
  (params.get? ParamName.page).bind fun text =>
    (Text.Numeral.readUInt32? (Text.trim text)).filter (1 ≤ ·)

/-- Page numbers begin at one, so the index before one is there. -/
theorem one_le_of_pageNumber? {params : Params} {number : UInt32}
    (named : pageNumber? params = some number) : 1 ≤ number := by
  obtain ⟨text, -, read⟩ := Option.bind_eq_some_iff.1 named
  simpa using (Option.filter_eq_some_iff.1 read).2

theorem pageIndex_decode (view : View) (params : Params) :
    (view.decode params).pageIndex = ((pageNumber? params).map (· - 1)).getD 0 := by
  show ((params.get? ParamName.page).bind pageIndex?).getD 0 = _
  rw [pageNumber?, Option.map_bind]
  rfl

/-- The query that parameters show.  The index of a page is the number before its number. -/
def decode? (view : View) (params : Params) : Option Query := do
  let pageIndex ← match pageNumber? params with
    | some number => before? number
    | none => some 0
  return { view.decode params with pageIndex }

/-- Decoding is checked arithmetic throughout. -/
theorem decode?_eq (view : View) (params : Params) :
    view.decode? params = some (view.decode params) := by
  have index := pageIndex_decode view params
  rw [decode?]
  cases named : pageNumber? params with
  | none =>
    rw [named] at index
    exact congrArg some (Query.ext rfl rfl rfl rfl index.symm rfl)
  | some number =>
    rw [named] at index
    dsimp only
    rw [before?, if_pos (one_le_of_pageNumber? named)]
    exact congrArg some (Query.ext rfl rfl rfl rfl index.symm rfl)

/-- The parameter of the page.  The number of a page is the number after its index. -/
def pageParams? (query before : Query) (previous : Params) : Option (List (String × String)) :=
  if query.pageIndex = 0 then some []
  else do
    let number ← add? query.pageIndex.toUInt64 1
    return [keeping previous (before.pageIndex == query.pageIndex) ParamName.page
      (toString number.toNat)]

/-- The number of a page is one past its index, which stays below the end of a word. -/
theorem pageParams?_eq (query before : Query) (previous : Params) :
    pageParams? query before previous = some (pageParams query before previous) := by
  rw [pageParams?, pageParams]
  split
  next => rfl
  next =>
    have bounded := query.pageIndex.toNat_lt_size
    have size : UInt32.size = 4294967296 := rfl
    have one : (1 : UInt64).toNat = 1 := rfl
    have fits : query.pageIndex.toNat + 1 < UInt64.size := by
      have words : UInt64.size = 18446744073709551616 := rfl
      omega
    obtain ⟨number, added, isNumber⟩ := word?_eq_some fits
    rw [add?, UInt32.toNat_toUInt64, one, added, Option.bind_eq_bind, Option.bind_some, isNumber]
    rfl

/-- The parameters that show a query, written onto those that are there. -/
def encode? (view : View) (query : Query) (previous : Params) : Option Params := do
  let before ← view.decode? previous
  let query := view.normalize query
  let pageParams ← pageParams? query before previous
  return (view.foreign previous).insertAll
    (searchParams query before previous ++ view.sortParams query before previous ++
      filterParams query before previous ++ pageParams ++
      view.pageSizeParams query before previous)

/-- Encoding is checked arithmetic throughout. -/
theorem encode?_eq (view : View) (query : Query) (previous : Params) :
    view.encode? query previous = some (view.encode query previous) := by
  simp only [encode?, decode?_eq, pageParams?_eq, encode, ownParams, Option.bind_eq_bind,
    Option.bind_some]
  rfl

/-! ## The last page -/

/-- Going to the last page of a list, and what is shown then: the query, and the number of rows
before its page.  The edit itself only takes the smaller one of two indices. -/
def showLast? {α : Type} (view : View) (query : Query) (previous : Params) (page : Page α) :
    Option (Query × UInt64) := do
  let index ← page.lastIndex? query.pageSize
  let params ← view.encode? (view.apply query (.goToPage index)) previous
  let shown ← view.decode? params
  let offset ← shown.offset?
  return (shown, offset)

/-- The query that is shown after going to the last page of a list. -/
def showLast {α : Type} (view : View) (query : Query) (previous : Params) (page : Page α) : Query :=
  view.decode (view.encode (view.apply query (.goToPage (page.lastIndex query.pageSize))) previous)

/-- The whole way to the last page, from the rows counted to the offset asked for, is checked
arithmetic. -/
theorem showLast?_eq {α : Type} (view : View) (query : Query) (previous : Params) (page : Page α) :
    view.showLast? query previous page =
      some (view.showLast query previous page, (view.showLast query previous page).offset) := by
  simp only [showLast?, Page.lastIndex?_eq, encode?_eq, decode?_eq, Query.offset?_eq,
    Option.bind_eq_bind, Option.bind_some]
  rfl

section
variable {α : Type} (valid : view.Valid) (canonical : view.Canonical query) (previous : Params)
  {page : Page α}
include valid canonical

theorem pageSize_showLast : (view.showLast query previous page).pageSize = query.pageSize := by
  rw [showLast, decode_encode_of_canonical valid (apply_canonical valid query _),
    apply_goToPage valid canonical]

/-- The page that is shown has the index of the last one, or the largest index with a number. -/
theorem pageIndex_showLast (rows : page.totalCount ≠ 0) :
    (view.showLast query previous page).pageIndex.toNat =
      min ((page.totalCount.toNat - 1) / query.pageSize.toNat) maxPageIndex.toNat := by
  have sized : query.pageSize ≠ 0 := (UInt32.ne_of_lt (pageSize_pos valid canonical)).symm
  have size : UInt32.size = 4294967296 := rfl
  have largest : maxPageIndex.toNat = 4294967294 := rfl
  rw [showLast, decode_encode_of_canonical valid (apply_canonical valid query _),
    apply_goToPage valid canonical, Page.toNat_lastIndex sized rows, UInt32.toNat_ofNat_of_lt']
  · omega
  · omega

end

/-- Going to the last page of a list with rows shows a page that begins before the last row, and
ends with it or later unless the list has more pages than there are numbers.  Rows per page stay,
and no step of the way overflows or divides by zero. -/
theorem showLast_lands {α : Type} (valid : view.Valid) (canonical : view.Canonical query)
    (previous : Params) (page : Page α) (rows : 1 ≤ page.totalCount) :
    let shown := view.showLast query previous page
    view.showLast? query previous page = some (shown, shown.offset) ∧
      shown.pageSize = query.pageSize ∧ shown.offset < page.totalCount ∧
      (page.totalCount.toNat ≤ query.pageSize.toNat * (UInt32.size - 1) →
        page.totalCount.toNat ≤ shown.offset.toNat + query.pageSize.toNat) := by
  intro shown
  have counted : 1 ≤ page.totalCount.toNat := UInt64.le_iff_toNat_le.1 rows
  have nonempty : page.totalCount ≠ 0 := by
    rintro empty
    rw [empty] at counted
    exact absurd counted (by decide)
  have sized : 0 < query.pageSize.toNat := UInt32.lt_iff_toNat_lt.1 (pageSize_pos valid canonical)
  have size : shown.pageSize = query.pageSize := pageSize_showLast valid canonical previous
  have index := pageIndex_showLast valid canonical previous nonempty
  have offset : shown.offset.toNat = shown.pageIndex.toNat * query.pageSize.toNat := by
    rw [Query.toNat_offset, size]
  refine ⟨showLast?_eq view query previous page, size, ?_, fun numbered => ?_⟩
  · rw [UInt64.lt_iff_toNat_lt, offset, index]
    calc min ((page.totalCount.toNat - 1) / query.pageSize.toNat) maxPageIndex.toNat *
          query.pageSize.toNat
        ≤ (page.totalCount.toNat - 1) / query.pageSize.toNat * query.pageSize.toNat :=
          Nat.mul_le_mul_right _ (Nat.min_le_left _ _)
      _ ≤ page.totalCount.toNat - 1 := Nat.div_mul_le_self _ _
      _ < page.totalCount.toNat := Nat.sub_lt counted Nat.one_pos
  · have before : (page.totalCount.toNat - 1) / query.pageSize.toNat < UInt32.size - 1 :=
      Nat.div_lt_of_lt_mul (by omega)
    have last : (page.totalCount.toNat - 1) / query.pageSize.toNat ≤ maxPageIndex.toNat :=
      Nat.le_of_lt_succ before
    have within := Nat.lt_div_mul_add (a := page.totalCount.toNat - 1) sized
    rw [offset, index, Nat.min_eq_left last]
    omega

/-- One row a page, and as many rows as there are pages with a number, written onto another spelling
of the same page; then as many rows as can be counted, of which the last page with a number shows
one that is far from the last. -/
theorem showLast_lands_one_row :
    let view : View := { name := "runs", defaultPageSize := 1, allowedPageSizes := [1, 10] }
    let query : Query := { pageIndex := 7, pageSize := 1 }
    let previous := KeyMap.ofList [("page", " +04294967295"), ("rows_per_page", "x")]
    let numbered : Page String := { totalCount := 4294967295 }
    let endless : Page String := { totalCount := 18446744073709551615 }
    view.Valid ∧ view.Canonical query ∧ 1 ≤ numbered.totalCount ∧ 1 ≤ endless.totalCount ∧
      numbered.totalCount.toNat ≤ query.pageSize.toNat * (UInt32.size - 1) ∧
      view.showLast? query previous numbered =
        some ({ pageIndex := 4294967294, pageSize := 1 }, 4294967294) ∧
      numbered.totalCount.toNat ≤
        (view.showLast query previous numbered).offset.toNat + query.pageSize.toNat ∧
      view.showLast? query previous endless =
        some ({ pageIndex := 4294967294, pageSize := 1 }, 4294967294) ∧
      (view.showLast query previous endless).offset < endless.totalCount := by
  intro view query previous numbered endless
  have valid : view.Valid := by decide
  have canonical : view.Canonical query := by
    have normal : view.normalize query = query := by decide
    exact normal ▸ normalize_canonical valid query
  have rows : 1 ≤ numbered.totalCount := by decide
  have more : 1 ≤ endless.totalCount := by decide
  have enough : numbered.totalCount.toNat ≤ query.pageSize.toNat * (UInt32.size - 1) := by decide
  obtain ⟨lands, -, -, reaches⟩ := showLast_lands valid canonical previous numbered rows
  obtain ⟨landsToo, -, before, -⟩ := showLast_lands valid canonical previous endless more
  refine ⟨valid, canonical, rows, more, enough, lands.trans ?_, reaches enough, landsToo.trans ?_,
    before⟩
  · decide
  · decide

end View

end QuerySync
