import QuerySync.Proofs.View.Canonical

/-!
# What an edit changes

An edit of a canonical query changes the part that it is for, and no other (`View.Framed`).  Edits
that turn pages change the page alone, within the pages that have a number.  Any other edit goes
back to the first page, unless the view has no place for it: then nothing changes, the page
included.

The result of an edit is put into normal form as a whole.  That leaves the other parts as they are,
since they were in normal form before.
-/

namespace QuerySync.View

/-- A view has no place for an edit: a blank sort field, a filter it does not have, a page size it
does not allow. -/
def Ignores (view : View) : Edit → Prop
  | .sortBy field => Text.isBlank field = true
  | .setFilter key _ => key ∉ view.filterKeys
  | .setPageSize size => size ∉ view.allowedPageSizes
  | .setSearch _ | .setDirection _ | .clearFilters | .goToPage _ | .nextPage | .previousPage
  | .reset => False

/-- What each edit makes of a query. -/
structure Framed (view : View) (query : Query) : Prop where
  /-- A page that is gone to is the last one with a number at most. -/
  goToPage : ∀ index, view.apply query (.goToPage index) =
    { query with pageIndex := UInt32.ofNat (min index.toNat maxPageIndex.toNat) }
  /-- The last page with a number is its own next page. -/
  nextPage : view.apply query .nextPage =
    { query with pageIndex := UInt32.ofNat (min (query.pageIndex.toNat + 1) maxPageIndex.toNat) }
  /-- The first page is its own previous page. -/
  previousPage : view.apply query .previousPage =
    { query with pageIndex := UInt32.ofNat (query.pageIndex.toNat - 1) }
  /-- An edit that is ignored changes nothing. -/
  ignored : ∀ edit, view.Ignores edit → view.apply query edit = query
  /-- A view goes back to its defaults. -/
  reset : view.apply query .reset = view.defaults
  /-- A blank search is no search. -/
  setSearch : ∀ text, view.apply query (.setSearch text) =
    { query with search := text.bind Text.nonblank?, pageIndex := 0 }
  /-- The field sorted on already turns its direction. -/
  sortAgain : ∀ field, query.sortField = some field → view.apply query (.sortBy field) =
    { query with descending := !query.descending, pageIndex := 0 }
  /-- Another field is sorted on ascending. -/
  sortElse : ∀ field, Text.isBlank field = false → query.sortField ≠ some field →
    view.apply query (.sortBy field) =
      { query with sortField := some field, descending := false, pageIndex := 0 }
  /-- There is no direction without a field. -/
  setDirection : ∀ descending, view.apply query (.setDirection descending) =
    { query with descending := query.sortField.isSome && descending, pageIndex := 0 }
  /-- One filter has the tokens of its new values, if there are any. -/
  setFilter : ∀ key values, key ∈ view.filterKeys → ∃ filters,
    view.apply query (.setFilter key values) = { query with filters, pageIndex := 0 } ∧
    ∀ other, filters.get? other =
      if other = key then nonempty? (Text.allTokens values) else query.filters.get? other
  /-- No filter is left. -/
  clearFilters : view.apply query .clearFilters = { query with filters := .empty, pageIndex := 0 }
  /-- A page size that is allowed is taken. -/
  setPageSize : ∀ size ∈ view.allowedPageSizes,
    view.apply query (.setPageSize size) = { query with pageSize := size, pageIndex := 0 }
  /-- An edit that is not ignored, and turns no pages, goes back to the first page. -/
  resets : ∀ edit, edit.resetsPage = true → ¬ view.Ignores edit →
    (view.apply query edit).pageIndex = 0
  /-- Whatever changes but the page, the first page is shown then. -/
  first : ∀ edit, { view.apply query edit with pageIndex := query.pageIndex } ≠ query →
    (view.apply query edit).pageIndex = 0

variable {view : View} {query : Query}

/-! ## Edits that are ignored -/

/-- What has no place changes nothing, and everything else changes something. -/
theorem change?_eq_none_iff (valid : view.Valid) {edit : Edit} :
    view.change? query edit = none ↔ view.Ignores edit := by
  cases edit with
  | sortBy field =>
    cases blank : Text.isBlank field with
    | true => simp [change?, Ignores, blank]
    | false =>
      simp only [change?, Ignores, blank, Bool.false_eq_true, if_false, iff_false]
      split <;> nofun
  | setFilter key values => simp [change?, Ignores, isFilterKey]
  | setPageSize size => simp [change?, Ignores, valid.pageSizes_eq]
  | setSearch | setDirection | clearFilters | goToPage | nextPage | previousPage | reset =>
    exact ⟨nofun, nofun⟩

/-- An edit that moves back to the first page does so before its query is put in normal form. -/
theorem apply_of_change {edit : Edit} {next : Query} (change : view.change? query edit = some next)
    (resets : edit.resetsPage = true) :
    view.apply query edit = view.normalize { next with pageIndex := 0 } := by
  rw [apply, change]
  exact congrArg view.normalize (if_pos resets)

/-- An edit that resets the page and is heeded ends on the first page. -/
theorem pageIndex_apply (valid : view.Valid) {edit : Edit} (resets : edit.resetsPage = true)
    (heeded : ¬ view.Ignores edit) : (view.apply query edit).pageIndex = 0 := by
  cases change : view.change? query edit with
  | none => exact absurd ((change?_eq_none_iff valid).1 change) heeded
  | some next =>
    rw [apply_of_change change resets]
    rfl

/-! ## Edits of a canonical query -/

/-- A change to a query that is canonical is all that an edit makes, but for the page. -/
theorem apply_of_canonical (valid : view.Valid) {edit : Edit} {next : Query}
    (change : view.change? query edit = some next) (resets : edit.resetsPage = true)
    (stays : view.Canonical next) : view.apply query edit = { next with pageIndex := 0 } := by
  have first : (0 : UInt32) ≤ maxPageIndex := by decide
  rw [apply_of_change change resets]
  exact normalize_of_canonical valid { stays with pageIndex := first }

section
variable (valid : view.Valid) (canonical : view.Canonical query)
include valid canonical

/-- An ignored edit changes nothing, not even the page. -/
theorem apply_of_ignores {edit : Edit} (ignored : view.Ignores edit) :
    view.apply query edit = query := by
  rw [apply, (change?_eq_none_iff valid).2 ignored]
  exact normalize_of_canonical valid canonical

/-! ### Pages -/

/-- The normal form of another page is a page, and nothing else changes. -/
theorem normalize_page {index : UInt32} {number : Nat}
    (isNumber : min index.toNat maxPageIndex.toNat = number) :
    view.normalize { query with pageIndex := index } =
      { query with pageIndex := UInt32.ofNat number } := by
  have same := normalize_of_canonical valid canonical
  have page : min index maxPageIndex = UInt32.ofNat number := by
    rw [← isNumber, ← toNat_min, UInt32.ofNat_toNat]
  calc view.normalize { query with pageIndex := index }
      = { view.normalize query with pageIndex := min index maxPageIndex } := rfl
    _ = { query with pageIndex := UInt32.ofNat number } := by rw [same, page]

/-- Pages past the last index are cut off there. -/
theorem apply_goToPage (index : UInt32) :
    view.apply query (.goToPage index) =
      { query with pageIndex := UInt32.ofNat (min index.toNat maxPageIndex.toNat) } :=
  normalize_page valid canonical rfl

/-- The page after the last index is that page again; a word does not wrap around. -/
theorem apply_nextPage :
    view.apply query .nextPage =
      { query with
        pageIndex := UInt32.ofNat (min (query.pageIndex.toNat + 1) maxPageIndex.toNat) } := by
  refine normalize_page valid canonical ?_
  have last : maxPageIndex.toNat = 4294967294 := rfl
  have before : (maxPageIndex - 1).toNat = 4294967293 := rfl
  have one : (1 : UInt32).toNat = 1 := rfl
  rw [UInt32.toNat_add, toNat_min, before, one, last]
  omega

/-- The page before the first one is the first. -/
theorem apply_previousPage :
    view.apply query .previousPage =
      { query with pageIndex := UInt32.ofNat (query.pageIndex.toNat - 1) } := by
  refine normalize_page valid canonical ?_
  have bounded := UInt32.le_iff_toNat_le.1 canonical.pageIndex
  split
  next first =>
    rw [first]
    rfl
  next later =>
    have one : (1 : UInt32).toNat = 1 := rfl
    have positive : query.pageIndex.toNat ≠ 0 := fun zero => later (UInt32.toNat_inj.1 zero)
    rw [UInt32.toNat_sub_of_le _ _ (UInt32.le_iff_toNat_le.2 (by omega)), one]
    omega

/-! ### Edits that leave a query in normal form -/

/-- Sorting by the field that sorts turns its direction around. -/
theorem apply_sortBy_again {field : String} (sorted : query.sortField = some field) :
    view.apply query (.sortBy field) =
      { query with descending := !query.descending, pageIndex := 0 } := by
  have visible := canonical.sortField field sorted
  have change : view.change? query (.sortBy field) =
      some { query with descending := !query.descending } := by
    simp [change?, visible, sorted]
  refine apply_of_canonical valid change rfl
    { canonical with descending := fun unsorted => ?_ }
  cases sorted.symm.trans unsorted

/-- Sorting by another field begins ascending. -/
theorem apply_sortBy_else {field : String} (visible : Text.isBlank field = false)
    (different : query.sortField ≠ some field) :
    view.apply query (.sortBy field) =
      { query with sortField := some field, descending := false, pageIndex := 0 } := by
  have change : view.change? query (.sortBy field) =
      some { query with sortField := some field, descending := false } := by
    simp [change?, visible, different]
  refine apply_of_canonical valid change rfl
    { canonical with
      sortField := fun _ same => ?_
      sorted := fun _ => rfl
      descending := nofun }
  cases same
  exact visible

theorem apply_clearFilters :
    view.apply query .clearFilters = { query with filters := .empty, pageIndex := 0 } := by
  have change : view.change? query .clearFilters = some { query with filters := .empty } := rfl
  refine apply_of_canonical valid change rfl { canonical with filters := fun found => ?_ }
  rw [KeyMap.get?_empty] at found
  cases found

theorem apply_setPageSize {size : UInt32} (allowed : size ∈ view.allowedPageSizes) :
    view.apply query (.setPageSize size) = { query with pageSize := size, pageIndex := 0 } := by
  have change : view.change? query (.setPageSize size) = some { query with pageSize := size } := by
    simp [change?, valid.pageSizes_eq, allowed]
  exact apply_of_canonical valid change rfl { canonical with pageSize := allowed }

/-! ### Edits that have to be put into normal form -/

theorem apply_setSearch (text : Option String) :
    view.apply query (.setSearch text) =
      { query with search := text.bind Text.nonblank?, pageIndex := 0 } := by
  have same := normalize_of_canonical valid canonical
  calc view.apply query (.setSearch text)
      = { view.normalize query with search := text.bind Text.nonblank?, pageIndex := 0 } := rfl
    _ = { query with search := text.bind Text.nonblank?, pageIndex := 0 } := by rw [same]

/-- A direction is kept only beside a field. -/
theorem apply_setDirection (descending : Bool) :
    view.apply query (.setDirection descending) =
      { query with descending := query.sortField.isSome && descending, pageIndex := 0 } := by
  have same := normalize_of_canonical valid canonical
  calc view.apply query (.setDirection descending)
      = { view.normalize query with
          descending := (view.normalize query).sortField.isSome && descending
          pageIndex := 0 } := rfl
    _ = { query with descending := query.sortField.isSome && descending, pageIndex := 0 } := by
      rw [same]

/-- The filter that is set is put into normal form, and the others are in normal form already. -/
theorem apply_setFilter {key : String} (isFilter : view.isFilterKey key = true)
    (values : List String) :
    ∃ filters, view.apply query (.setFilter key values) = { query with filters, pageIndex := 0 } ∧
      ∀ other, filters.get? other =
        if other = key then nonempty? (Text.allTokens values) else query.filters.get? other := by
  have same := normalize_of_canonical valid canonical
  have change : view.change? query (.setFilter key values) =
      some { query with filters := query.filters.insert key values } := by
    simp [change?, isFilter]
  refine ⟨view.filtersOf Text.allTokens (query.filters.insert key values), ?_, fun other => ?_⟩
  · rw [apply_of_change change rfl]
    calc view.normalize { query with filters := query.filters.insert key values, pageIndex := 0 }
        = { view.normalize query with
            filters := view.filtersOf Text.allTokens (query.filters.insert key values)
            pageIndex := 0 } := rfl
      _ = { query with
            filters := view.filtersOf Text.allTokens (query.filters.insert key values)
            pageIndex := 0 } := by rw [same]
  · by_cases isKey : other = key
    · rw [if_pos isKey, isKey, get?_filtersOf, if_pos isFilter, KeyMap.get?_insert, if_pos rfl,
        Option.bind_some]
    · have others : view.filtersOf Text.allTokens query.filters = query.filters :=
        congrArg Query.filters same
      rw [if_neg isKey, get?_filtersOf, KeyMap.get?_insert, if_neg (Ne.symm isKey),
        ← get?_filtersOf, others]

end

/-- Resetting gives the defaults, whatever the query was. -/
theorem apply_reset (valid : view.Valid) (query : Query) :
    view.apply query .reset = view.defaults := by
  have canonical : view.Canonical view.defaults := decode_canonical valid .empty
  calc view.apply query .reset
      = view.normalize { view.defaults with pageIndex := 0 } := rfl
    _ = view.normalize view.defaults := rfl
    _ = view.defaults := normalize_of_canonical valid canonical

/-! ## The law of edits -/

/-- An edit that changes more than the page shows the first page. -/
theorem pageIndex_apply_of_ne (valid : view.Valid) (canonical : view.Canonical query) (edit : Edit)
    (changes : { view.apply query edit with pageIndex := query.pageIndex } ≠ query) :
    (view.apply query edit).pageIndex = 0 := by
  cases resets : edit.resetsPage with
  | true =>
    by_cases ignored : view.Ignores edit
    · rw [apply_of_ignores valid canonical ignored] at changes
      exact absurd rfl changes
    · exact pageIndex_apply valid resets ignored
  | false =>
    cases edit with
    | goToPage index =>
      rw [apply_goToPage valid canonical] at changes
      exact absurd rfl changes
    | nextPage =>
      rw [apply_nextPage valid canonical] at changes
      exact absurd rfl changes
    | previousPage =>
      rw [apply_previousPage valid canonical] at changes
      exact absurd rfl changes
    | setSearch | sortBy | setDirection | setFilter | clearFilters | setPageSize | reset =>
      cases resets

/-- Every edit of a canonical query changes what it is for and nothing else, but for the page: that
goes back to the first one, unless the edit turns pages or is ignored. -/
theorem apply_framed (valid : view.Valid) (canonical : view.Canonical query) :
    view.Framed query where
  goToPage := apply_goToPage valid canonical
  nextPage := apply_nextPage valid canonical
  previousPage := apply_previousPage valid canonical
  ignored := fun _ => apply_of_ignores valid canonical
  reset := apply_reset valid query
  setSearch := apply_setSearch valid canonical
  sortAgain := fun _ => apply_sortBy_again valid canonical
  sortElse := fun _ => apply_sortBy_else valid canonical
  setDirection := apply_setDirection valid canonical
  setFilter := fun _ values isKey =>
    apply_setFilter valid canonical (List.contains_iff_mem.2 isKey) values
  clearFilters := apply_clearFilters valid canonical
  setPageSize := fun _ => apply_setPageSize valid canonical
  resets := fun _ => pageIndex_apply valid
  first := pageIndex_apply_of_ne valid canonical

/-- Edits on the last page with a number: the next page is the same one, a page size that is not
allowed does not go back to the first page, and a filter that is set does. -/
theorem apply_framed_last_page :
    let view := preset "executions" .execution
    let query := view.decode
      (KeyMap.ofList [("page", "4294967295"), ("q", "x"), ("status", "running")])
    view.Valid ∧ view.Canonical query ∧ view.Framed query ∧ query.pageIndex = 4294967294 ∧
      view.apply query .nextPage = query ∧
      view.Ignores (.setPageSize 7) ∧ view.apply query (.setPageSize 7) = query ∧
      view.apply query (.setFilter "version" [" 1 ,2"]) =
        { search := some "x", sortField := some "created_at", descending := true
          filters := KeyMap.ofList [("status", ["running"]), ("version", ["1", "2"])]
          pageIndex := 0, pageSize := 25 } := by
  intro view query
  have valid : view.Valid := by decide
  have canonical : view.Canonical query := decode_canonical valid _
  have ignored : view.Ignores (.setPageSize 7) := show (7 : UInt32) ∉ [10, 25, 50, 100] by decide
  have framed := apply_framed valid canonical
  refine ⟨valid, canonical, framed, ?_, ?_, ignored, framed.ignored _ ignored, ?_⟩
  · decide
  · rw [framed.nextPage]
    decide
  · decide

end QuerySync.View
