import QuerySync.View.Edit
import QuerySync.View.Problem

/-!
# Canonical queries

A location can show some queries only: a search that can be seen, a sort field whenever the
view sorts by default, filters of the view with at least one token each, a page that has a
number, a page size that is allowed.  `View.Canonical` says so of a query.

Whatever is read from parameters is canonical (`decode_canonical`), and so is every normal
form (`normalize_canonical`) and every result of an edit (`apply_canonical`).  The normal form
of a canonical query is the query itself (`normalize_of_canonical`).
-/

namespace QuerySync.View

/-- A query in the form that a location can show. -/
structure Canonical (view : View) (query : Query) : Prop where
  /-- The search can be seen. -/
  search : ∀ text ∈ query.search, Text.isBlank text = false
  /-- The sort field can be seen. -/
  sortField : ∀ field ∈ query.sortField, Text.isBlank field = false
  /-- A view that sorts by default always sorts. -/
  sorted : view.defaultSort.isSome → query.sortField.isSome
  /-- There is no direction without a field. -/
  descending : query.sortField = none → query.descending = false
  /-- Filters are those of the view, and have tokens. -/
  filters : ∀ {key values}, query.filters.get? key = some values →
    view.isFilterKey key = true ∧ values ≠ [] ∧ ∀ value ∈ values, Text.IsToken value
  /-- The page has a number. -/
  pageIndex : query.pageIndex ≤ maxPageIndex
  /-- The page size is allowed. -/
  pageSize : query.pageSize ∈ view.allowedPageSizes

variable {view : View}

/-! ## Single fields -/

/-- A valid view allows some size, so the fallback list of sizes is never used. -/
theorem Valid.pageSizes_eq (valid : view.Valid) : view.pageSizes = view.allowedPageSizes := by
  rw [View.pageSizes, if_neg valid.allowedPageSizes_ne_nil]

/-- A field that is asked for or the default one: neither is blank. -/
theorem visible_of_mem_sortFieldOr (valid : view.Valid) {field? : Option String}
    (visible : ∀ field ∈ field?, Text.isBlank field = false) :
    ∀ field ∈ view.sortFieldOr field?, Text.isBlank field = false := by
  intro field member
  cases field? with
  | some named =>
    obtain rfl : named = field := by simpa [sortFieldOr] using member
    exact visible named rfl
  | none =>
    obtain ⟨sort, given, rfl⟩ : ∃ sort, view.defaultSort = some sort ∧ sort.field = field := by
      simpa [sortFieldOr] using member
    exact valid.defaultSort sort given

theorem isSome_sortFieldOr (sorts : view.defaultSort.isSome) (field? : Option String) :
    (view.sortFieldOr field?).isSome := by
  obtain ⟨sort, given⟩ := Option.isSome_iff_exists.1 sorts
  cases field? <;> simp [sortFieldOr, given]

/-- Without a field that is named, and without a default, there is no sort. -/
theorem sortFieldOr_of_sorted {field? : Option String}
    (sorted : view.defaultSort.isSome → field?.isSome) : view.sortFieldOr field? = field? := by
  cases field? with
  | some field => rfl
  | none =>
    cases given : view.defaultSort with
    | none => simp [sortFieldOr, given]
    | some sort => simp [given] at sorted

/-- Only declared keys with some value are kept, each with what `read` makes of its value. -/
theorem get?_filtersOf {α : Type} (read : α → List String) (filters : KeyMap α) (key : String) :
    (view.filtersOf read filters).get? key =
      if view.isFilterKey key then (filters.get? key).bind fun value => nonempty? (read value)
      else none := by
  rw [filtersOf, KeyMap.get?_filterMap]
  split
  · rfl
  · cases filters.get? key <;> rfl

/-- Where a kept filter comes from. -/
theorem get?_filtersOf_eq_some {α : Type} {read : α → List String} {filters : KeyMap α}
    {key : String} {values : List String}
    (found : (view.filtersOf read filters).get? key = some values) :
    view.isFilterKey key = true ∧ values ≠ [] ∧
      ∃ value, filters.get? key = some value ∧ read value = values := by
  rw [get?_filtersOf] at found
  split at found
  next isFilter =>
    obtain ⟨value, given, kept⟩ := Option.bind_eq_some_iff.1 found
    obtain ⟨same, nonempty⟩ := nonempty?_eq_some_iff.1 kept
    exact ⟨isFilter, nonempty, value, given, same⟩
  next => exact nomatch found

/-- Filters that hold tokens already are kept as they are. -/
theorem filtersOf_eq_self {read : List String → List String} {filters : KeyMap (List String)}
    (kept : ∀ {key values}, filters.get? key = some values →
      view.isFilterKey key = true ∧ values ≠ [] ∧ read values = values) :
    view.filtersOf read filters = filters := by
  ext1 key
  rw [get?_filtersOf]
  cases found : filters.get? key with
  | none => simp
  | some values =>
    obtain ⟨isFilter, nonempty, same⟩ := kept found
    simp only [isFilter, if_true, Option.bind_some, same]
    exact nonempty?_eq_some_iff.2 ⟨rfl, nonempty⟩

theorem toNat_min (a b : UInt32) : (min a b).toNat = min a.toNat b.toNat := by
  show (if a ≤ b then a else b).toNat = _
  split
  next less => exact (Nat.min_eq_left (UInt32.le_iff_toNat_le.1 less)).symm
  next notLess =>
    have greater := mt UInt32.le_iff_toNat_le.2 notLess
    exact (Nat.min_eq_right (by omega)).symm

/-- An index that is read is that of a page whose number fits in a word. -/
theorem pageIndex?_le {text : String} {index : UInt32} (read : pageIndex? text = some index) :
    index ≤ maxPageIndex := by
  obtain ⟨number, filtered, rfl⟩ := Option.map_eq_some_iff.1 read
  have positive : 1 ≤ number := by simpa using (Option.filter_eq_some_iff.1 filtered).2
  have below := number.toNat_lt
  have fromOne : 1 ≤ number.toNat := by simpa using UInt32.le_iff_toNat_le.1 positive
  have number' : maxPageIndex.toNat = 4294967294 := rfl
  rw [UInt32.le_iff_toNat_le, UInt32.toNat_sub_of_le _ _ positive, number']
  have one : (1 : UInt32).toNat = 1 := rfl
  omega

theorem pageSize?_mem {text : String} {size : UInt32} (read : view.pageSize? text = some size) :
    size ∈ view.pageSizes := by
  simpa using (Option.filter_eq_some_iff.1 read).2

/-! ## Canonical results -/

/-- What parameters show is canonical. -/
theorem decode_canonical (valid : view.Valid) (params : Params) :
    view.Canonical (view.decode params) where
  search := fun _ member => (Text.bind_nonblank?_eq_some_iff.1 member).2
  sortField := visible_of_mem_sortFieldOr valid fun _ member =>
    (Text.bind_nonblank?_eq_some_iff.1 member).2
  sorted := fun sorts => isSome_sortFieldOr sorts _
  descending := fun unsorted => by
    have unsorted : view.sortFieldOr (textParam? params ParamName.sortBy) = none := unsorted
    simp [decode, unsorted]
  filters := fun found => by
    obtain ⟨isFilter, nonempty, text, -, rfl⟩ := get?_filtersOf_eq_some found
    exact ⟨isFilter, nonempty, fun _ member => Text.isToken_of_mem_tokens member⟩
  pageIndex := by
    simp only [decode]
    cases read : (params.get? ParamName.page).bind pageIndex? with
    | none => decide
    | some index =>
      obtain ⟨text, -, numbered⟩ := Option.bind_eq_some_iff.1 read
      exact pageIndex?_le numbered
  pageSize := by
    simp only [decode]
    cases read : (params.get? ParamName.pageSize).bind view.pageSize? with
    | none => exact valid.defaultPageSize
    | some size =>
      obtain ⟨text, -, allowed⟩ := Option.bind_eq_some_iff.1 read
      exact valid.pageSizes_eq ▸ pageSize?_mem allowed

/-- A normal form is canonical, whatever it was made from. -/
theorem normalize_canonical (valid : view.Valid) (query : Query) :
    view.Canonical (view.normalize query) where
  search := fun _ member => (Text.bind_nonblank?_eq_some_iff.1 member).2
  sortField := visible_of_mem_sortFieldOr valid fun _ member =>
    (Text.bind_nonblank?_eq_some_iff.1 member).2
  sorted := fun sorts => isSome_sortFieldOr sorts _
  descending := fun unsorted => by
    have unsorted : view.sortFieldOr (query.sortField.bind Text.nonblank?) = none := unsorted
    simp [normalize, unsorted]
  filters := fun found => by
    obtain ⟨isFilter, nonempty, texts, -, rfl⟩ := get?_filtersOf_eq_some found
    exact ⟨isFilter, nonempty, fun _ member => Text.isToken_of_mem_allTokens member⟩
  pageIndex := by
    rw [UInt32.le_iff_toNat_le]
    simp only [normalize, toNat_min]
    omega
  pageSize := by
    simp only [normalize, valid.pageSizes_eq]
    split
    next allowed => simpa using allowed
    next => exact valid.defaultPageSize

/-- A canonical query is its own normal form. -/
theorem normalize_of_canonical (valid : view.Valid) {query : Query}
    (canonical : view.Canonical query) : view.normalize query = query := by
  have search := Text.bind_nonblank?_of_forall_visible canonical.search
  have sortField : view.sortFieldOr (query.sortField.bind Text.nonblank?) = query.sortField := by
    rw [Text.bind_nonblank?_of_forall_visible canonical.sortField]
    exact sortFieldOr_of_sorted canonical.sorted
  have descending : (query.sortField.isSome && query.descending) = query.descending := by
    cases sorted : query.sortField with
    | none => rw [canonical.descending sorted, Bool.and_false]
    | some field => rfl
  have filters : view.filtersOf Text.allTokens query.filters = query.filters :=
    filtersOf_eq_self fun found =>
      let ⟨isFilter, nonempty, tokens⟩ := canonical.filters found
      ⟨isFilter, nonempty, Text.allTokens_of_forall_isToken tokens⟩
  have pageIndex : min query.pageIndex maxPageIndex = query.pageIndex := by
    have bounded := UInt32.le_iff_toNat_le.1 canonical.pageIndex
    rw [← UInt32.toNat_inj, toNat_min]
    omega
  have pageSize : view.pageSizes.contains query.pageSize = true := by
    rw [valid.pageSizes_eq]
    simpa using canonical.pageSize
  simp only [normalize, search, sortField, descending, filters, pageIndex, pageSize, if_true]

/-- An edit gives a canonical query, whatever it is done to. -/
theorem apply_canonical (valid : view.Valid) (query : Query) (edit : Edit) :
    view.Canonical (view.apply query edit) :=
  normalize_canonical valid _

end QuerySync.View
