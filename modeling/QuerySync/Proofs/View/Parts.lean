import QuerySync.Proofs.View.Encoding
import QuerySync.Proofs.View.Frame

/-!
# Parts of a query

A query has a search, a sort, filters, a page and a page size.  Each part has parameters of its own,
from which a view reads it (`View.namesOf`), and edits of its own (`Edit.Addresses`).

The parts keep to themselves.  What parameters show of a part depends on the parameters of that part
alone (`part_decode_congr`).  What an edit makes of a part depends on that part alone
(`part_apply_congr`), and a part that the edit is not for stays (`part_apply_of_not_addresses`).
The page is the exception in the last two, since most edits go back to the first one.
-/

namespace QuerySync

namespace Query

/-- A part of a query. -/
inductive Part where
  /-- The text searched for. -/
  | search
  /-- The field sorted on, and the direction. -/
  | sort
  /-- One filter. -/
  | filter (key : String)
  /-- The page. -/
  | page
  /-- The number of rows of a page. -/
  | pageSize
deriving DecidableEq, Repr

/-- What a part says. -/
def Part.Content : Part → Type
  | search => Option String
  | sort => Option String × Bool
  | filter _ => Option (List String)
  | page => UInt32
  | pageSize => UInt32

/-- What a query says in a part. -/
def part (query : Query) : (part : Part) → part.Content
  | .search => query.search
  | .sort => (query.sortField, query.descending)
  | .filter key => query.filters.get? key
  | .page => query.pageIndex
  | .pageSize => query.pageSize

/-- A query is made of its parts. -/
theorem ext_part {query other : Query} (same : ∀ part, query.part part = other.part part) :
    query = other := by
  obtain ⟨sortField, descending⟩ := Prod.ext_iff.1 (same .sort)
  exact Query.ext (same .search) sortField descending (KeyMap.ext fun key => same (.filter key))
    (same .page) (same .pageSize)

end Query

open Query (Part)

/-- Whether an edit is for a part.  That most edits also go back to the first page is left aside. -/
def Edit.Addresses : Edit → Part → Prop
  | .setSearch _, part => part = .search
  | .sortBy _, part | .setDirection _, part => part = .sort
  | .setFilter key _, part => part = .filter key
  | .clearFilters, part => ∃ key, part = .filter key
  | .goToPage _, part | .nextPage, part | .previousPage, part => part = .page
  | .setPageSize _, part => part = .pageSize
  | .reset, _ => True

theorem Edit.resetsPage_of_not_addresses {edit : Edit} (stays : ¬ edit.Addresses .page) :
    edit.resetsPage = true := by
  cases edit with
  | goToPage | nextPage | previousPage => exact absurd rfl stays
  | setSearch | sortBy | setDirection | setFilter | clearFilters | setPageSize | reset => rfl

namespace View

/-- The parameters that a view reads a part from. -/
def namesOf (view : View) : Part → List String
  | .search => [ParamName.search]
  | .sort => [ParamName.sortBy, ParamName.descending]
  | .filter key => if view.isFilterKey key then [key] else []
  | .page => [ParamName.page]
  | .pageSize => [ParamName.pageSize]

variable {view : View} {params other : Params} {query twin : Query} {edit : Edit} {part : Part}

/-! ## Reading a part -/

theorem mem_namesOf_filter {name key : String} :
    name ∈ view.namesOf (.filter key) ↔ name = key ∧ view.isFilterKey key = true := by
  rw [namesOf]
  cases isFilter : view.isFilterKey key with
  | true => simp
  | false => simp

theorem owns_of_mem_namesOf {name : String} (member : name ∈ view.namesOf part) :
    view.owns name = true := by
  cases part with
  | filter key =>
    obtain ⟨rfl, isFilter⟩ := mem_namesOf_filter.1 member
    rw [owns, isFilter, Bool.or_true]
  | sort =>
    rcases List.mem_cons.1 member with rfl | member
    · exact owns_of_mem_reserved (by decide)
    · obtain rfl := List.mem_singleton.1 member
      exact owns_of_mem_reserved (by decide)
  | search | page | pageSize =>
    obtain rfl := List.mem_singleton.1 member
    exact owns_of_mem_reserved (by decide)

/-- What parameters show of a part depends on its own parameters alone. -/
theorem part_decode_congr (same : ∀ name ∈ view.namesOf part, params.get? name = other.get? name) :
    (view.decode params).part part = (view.decode other).part part := by
  cases part with
  | search =>
    exact congrArg (·.bind Text.nonblank?) (same ParamName.search (List.mem_singleton_self _))
  | sort =>
    have field := same ParamName.sortBy (by simp [namesOf])
    have direction := same ParamName.descending (by simp [namesOf])
    have directions : view.direction params = view.direction other := by
      funext name
      rw [View.direction, View.direction, direction]
    simp only [Query.part, decode, textParam?, field, directions]
    rfl
  | filter key =>
    show (view.filtersOf _ params).get? key = (view.filtersOf _ other).get? key
    rw [get?_filtersOf, get?_filtersOf]
    split
    next isFilter => rw [same key (mem_namesOf_filter.2 ⟨rfl, isFilter⟩)]
    next => rfl
  | page =>
    exact congrArg (fun text? => (text?.bind pageIndex?).getD 0)
      (same ParamName.page (List.mem_singleton_self _))
  | pageSize =>
    exact congrArg (fun text? => (text?.bind view.pageSize?).getD view.defaultPageSize)
      (same ParamName.pageSize (List.mem_singleton_self _))

/-! ## Editing a part -/

section
variable (valid : view.Valid) (canonical : view.Canonical query)
include valid canonical

/-- An edit leaves the parts that it is not for. -/
theorem part_apply_of_not_addresses (unaddressed : ¬ edit.Addresses part) (notPage : part ≠ .page) :
    (view.apply query edit).part part = query.part part := by
  by_cases ignored : view.Ignores edit
  · rw [apply_of_ignores valid canonical ignored]
  cases edit with
  | setSearch text =>
    rw [apply_setSearch valid canonical]
    cases part with
    | search => exact absurd rfl unaddressed
    | page => exact absurd rfl notPage
    | sort | filter | pageSize => rfl
  | sortBy field =>
    cases part with
    | sort => exact absurd rfl unaddressed
    | page => exact absurd rfl notPage
    | search | filter | pageSize =>
      by_cases sorted : query.sortField = some field
      · rw [apply_sortBy_again valid canonical sorted]
        rfl
      · rw [apply_sortBy_else valid canonical (Bool.eq_false_iff.2 ignored) sorted]
        rfl
  | setDirection descending =>
    rw [apply_setDirection valid canonical]
    cases part with
    | sort => exact absurd rfl unaddressed
    | page => exact absurd rfl notPage
    | search | filter | pageSize => rfl
  | setFilter key values =>
    have isFilter : view.isFilterKey key = true :=
      List.contains_iff_mem.2 (Decidable.not_not.1 ignored)
    obtain ⟨filters, applies, found⟩ := apply_setFilter valid canonical isFilter values
    rw [applies]
    cases part with
    | filter other =>
      have different : other ≠ key := fun same => unaddressed (congrArg Part.filter same)
      exact (found other).trans (if_neg different)
    | page => exact absurd rfl notPage
    | search | sort | pageSize => rfl
  | clearFilters =>
    rw [apply_clearFilters valid canonical]
    cases part with
    | filter key => exact absurd ⟨key, rfl⟩ unaddressed
    | page => exact absurd rfl notPage
    | search | sort | pageSize => rfl
  | setPageSize size =>
    rw [apply_setPageSize valid canonical (Decidable.not_not.1 ignored)]
    cases part with
    | pageSize => exact absurd rfl unaddressed
    | page => exact absurd rfl notPage
    | search | sort | filter => rfl
  | goToPage index =>
    rw [apply_goToPage valid canonical]
    cases part with
    | page => exact absurd rfl notPage
    | search | sort | filter | pageSize => rfl
  | nextPage =>
    rw [apply_nextPage valid canonical]
    cases part with
    | page => exact absurd rfl notPage
    | search | sort | filter | pageSize => rfl
  | previousPage =>
    rw [apply_previousPage valid canonical]
    cases part with
    | page => exact absurd rfl notPage
    | search | sort | filter | pageSize => rfl
  | reset => exact absurd trivial unaddressed

/-- What an edit makes of a part depends on that part alone. -/
theorem part_apply_congr (twinCanonical : view.Canonical twin)
    (same : query.part part = twin.part part) (notPage : part ≠ .page) :
    (view.apply query edit).part part = (view.apply twin edit).part part := by
  by_cases ignored : view.Ignores edit
  · rw [apply_of_ignores valid canonical ignored, apply_of_ignores valid twinCanonical ignored,
      same]
  by_cases unaddressed : ¬ edit.Addresses part
  · rw [part_apply_of_not_addresses valid canonical unaddressed notPage,
      part_apply_of_not_addresses valid twinCanonical unaddressed notPage, same]
  have addressed := Classical.not_not.1 unaddressed
  cases edit with
  | setSearch text =>
    obtain rfl := addressed
    rw [apply_setSearch valid canonical, apply_setSearch valid twinCanonical]
    rfl
  | sortBy field =>
    obtain rfl := addressed
    obtain ⟨sameField, sameDirection⟩ := Prod.ext_iff.1 same
    have sameField : query.sortField = twin.sortField := sameField
    by_cases sorted : query.sortField = some field
    · rw [apply_sortBy_again valid canonical sorted,
        apply_sortBy_again valid twinCanonical (sameField ▸ sorted)]
      exact Prod.ext sameField (congrArg Bool.not sameDirection)
    · have visible := Bool.eq_false_iff.2 ignored
      rw [apply_sortBy_else valid canonical visible sorted,
        apply_sortBy_else valid twinCanonical visible (sameField ▸ sorted)]
      rfl
  | setDirection descending =>
    obtain rfl := addressed
    have sameField : query.sortField = twin.sortField := congrArg Prod.fst same
    rw [apply_setDirection valid canonical, apply_setDirection valid twinCanonical]
    show (query.sortField, query.sortField.isSome && descending) = _
    rw [sameField]
    rfl
  | setFilter key values =>
    obtain rfl := addressed
    have isFilter : view.isFilterKey key = true :=
      List.contains_iff_mem.2 (Decidable.not_not.1 ignored)
    obtain ⟨filters, applies, found⟩ := apply_setFilter valid canonical isFilter values
    obtain ⟨filters', applies', found'⟩ := apply_setFilter valid twinCanonical isFilter values
    rw [applies, applies']
    exact ((found key).trans (if_pos rfl)).trans ((found' key).trans (if_pos rfl)).symm
  | clearFilters =>
    obtain ⟨key, rfl⟩ := addressed
    rw [apply_clearFilters valid canonical, apply_clearFilters valid twinCanonical]
    rfl
  | setPageSize size =>
    obtain rfl := addressed
    have allowed := Decidable.not_not.1 ignored
    rw [apply_setPageSize valid canonical allowed, apply_setPageSize valid twinCanonical allowed]
    rfl
  | goToPage | nextPage | previousPage => exact absurd addressed notPage
  | reset => rw [apply_reset valid, apply_reset valid]

end

end View

end QuerySync
