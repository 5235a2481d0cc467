import Mathlib.Data.List.Perm.Subperm
import QuerySync.Proofs.View.Reencoding

/-!
# A view writes no more than it must

Many locations show one query.  Whatever a field says that is not the default, some parameter has
to say, so a parameter that a view writes is there in every location that shows the query
(`encode_minimal`).

The sort is the exception.  A direction counts without its field, when the field is the view's
own, and the view names the field then all the same.  So nothing is said of locations that have a
direction and no field.
-/

namespace QuerySync

namespace KeyMap

variable {α : Type} {m : KeyMap α} {key : String}

theorem mem_keys_iff : key ∈ m.keys ↔ m.contains key = true := by
  constructor
  · intro member
    obtain ⟨⟨_, value⟩, isEntry, rfl⟩ := List.mem_map.1 member
    rw [contains, get?_of_mem_entries isEntry]
    rfl
  · intro present
    rw [contains, Option.isSome_iff_exists] at present
    obtain ⟨value, found⟩ := present
    exact List.mem_map.2 ⟨(key, value), mem_entries_of_get? found, rfl⟩

theorem nodup_keys (m : KeyMap α) : m.keys.Nodup := by
  refine List.pairwise_map.2 (m.sorted.imp ?_)
  intro entry later less same
  exact String.lt_irrefl _ (same ▸ less)

end KeyMap

namespace View

/-- The names of the parameters that belong to a view. -/
def ownNames (view : View) (params : Params) : List String := params.keys.filter view.owns

variable {view : View} {params : Params} {key : String}

theorem mem_ownNames_iff :
    key ∈ view.ownNames params ↔ params.contains key = true ∧ view.owns key = true := by
  rw [ownNames, List.mem_filter, KeyMap.mem_keys_iff]

theorem nodup_ownNames (view : View) (params : Params) : (view.ownNames params).Nodup :=
  params.nodup_keys.filter _

/-! ## What a location has to say -/

/-- What is read from a parameter is not read from nothing. -/
theorem contains_of_bind {β : Type} {read : String → Option β} {value : β}
    (reads : (params.get? key).bind read = some value) : params.contains key = true := by
  obtain ⟨text, given, -⟩ := Option.bind_eq_some_iff.1 reads
  rw [KeyMap.contains, given]
  rfl

/-- What is not the default was read. -/
theorem contains_of_getD_ne {β : Type} {read : String → Option β} {default : β}
    (differs : ((params.get? key).bind read).getD default ≠ default) :
    params.contains key = true := by
  cases reads : (params.get? key).bind read with
  | none =>
    rw [reads] at differs
    exact absurd rfl differs
  | some value => exact contains_of_bind reads

/-- A filter that is shown has a parameter of its own. -/
theorem contains_filter {values : List String}
    (shown : (view.decode params).filters.get? key = some values) :
    params.contains key = true := by
  obtain ⟨-, -, text, given, -⟩ := get?_filtersOf_eq_some shown
  rw [KeyMap.contains, given]
  rfl

/-- A direction that is not the default one of its field is spelled out. -/
theorem contains_descending (turned : view.Turned (view.decode params)) :
    params.contains ParamName.descending = true := by
  obtain ⟨field, named, differs⟩ := turned
  have isNamed : view.sortFieldOr (textParam? params ParamName.sortBy) = some field := named
  have shown : (view.decode params).descending = view.direction params field := by
    simp [decode, isNamed]
  rw [shown] at differs
  exact contains_of_getD_ne differs

/-- A sort that is not the view's own has a field or a direction. -/
theorem contains_sortBy_or (resorted : view.Resorted (view.decode params)) :
    params.contains ParamName.sortBy = true ∨ params.contains ParamName.descending = true := by
  rcases resorted with otherField | turned
  · left
    cases named : textParam? params ParamName.sortBy with
    | some field => exact contains_of_bind named
    | none =>
      -- without a name the field would be the view's own
      have isOwn : (view.decode params).sortField = view.defaultSort.map (·.field) := by
        simp [decode, named, sortFieldOr]
      exact absurd isOwn otherField
  · right
    exact contains_descending turned

/-! ## What a view writes -/

section
variable (valid : view.Valid) {query : Query} {previous : Params}
include valid

/-- A direction is written only where the sort needs it said. -/
theorem turned_of_contains
    (written : (view.encode query previous).contains ParamName.descending = true) :
    view.Turned (view.normalize query) := by
  rw [KeyMap.contains, get?_encode_descending valid, Option.isSome_map] at written
  obtain ⟨field, isKept⟩ := Option.isSome_iff_exists.1 written
  obtain ⟨named, pinned⟩ := Option.filter_eq_some_iff.1 isKept
  exact (turned_iff named).2 pinned

/-- A field is written only where it is not understood. -/
theorem resorted_of_contains
    (written : (view.encode query previous).contains ParamName.sortBy = true) :
    view.Resorted (view.normalize query) := by
  rw [KeyMap.contains, get?_encode_sortBy valid] at written
  obtain ⟨field, isKept⟩ := Option.isSome_iff_exists.1 written
  obtain ⟨named, differs⟩ := Option.filter_eq_some_iff.1 isKept
  exact (resorted_iff named).2 differs

theorem filter_of_contains (isFilter : view.isFilterKey key = true)
    (written : (view.encode query previous).contains key = true) :
    ∃ values, (view.normalize query).filters.get? key = some values := by
  rw [KeyMap.contains, get?_encode_filter valid query previous isFilter, Option.isSome_map]
    at written
  exact Option.isSome_iff_exists.1 written

/-- A page is written only past the first. -/
theorem pageIndex_of_contains
    (written : (view.encode query previous).contains ParamName.page = true) :
    (view.normalize query).pageIndex ≠ 0 := by
  intro first
  rw [KeyMap.contains, get?_encode_page valid, if_pos first] at written
  cases written

/-- A size is written only where it is not the default. -/
theorem pageSize_of_contains
    (written : (view.encode query previous).contains ParamName.pageSize = true) :
    (view.normalize query).pageSize ≠ view.defaultPageSize := by
  intro isDefault
  rw [KeyMap.contains, get?_encode_pageSize valid, if_pos isDefault] at written
  cases written

/-- What a view writes is in every location that shows the query. -/
theorem contains_of_contains_encode (shown : view.decode params = view.normalize query)
    (named : params.contains ParamName.descending = true →
      params.contains ParamName.sortBy = true)
    (owned : view.owns key = true)
    (written : (view.encode query previous).contains key = true) :
    params.contains key = true := by
  rcases owns_iff.1 owned with reserved | isFilter
  · simp only [ParamName.reserved, List.mem_cons, List.not_mem_nil, or_false] at reserved
    rcases reserved with rfl | rfl | rfl | rfl | rfl
    · rw [KeyMap.contains, get?_encode_search valid, ← shown] at written
      obtain ⟨text, isShown⟩ := Option.isSome_iff_exists.1 written
      exact contains_of_bind isShown
    · have resorted := resorted_of_contains valid written
      rw [← shown] at resorted
      exact (contains_sortBy_or resorted).elim id named
    · have turned := turned_of_contains valid written
      rw [← shown] at turned
      exact contains_descending turned
    · have later := pageIndex_of_contains valid written
      rw [← shown] at later
      exact contains_of_getD_ne later
    · have differs := pageSize_of_contains valid written
      rw [← shown] at differs
      exact contains_of_getD_ne differs
  · obtain ⟨values, isSet⟩ := filter_of_contains valid isFilter written
    rw [← shown] at isSet
    exact contains_filter isSet

end

/-- A location that shows a query, and has no direction without a field, has every parameter that
the view writes for the query, and so no fewer of them. -/
theorem encode_minimal (valid : view.Valid) (query : Query) (previous params : Params)
    (shown : view.decode params = view.normalize query)
    (named : params.contains ParamName.descending = true →
      params.contains ParamName.sortBy = true) :
    (∀ key, view.owns key = true → (view.encode query previous).contains key = true →
      params.contains key = true) ∧
    (view.ownNames (view.encode query previous)).length ≤ (view.ownNames params).length := by
  have needed : ∀ key, view.owns key = true → (view.encode query previous).contains key = true →
      params.contains key = true :=
    fun key => contains_of_contains_encode valid shown named
  refine ⟨needed, (List.Nodup.subperm (nodup_ownNames view _) ?_).length_le⟩
  intro key member
  obtain ⟨written, owned⟩ := mem_ownNames_iff.1 member
  exact mem_ownNames_iff.2 ⟨needed key owned written, owned⟩

/-- A location with a size that is not allowed, a blank search and odd spellings.  The direction is
not the one of the view, so its field is written too, which is the view's own. -/
theorem encode_minimal_executions :
    let view := preset "executions" .execution
    let params := KeyMap.ofList [("descending", "false"), ("page", "+03"), ("q", " "),
      ("rows_per_page", "7"), ("sort_by", "created_at"), ("status", "running,,queued")]
    let written := KeyMap.ofList [("descending", "false"), ("page", "3"),
      ("sort_by", "created_at"), ("status", "running,queued")]
    let query := view.decode written
    view.Valid ∧ view.decode params = view.normalize query ∧
      params.contains ParamName.descending = true ∧ params.contains ParamName.sortBy = true ∧
      view.encode query .empty = written ∧
      (∀ key, view.owns key = true → written.contains key = true →
        params.contains key = true) ∧
      (view.ownNames written).length = 4 ∧ (view.ownNames params).length = 6 := by
  intro view params written query
  have valid : view.Valid := by decide
  have shown : view.decode params = view.normalize query := by decide
  have named : params.contains ParamName.sortBy = true := by decide
  have isWritten : view.encode query .empty = written := by decide
  obtain ⟨needed, -⟩ := encode_minimal valid query .empty params shown fun _ => named
  rw [isWritten] at needed
  refine ⟨valid, shown, ?_, named, isWritten, needed, ?_, ?_⟩
  · decide
  · decide
  · decide

end View

end QuerySync
