import QuerySync.Proofs.View.RoundTrip

/-!
# Writing what parameters show onto themselves

Parameters show a query, and that query may be written onto them again.  What this leaves of
them is told parameter by parameter (`View.Sparse`).  Parameters of others stay.  A search, a
filter, a page or a page size that says something stays with its text, also an odd one.  A sort
stays if it is not the view's own, and then its field is named even if it was not before, since
a direction is never written without its field.

Of two queries that are written one after the other, nothing is left of the first, as long as it
leaves the fields that the second one does not change (`encode_encode_of_spares`).  So a location
that was written by a view has no more to lose: whichever query was written onto whichever
parameters, writing it again changes nothing (`encode_encode`).
-/

namespace QuerySync.View

/-- A parameter is there under a condition only, and then with the text that it had. -/
structure KeepsText (params written : Params) (key : String) (condition : Prop) : Prop where
  /-- The text is the old one. -/
  kept : condition → ∃ text, params.get? key = some text ∧ written.get? key = some text
  /-- Otherwise there is no text. -/
  dropped : ¬ condition → written.get? key = none

/-- The direction of a query is not the default one of its field. -/
def Turned (view : View) (query : Query) : Prop :=
  ∃ field ∈ query.sortField, query.descending ≠ view.defaultDirection field

/-- The sort of a query is not the one of the view. -/
def Resorted (view : View) (query : Query) : Prop :=
  query.sortField ≠ view.defaultSort.map (·.field) ∨ view.Turned query

/-- How the sort of the query that parameters show is written onto them. -/
structure SparseSort (view : View) (params written : Params) : Prop where
  /-- The field of another sort than the view's own is spelled as before, or named. -/
  named : view.Resorted (view.decode params) → ∃ field ∈ (view.decode params).sortField,
    written.get? ParamName.sortBy = some ((textParam? params ParamName.sortBy).getD field)
  /-- The field of the view's own sort is not there. -/
  unnamed : ¬ view.Resorted (view.decode params) → written.get? ParamName.sortBy = none
  /-- A direction that is turned is spelled out. -/
  turned : view.Turned (view.decode params) →
    written.get? ParamName.descending = some (directionText (view.decode params).descending)
  /-- Any other direction is not there. -/
  unturned : ¬ view.Turned (view.decode params) → written.get? ParamName.descending = none

/-- What is left of parameters when the query that they show is written onto them. -/
structure Sparse (view : View) (params written : Params) : Prop where
  /-- What is not the view's stays as it is. -/
  foreign : ∀ key, view.owns key = false → written.get? key = params.get? key
  /-- A search stays. -/
  search : KeepsText params written ParamName.search (view.decode params).search.isSome
  /-- A filter stays if it has values. -/
  filters : ∀ key, view.isFilterKey key = true →
    KeepsText params written key ((view.decode params).filter key ≠ [])
  /-- A page stays unless it is the first. -/
  page : KeepsText params written ParamName.page (0 < (view.decode params).pageIndex)
  /-- A page size stays unless it is the default one. -/
  pageSize : KeepsText params written ParamName.pageSize
    ((view.decode params).pageSize ≠ view.defaultPageSize)
  /-- A sort stays if it is not the view's own. -/
  sort : SparseSort view params written

variable {view : View}

/-! ## Conditions -/

/-- Beside a field, the direction is said exactly where the encoder pins it. -/
theorem turned_iff {query : Query} {field : String} (named : query.sortField = some field) :
    view.Turned query ↔ view.pinned query field = true := by
  simp [Turned, pinned, named]

theorem not_turned_of_unsorted {query : Query} (unsorted : query.sortField = none) :
    ¬ view.Turned query := by
  rintro ⟨field, named, -⟩
  rw [unsorted] at named
  exact nomatch named

theorem isDefaultField_iff {field : String} :
    view.isDefaultField field = true ↔ view.defaultSort.map (·.field) = some field := by
  cases given : view.defaultSort with
  | none => simp [isDefaultField, given]
  | some sort => simp [isDefaultField, given]

/-- A field is said where it is not the default one, or where its direction is pinned. -/
theorem resorted_iff {query : Query} {field : String} (named : query.sortField = some field) :
    view.Resorted query ↔
      (view.pinned query field || !view.isDefaultField field) = true := by
  rw [Resorted, turned_iff named, named, Bool.or_eq_true, Bool.not_eq_true', or_comm,
    ← Bool.not_eq_true, isDefaultField_iff, ne_comm]

/-- A canonical query without a sort is one of a view without a sort. -/
theorem not_resorted_of_unsorted {query : Query} (canonical : view.Canonical query)
    (unsorted : query.sortField = none) : ¬ view.Resorted query := by
  rintro (different | turned)
  · cases given : view.defaultSort with
    | none => exact different (by rw [unsorted, given]; rfl)
    | some sort => simpa [given, unsorted] using canonical.sorted
  · exact not_turned_of_unsorted unsorted turned

/-! ## The texts that stay -/

section
variable (valid : view.Valid) (params : Params)
include valid

/-- A search that is shown is written as it stood. -/
theorem keepsText_search :
    KeepsText params (view.encode (view.decode params) params) ParamName.search
      (view.decode params).search.isSome := by
  have canonical := decode_canonical valid params
  have written := get?_encode_search valid (view.decode params) params
  rw [normalize_of_canonical valid canonical] at written
  constructor
  · intro present
    obtain ⟨text, shown⟩ := Option.isSome_iff_exists.1 present
    exact ⟨text, (Text.bind_nonblank?_eq_some_iff.1 shown).1, written.trans shown⟩
  · exact fun absent => written.trans (Option.not_isSome_iff_eq_none.1 absent)

/-- A filter whose values have not changed is written in its old spelling. -/
theorem keepsText_filter {key : String} (isFilter : view.isFilterKey key = true) :
    KeepsText params (view.encode (view.decode params) params) key
      ((view.decode params).filter key ≠ []) := by
  have canonical := decode_canonical valid params
  have written := get?_encode_filter valid (view.decode params) params isFilter
  rw [normalize_of_canonical valid canonical] at written
  constructor
  · intro nonempty
    cases found : (view.decode params).filters.get? key with
    | none => exact absurd (by rw [Query.filter, found]; rfl) nonempty
    | some values =>
      obtain ⟨-, -, text, given, -⟩ := get?_filtersOf_eq_some found
      refine ⟨text, given, written.trans ?_⟩
      simp [found, keeping, given]
  · intro empty
    have unset : (view.decode params).filters.get? key = none := by
      cases found : (view.decode params).filters.get? key with
      | none => rfl
      | some values =>
        have none : values = [] := by simpa [Query.filter, found] using empty
        exact absurd none (canonical.filters found).2.1
    rw [written, unset]
    rfl

/-- The number of a page past the first is written as it stood. -/
theorem keepsText_page :
    KeepsText params (view.encode (view.decode params) params) ParamName.page
      (0 < (view.decode params).pageIndex) := by
  have canonical := decode_canonical valid params
  have written := get?_encode_page valid (view.decode params) params
  rw [normalize_of_canonical valid canonical] at written
  constructor
  · intro positive
    have notFirst : (view.decode params).pageIndex ≠ 0 := (UInt32.ne_of_lt positive).symm
    cases given : params.get? ParamName.page with
    | none => exact absurd (by simp [decode, given]) notFirst
    | some text =>
      refine ⟨text, rfl, written.trans ?_⟩
      simp [notFirst, keeping, given]
  · intro first
    rw [written, if_pos]
    simpa using first

/-- A size other than the default is written as it stood. -/
theorem keepsText_pageSize :
    KeepsText params (view.encode (view.decode params) params) ParamName.pageSize
      ((view.decode params).pageSize ≠ view.defaultPageSize) := by
  have canonical := decode_canonical valid params
  have written := get?_encode_pageSize valid (view.decode params) params
  rw [normalize_of_canonical valid canonical] at written
  constructor
  · intro different
    cases given : params.get? ParamName.pageSize with
    | none => exact absurd (by simp [decode, given]) different
    | some text =>
      refine ⟨text, rfl, written.trans ?_⟩
      simp [different, keeping, given]
  · intro same
    rw [written, if_pos (Decidable.not_not.1 same)]

end

/-- A field that is named is spelled as it was. -/
theorem textParam?_getD_sortBy {params : Params} {field : String}
    (named : (view.decode params).sortField = some field) :
    (textParam? params ParamName.sortBy).getD field = field := by
  have shown : view.sortFieldOr (textParam? params ParamName.sortBy) = some field := named
  cases spelled : textParam? params ParamName.sortBy with
  | none => rfl
  | some text =>
    rw [spelled] at shown
    exact Option.some.inj shown

theorem sparseSort_encode_decode (valid : view.Valid) (params : Params) :
    view.SparseSort params (view.encode (view.decode params) params) := by
  have canonical := decode_canonical valid params
  have field := get?_encode_sortBy valid (view.decode params) params
  have direction := get?_encode_descending valid (view.decode params) params
  rw [normalize_of_canonical valid canonical] at field direction
  cases named : (view.decode params).sortField with
  | none =>
    rw [named] at field direction
    exact
      { named := fun resorted => absurd resorted (not_resorted_of_unsorted canonical named)
        unnamed := fun _ => field
        turned := fun turned => absurd turned (not_turned_of_unsorted named)
        unturned := fun _ => direction }
  | some name =>
    rw [named, Option.filter_some] at field direction
    refine ⟨fun resorted => ⟨name, named, ?_⟩, fun unsorted => ?_, fun turned => ?_,
      fun unturned => ?_⟩
    · rw [field, if_pos ((resorted_iff named).1 resorted), textParam?_getD_sortBy named]
    · rw [field, if_neg (mt (resorted_iff named).2 unsorted)]
    · rw [direction, if_pos ((turned_iff named).1 turned)]
      rfl
    · rw [direction, if_neg (mt (turned_iff named).2 unturned)]
      rfl

/-- Reading parameters and writing what they show drops what says nothing and keeps the rest. -/
theorem sparse_encode_decode (valid : view.Valid) (params : Params) :
    view.Sparse params (view.encode (view.decode params) params) where
  foreign := fun _ foreign => get?_encode_of_not_owns valid _ params foreign
  search := keepsText_search valid params
  filters := fun _ isFilter => keepsText_filter valid params isFilter
  page := keepsText_page valid params
  pageSize := keepsText_pageSize valid params
  sort := sparseSort_encode_decode valid params

/-! ## Writing again -/

/-- A text that is there is kept by a field that did not change. -/
theorem keeping_of_get? {previous : Params} {name text : String}
    (given : previous.get? name = some text) (new : String) :
    (keeping previous true name new).2 = text := by
  simp [keeping, given]

/-- A text that may be kept is the same whether it is written onto `previous` or onto parameters in
between, if these leave a field that does not change, and have the text that it would get. -/
theorem keeping_of_kept {previous written : Params} {before between : Bool} {name text : String}
    (spared : before = true → between = true)
    (kept : between = true → written.get? name = some (keeping previous before name text).2) :
    (keeping written between name text).2 = (keeping previous before name text).2 := by
  cases between with
  | true => exact keeping_of_get? (kept rfl) text
  | false =>
    have changed : before = false :=
      Bool.eq_false_iff.2 fun same => Bool.false_ne_true (spared same)
    rw [changed]
    rfl

/-- A query in between leaves those fields that a later one does not change. -/
structure Spares (before between query : Query) : Prop where
  filters : ∀ key, before.filters.get? key = query.filters.get? key →
    between.filters.get? key = query.filters.get? key
  pageIndex : before.pageIndex = query.pageIndex → between.pageIndex = query.pageIndex
  pageSize : before.pageSize = query.pageSize → between.pageSize = query.pageSize

/-- Nothing is left of a query in between, old spellings included, if it leaves what the later one
does not change. -/
theorem encode_encode_of_spares (valid : view.Valid) {query between : Query} {previous : Params}
    (spares : Spares (view.decode previous) (view.normalize between) (view.normalize query)) :
    view.encode query (view.encode between previous) = view.encode query previous := by
  have shown := decode_encode_of_canonical valid (normalize_canonical valid between) previous
  rw [encode_normalize valid] at shown
  ext1 key
  cases owned : view.owns key with
  | false =>
    rw [get?_encode_of_not_owns valid query _ owned, get?_encode_of_not_owns valid between _ owned,
      get?_encode_of_not_owns valid query _ owned]
  | true =>
    rcases owns_iff.1 owned with reserved | isFilter
    · simp only [ParamName.reserved, List.mem_cons, List.not_mem_nil, or_false] at reserved
      rcases reserved with rfl | rfl | rfl | rfl | rfl
      · rw [get?_encode_search valid, get?_encode_search valid]
      · rw [get?_encode_sortBy valid, get?_encode_sortBy valid]
      · rw [get?_encode_descending valid, get?_encode_descending valid]
      · rw [get?_encode_page valid query, get?_encode_page valid query previous, shown]
        split
        next => rfl
        next later =>
          refine congrArg some (keeping_of_kept (fun same => ?_) fun same => ?_)
          · exact beq_iff_eq.2 (spares.pageIndex (beq_iff_eq.1 same))
          · rw [get?_encode_page valid between, beq_iff_eq.1 same, if_neg later]
      · rw [get?_encode_pageSize valid query, get?_encode_pageSize valid query previous, shown]
        split
        next => rfl
        next different =>
          refine congrArg some (keeping_of_kept (fun same => ?_) fun same => ?_)
          · exact beq_iff_eq.2 (spares.pageSize (beq_iff_eq.1 same))
          · rw [get?_encode_pageSize valid between, beq_iff_eq.1 same, if_neg different]
    · rw [get?_encode_filter valid query _ isFilter, get?_encode_filter valid query _ isFilter,
        shown]
      cases found : (view.normalize query).filters.get? key with
      | none => rfl
      | some values =>
        rw [Option.map_some, Option.map_some]
        refine congrArg some (keeping_of_kept (fun same => ?_) fun same => ?_)
        · exact beq_iff_eq.2 (found ▸ spares.filters key (found ▸ beq_iff_eq.1 same))
        · rw [get?_encode_filter valid between _ isFilter, beq_iff_eq.1 same, Option.map_some]

/-- What a view wrote once, it writes again in the same way. -/
theorem encode_encode (valid : view.Valid) (query : Query) (previous : Params) :
    view.encode query (view.encode query previous) = view.encode query previous :=
  encode_encode_of_spares valid ⟨fun _ _ => rfl, fun _ => rfl, fun _ => rfl⟩

/-- Writing what parameters show onto themselves changes nothing. -/
def Tidy (view : View) (params : Params) : Prop := view.encode (view.decode params) params = params

instance (view : View) (params : Params) : Decidable (view.Tidy params) :=
  inferInstanceAs (Decidable (_ = _))

/-- What is written is written the same way again. -/
theorem tidy_encode (valid : view.Valid) (query : Query) (previous : Params) :
    view.Tidy (view.encode query previous) := by
  have shown := decode_encode_of_canonical valid (normalize_canonical valid query) previous
  rw [encode_normalize valid] at shown
  rw [Tidy, shown, encode_normalize valid]
  exact encode_encode valid query previous

/-- Writing what parameters show onto themselves drops what says nothing, keeps the rest as it
was spelled, and names the field of a direction.  What a view wrote has nothing to drop. -/
theorem encode_exact (valid : view.Valid) :
    (∀ params, view.Sparse params (view.encode (view.decode params) params)) ∧
      ∀ query previous,
        let written := view.encode query previous
        view.encode (view.decode written) written = written ∧
          view.encode query written = written := by
  refine ⟨sparse_encode_decode valid, fun query previous => ?_⟩
  have again := encode_encode valid query previous
  refine ⟨?_, again⟩
  rw [← encode_normalize valid query previous,
    decode_encode_of_canonical valid (normalize_canonical valid query), encode_normalize valid,
    encode_normalize valid]
  exact again

/-- Blank, redundant and oddly spelled parameters, with a direction that has no field. -/
theorem encode_exact_oddly_spelled :
    ∃ params written : Params,
      params = KeyMap.ofList [("descending", "false"), ("page", "02"), ("q", " "),
        ("rows_per_page", "+25"), ("status", "running,,queued"), ("utm", " x"), ("version", ",")] ∧
      written = KeyMap.ofList [("descending", "false"), ("page", "02"), ("sort_by", "created_at"),
        ("status", "running,,queued"), ("utm", " x")] ∧
      (preset "executions" .execution).Valid ∧
      (preset "executions" .execution).encode
        ((preset "executions" .execution).decode params) params = written ∧
      (preset "executions" .execution).Sparse params written ∧
      (preset "executions" .execution).encode
        ((preset "executions" .execution).decode written) written = written := by
  obtain ⟨params, isParams⟩ : ∃ params : Params, params = KeyMap.ofList [("descending", "false"),
    ("page", "02"), ("q", " "), ("rows_per_page", "+25"), ("status", "running,,queued"),
    ("utm", " x"), ("version", ",")] := ⟨_, rfl⟩
  have valid : (preset "executions" .execution).Valid := by decide
  obtain ⟨sparse, again⟩ := encode_exact valid
  have written : (preset "executions" .execution).encode
      ((preset "executions" .execution).decode params) params =
      KeyMap.ofList [("descending", "false"), ("page", "02"), ("sort_by", "created_at"),
        ("status", "running,,queued"), ("utm", " x")] := by
    rw [isParams]
    decide
  exact ⟨params, _, isParams, rfl, valid, written, written ▸ sparse params,
    written ▸ (again _ params).1⟩

end QuerySync.View
