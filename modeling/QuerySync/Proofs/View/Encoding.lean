import QuerySync.Proofs.View.Canonical

/-!
# What a location says after a query is written to it

One lemma for each parameter that a view writes.  The text of the search and of the sort is
fixed by the query alone: an old text that is kept is the same text.  The text of a filter, of
the page and of the page size may be an old one, which then reads as the field does.

The lemmas ask for a valid view, since a filter with the name of another parameter would be
written in its place.
-/

namespace QuerySync.View

variable {view : View}

/-! ## Names -/

theorem Valid.not_mem_reserved (valid : view.Valid) {key : String}
    (isFilter : view.isFilterKey key = true) : key ∉ ParamName.reserved :=
  (valid.filterKeys key (by simpa [isFilterKey] using isFilter)).2

theorem Valid.ne_of_mem_reserved (valid : view.Valid) {key name : String}
    (isFilter : view.isFilterKey key = true) (reserved : name ∈ ParamName.reserved) :
    key ≠ name :=
  fun same => valid.not_mem_reserved isFilter (same ▸ reserved)

/-- A view owns the reserved names and its filter keys. -/
theorem owns_iff {key : String} :
    view.owns key = true ↔ key ∈ ParamName.reserved ∨ view.isFilterKey key = true := by
  rw [owns, Bool.or_eq_true, List.contains_iff_mem]

theorem owns_of_mem_reserved {name : String} (reserved : name ∈ ParamName.reserved) :
    view.owns name = true :=
  owns_iff.2 (.inl reserved)

theorem name_of_mem_searchParams {query before : Query} {previous : Params}
    {entry : String × String} (member : entry ∈ searchParams query before previous) :
    entry.1 = ParamName.search := by
  obtain ⟨text, -, rfl⟩ := Option.map_eq_some_iff.1 (Option.mem_toList.1 member)
  rfl

theorem name_of_mem_sortParams {query before : Query} {previous : Params}
    {entry : String × String} (member : entry ∈ view.sortParams query before previous) :
    entry.1 = ParamName.sortBy ∨ entry.1 = ParamName.descending := by
  unfold sortParams at member
  split at member
  · exact nomatch member
  · rcases List.mem_append.1 member with inField | inDirection
    · split at inField
      · exact .inl (List.mem_singleton.1 inField ▸ rfl)
      · exact nomatch inField
    · split at inDirection
      · exact .inr (List.mem_singleton.1 inDirection ▸ rfl)
      · exact nomatch inDirection

/-- A canonical query has filters for declared keys only, so only those are written. -/
theorem name_of_mem_filterParams {query before : Query} {previous : Params}
    {entry : String × String} (canonical : view.Canonical query)
    (member : entry ∈ filterParams query before previous) :
    view.isFilterKey entry.1 = true := by
  obtain ⟨⟨key, values⟩, inFilters, rfl⟩ := List.mem_map.1 member
  exact (canonical.filters (KeyMap.get?_of_mem_entries inFilters)).1

theorem name_of_mem_pageParams {query before : Query} {previous : Params}
    {entry : String × String} (member : entry ∈ pageParams query before previous) :
    entry.1 = ParamName.page := by
  unfold pageParams at member
  split at member
  · exact nomatch member
  · exact List.mem_singleton.1 member ▸ rfl

theorem name_of_mem_pageSizeParams {query before : Query} {previous : Params}
    {entry : String × String} (member : entry ∈ view.pageSizeParams query before previous) :
    entry.1 = ParamName.pageSize := by
  unfold pageSizeParams at member
  split at member
  · exact nomatch member
  · exact List.mem_singleton.1 member ▸ rfl

/-! ## One part at a time -/

/-- Encoding writes five parts one after the other over the parameters of others. -/
theorem encode_eq_insertAll (query : Query) (previous : Params) :
    view.encode query previous =
      (((((view.foreign previous).insertAll
        (searchParams (view.normalize query) (view.decode previous) previous)).insertAll
        (view.sortParams (view.normalize query) (view.decode previous) previous)).insertAll
        (filterParams (view.normalize query) (view.decode previous) previous)).insertAll
        (pageParams (view.normalize query) (view.decode previous) previous)).insertAll
        (view.pageSizeParams (view.normalize query) (view.decode previous) previous) := by
  simp only [encode, ownParams, KeyMap.insertAll_append]

section
variable (query before : Query) (previous m : Params) {key : String}

theorem get?_insertAll_searchParams_of_ne (different : key ≠ ParamName.search) :
    (m.insertAll (searchParams query before previous)).get? key = m.get? key :=
  KeyMap.get?_insertAll_of_forall_ne
    (fun _ member same => different (same.symm.trans (name_of_mem_searchParams member))) m

/-- Sorting writes the field and the direction and nothing else. -/
theorem get?_insertAll_sortParams_of_ne (notField : key ≠ ParamName.sortBy)
    (notDirection : key ≠ ParamName.descending) :
    (m.insertAll (view.sortParams query before previous)).get? key = m.get? key :=
  KeyMap.get?_insertAll_of_forall_ne
    (fun _ member same => (name_of_mem_sortParams member).elim
      (fun name => notField (same.symm.trans name))
      fun name => notDirection (same.symm.trans name)) m

/-- Filters write their own keys and nothing else. -/
theorem get?_insertAll_filterParams_of_not_isFilterKey (canonical : view.Canonical query)
    (notFilter : view.isFilterKey key = false) :
    (m.insertAll (filterParams query before previous)).get? key = m.get? key :=
  KeyMap.get?_insertAll_of_forall_ne
    (fun _ member same => by
      have isFilter := name_of_mem_filterParams canonical member
      rw [same, notFilter] at isFilter
      exact nomatch isFilter) m

theorem get?_insertAll_pageParams_of_ne (different : key ≠ ParamName.page) :
    (m.insertAll (pageParams query before previous)).get? key = m.get? key :=
  KeyMap.get?_insertAll_of_forall_ne
    (fun _ member same => different (same.symm.trans (name_of_mem_pageParams member))) m

theorem get?_insertAll_pageSizeParams_of_ne (different : key ≠ ParamName.pageSize) :
    (m.insertAll (view.pageSizeParams query before previous)).get? key = m.get? key :=
  KeyMap.get?_insertAll_of_forall_ne
    (fun _ member same => different (same.symm.trans (name_of_mem_pageSizeParams member))) m

end

/-- What is left of the parameters once the owned ones are gone. -/
theorem get?_foreign (params : Params) (key : String) :
    (view.foreign params).get? key = if view.owns key then none else params.get? key := by
  rw [foreign, KeyMap.get?_filterKeys]
  cases view.owns key <;> rfl

theorem get?_foreign_of_owns {key : String} (owned : view.owns key = true) (params : Params) :
    (view.foreign params).get? key = none := by
  rw [get?_foreign, if_pos owned]

theorem Valid.not_isFilterKey (valid : view.Valid) {name : String}
    (reserved : name ∈ ParamName.reserved) : view.isFilterKey name = false :=
  Bool.eq_false_iff.2 fun isFilter => valid.not_mem_reserved isFilter reserved

/-! ## Old texts that are the new ones -/

/-- Where the old text is the new one, it makes no difference which of them is written. -/
theorem keeping_eq {previous : Params} {unchanged : Bool} {name text : String}
    (same : unchanged = true → previous.get? name = some text) :
    keeping previous unchanged name text = (name, text) := by
  cases unchanged with
  | false => rfl
  | true => rw [keeping, if_pos rfl, same rfl, Option.getD_some]

/-- A direction has one spelling, so reading one gives back its text. -/
theorem direction?_eq_some_iff {text : String} {descending : Bool} :
    direction? text = some descending ↔ text = directionText descending := by
  unfold direction?
  split
  next true' => cases descending <;> simp [true', directionText]
  next notTrue =>
    split
    next false' => cases descending <;> simp [false', directionText]
    next notFalse => cases descending <;> simp [notTrue, notFalse, directionText]

/-- A sort that was named and did not change was named by its field. -/
theorem get?_sortBy_of_sortUnchanged {query : Query} {previous : Params} {field : String}
    (named : query.sortField = some field)
    (unchanged : sortUnchanged query (view.decode previous) previous = true) :
    previous.get? ParamName.sortBy = some field := by
  simp only [sortUnchanged, Bool.and_eq_true, beq_iff_eq, named] at unchanged
  obtain ⟨⟨sameField, -⟩, isNamed⟩ := unchanged
  obtain ⟨text, shown⟩ := Option.isSome_iff_exists.1 isNamed
  have sameField : view.sortFieldOr (textParam? previous ParamName.sortBy) = some field :=
    sameField
  rw [shown, sortFieldOr, Option.some_or] at sameField
  rw [(Text.bind_nonblank?_eq_some_iff.1 shown).1, sameField]

/-- A direction that is not the default of its field was spelled out. -/
theorem get?_descending_of_sortUnchanged {query : Query} {previous : Params} {field : String}
    (named : query.sortField = some field) (pinned : view.pinned query field = true)
    (unchanged : sortUnchanged query (view.decode previous) previous = true) :
    previous.get? ParamName.descending = some (directionText query.descending) := by
  simp only [sortUnchanged, Bool.and_eq_true, beq_iff_eq, named] at unchanged
  obtain ⟨⟨sameField, sameDirection⟩, -⟩ := unchanged
  have sameField : view.sortFieldOr (textParam? previous ParamName.sortBy) = some field :=
    sameField
  have sameDirection : view.direction previous field = query.descending := by
    simpa [decode, sameField] using sameDirection
  cases spelled : (previous.get? ParamName.descending).bind direction? with
  | none =>
    rw [direction, spelled, Option.getD_none] at sameDirection
    simp [View.pinned, sameDirection] at pinned
  | some descending =>
    obtain ⟨text, given, reads⟩ := Option.bind_eq_some_iff.1 spelled
    rw [direction, spelled, Option.getD_some] at sameDirection
    rw [given, direction?_eq_some_iff.1 reads, sameDirection]

/-- A search is written as it is. -/
theorem searchParams_eq (query : Query) (previous : Params) :
    searchParams query (view.decode previous) previous =
      (query.search.map fun text => (ParamName.search, text)).toList := by
  unfold searchParams
  cases search : query.search with
  | none => rfl
  | some text =>
    refine congrArg (fun entry => [entry]) (keeping_eq fun unchanged => ?_)
    have shown : textParam? previous ParamName.search = some text := beq_iff_eq.1 unchanged
    exact (Text.bind_nonblank?_eq_some_iff.1 shown).1

/-- A sort is written as it is. -/
theorem sortParams_eq {query : Query} {field : String} (named : query.sortField = some field)
    (previous : Params) :
    view.sortParams query (view.decode previous) previous =
      (if view.pinned query field || !view.isDefaultField field then
        [(ParamName.sortBy, field)]
      else []) ++
      if view.pinned query field then
        [(ParamName.descending, directionText query.descending)]
      else [] := by
  simp only [sortParams, named]
  congr 1
  · split
    next =>
      exact congrArg (fun entry => [entry])
        (keeping_eq fun unchanged => get?_sortBy_of_sortUnchanged named unchanged)
    next => rfl
  · split
    next pinned =>
      exact congrArg (fun entry => [entry])
        (keeping_eq fun unchanged => get?_descending_of_sortUnchanged named pinned unchanged)
    next => rfl

/-! ## The text of each parameter -/

/-- Nothing reserved is left after the first part but the search itself. -/
theorem get?_insertAll_searchParams_foreign {name : String} (reserved : name ∈ ParamName.reserved)
    (different : name ≠ ParamName.search) (query before : Query) (previous : Params) :
    ((view.foreign previous).insertAll (searchParams query before previous)).get? name = none := by
  rw [get?_insertAll_searchParams_of_ne _ _ _ _ different]
  exact get?_foreign_of_owns (owns_of_mem_reserved reserved) previous

section
variable (valid : view.Valid) (query : Query) (previous : Params)
include valid

theorem get?_encode_search :
    (view.encode query previous).get? ParamName.search = (view.normalize query).search := by
  rw [encode_eq_insertAll, get?_insertAll_pageSizeParams_of_ne _ _ _ _ (by decide),
    get?_insertAll_pageParams_of_ne _ _ _ _ (by decide),
    get?_insertAll_filterParams_of_not_isFilterKey _ _ _ _ (normalize_canonical valid query)
      (valid.not_isFilterKey (by decide)),
    get?_insertAll_sortParams_of_ne _ _ _ _ (by decide) (by decide), searchParams_eq]
  cases (view.normalize query).search with
  | none => exact get?_foreign_of_owns (owns_of_mem_reserved (by decide)) previous
  | some text => simp [KeyMap.insertAll_cons]

/-- A sort field is written unless it is the default one in its default direction. -/
theorem get?_encode_sortBy :
    (view.encode query previous).get? ParamName.sortBy =
      (view.normalize query).sortField.filter fun field =>
        view.pinned (view.normalize query) field || !view.isDefaultField field := by
  rw [encode_eq_insertAll, get?_insertAll_pageSizeParams_of_ne _ _ _ _ (by decide),
    get?_insertAll_pageParams_of_ne _ _ _ _ (by decide),
    get?_insertAll_filterParams_of_not_isFilterKey _ _ _ _ (normalize_canonical valid query)
      (valid.not_isFilterKey (by decide))]
  have unwritten : ((view.foreign previous).insertAll (searchParams (view.normalize query)
      (view.decode previous) previous)).get? ParamName.sortBy = none :=
    get?_insertAll_searchParams_foreign (by decide) (by decide) _ _ _
  have different : ParamName.descending ≠ ParamName.sortBy := by decide
  cases named : (view.normalize query).sortField with
  | none => simpa [sortParams, named] using unwritten
  | some field =>
    rw [sortParams_eq named, KeyMap.insertAll_append]
    cases pinned : view.pinned (view.normalize query) field <;>
      cases isDefault : view.isDefaultField field <;>
        simp [KeyMap.insertAll_cons, Option.filter_some, pinned, isDefault, unwritten, different]

/-- A direction is written unless it is the default one of its field. -/
theorem get?_encode_descending :
    (view.encode query previous).get? ParamName.descending =
      ((view.normalize query).sortField.filter (view.pinned (view.normalize query))).map
        fun _ => directionText (view.normalize query).descending := by
  rw [encode_eq_insertAll, get?_insertAll_pageSizeParams_of_ne _ _ _ _ (by decide),
    get?_insertAll_pageParams_of_ne _ _ _ _ (by decide),
    get?_insertAll_filterParams_of_not_isFilterKey _ _ _ _ (normalize_canonical valid query)
      (valid.not_isFilterKey (by decide))]
  have unwritten : ((view.foreign previous).insertAll (searchParams (view.normalize query)
      (view.decode previous) previous)).get? ParamName.descending = none :=
    get?_insertAll_searchParams_foreign (by decide) (by decide) _ _ _
  have different : ParamName.sortBy ≠ ParamName.descending := by decide
  cases named : (view.normalize query).sortField with
  | none => simpa [sortParams, named] using unwritten
  | some field =>
    rw [sortParams_eq named, KeyMap.insertAll_append]
    cases pinned : view.pinned (view.normalize query) field <;>
      cases view.isDefaultField field <;>
        simp [KeyMap.insertAll_cons, Option.filter_some, pinned, unwritten, different]

/-- A filter is written if it has values, with its old text if it did not change. -/
theorem get?_encode_filter {key : String} (isFilter : view.isFilterKey key = true) :
    (view.encode query previous).get? key =
      ((view.normalize query).filters.get? key).map fun values =>
        (keeping previous ((view.decode previous).filters.get? key == some values) key
          (Text.joinTokens values)).2 := by
  have notReserved {name : String} (reserved : name ∈ ParamName.reserved) : key ≠ name :=
    valid.ne_of_mem_reserved isFilter reserved
  rw [encode_eq_insertAll, get?_insertAll_pageSizeParams_of_ne _ _ _ _ (notReserved (by decide)),
    get?_insertAll_pageParams_of_ne _ _ _ _ (notReserved (by decide))]
  have owned : view.owns key = true := by simp [owns, isFilter]
  have unwritten : (((view.foreign previous).insertAll (searchParams (view.normalize query)
      (view.decode previous) previous)).insertAll (view.sortParams (view.normalize query)
      (view.decode previous) previous)).get? key = none := by
    rw [get?_insertAll_sortParams_of_ne _ _ _ _ (notReserved (by decide))
      (notReserved (by decide)),
      get?_insertAll_searchParams_of_ne _ _ _ _ (notReserved (by decide))]
    exact get?_foreign_of_owns owned previous
  have entries := KeyMap.get?_insertAll_entries (((view.foreign previous).insertAll (searchParams
    (view.normalize query) (view.decode previous) previous)).insertAll (view.sortParams
    (view.normalize query) (view.decode previous) previous)) (view.normalize query).filters
    (fun key values => (keeping previous ((view.decode previous).filters.get? key == some values)
      key (Text.joinTokens values)).2) key
  rw [unwritten, Option.or_none] at entries
  exact entries

/-- A page is written unless it is the first, with its old text if it did not change. -/
theorem get?_encode_page :
    (view.encode query previous).get? ParamName.page =
      if (view.normalize query).pageIndex = 0 then none
      else some (keeping previous
        ((view.decode previous).pageIndex == (view.normalize query).pageIndex) ParamName.page
        (pageText (view.normalize query).pageIndex)).2 := by
  rw [encode_eq_insertAll, get?_insertAll_pageSizeParams_of_ne _ _ _ _ (by decide)]
  unfold pageParams
  split
  · rw [KeyMap.insertAll_nil, get?_insertAll_filterParams_of_not_isFilterKey _ _ _ _
        (normalize_canonical valid query) (valid.not_isFilterKey (by decide)),
      get?_insertAll_sortParams_of_ne _ _ _ _ (by decide) (by decide)]
    exact get?_insertAll_searchParams_foreign (by decide) (by decide) _ _ _
  · rw [KeyMap.insertAll_cons, KeyMap.insertAll_nil, KeyMap.get?_insert]
    exact if_pos rfl

/-- A page size is written unless it is the default one, with its old text if it did not
change. -/
theorem get?_encode_pageSize :
    (view.encode query previous).get? ParamName.pageSize =
      if (view.normalize query).pageSize = view.defaultPageSize then none
      else some (keeping previous
        ((view.decode previous).pageSize == (view.normalize query).pageSize) ParamName.pageSize
        (toString (view.normalize query).pageSize.toNat)).2 := by
  rw [encode_eq_insertAll]
  unfold pageSizeParams
  split
  · rw [KeyMap.insertAll_nil, get?_insertAll_pageParams_of_ne _ _ _ _ (by decide),
      get?_insertAll_filterParams_of_not_isFilterKey _ _ _ _
        (normalize_canonical valid query) (valid.not_isFilterKey (by decide)),
      get?_insertAll_sortParams_of_ne _ _ _ _ (by decide) (by decide)]
    exact get?_insertAll_searchParams_foreign (by decide) (by decide) _ _ _
  · rw [KeyMap.insertAll_cons, KeyMap.insertAll_nil, KeyMap.get?_insert]
    exact if_pos rfl

/-- A parameter that the view does not own stays as it is. -/
theorem get?_encode_of_not_owns {key : String} (foreign : view.owns key = false) :
    (view.encode query previous).get? key = previous.get? key := by
  have notReserved : ∀ name ∈ ParamName.reserved, key ≠ name := fun name reserved same => by
    rw [same, owns_of_mem_reserved reserved] at foreign
    exact nomatch foreign
  have notFilter : view.isFilterKey key = false := by
    rw [owns, Bool.or_eq_false_iff] at foreign
    exact foreign.2
  rw [encode_eq_insertAll,
    get?_insertAll_pageSizeParams_of_ne _ _ _ _ (notReserved _ (by decide)),
    get?_insertAll_pageParams_of_ne _ _ _ _ (notReserved _ (by decide)),
    get?_insertAll_filterParams_of_not_isFilterKey _ _ _ _ (normalize_canonical valid query)
      notFilter,
    get?_insertAll_sortParams_of_ne _ _ _ _ (notReserved _ (by decide))
      (notReserved _ (by decide)),
    get?_insertAll_searchParams_of_ne _ _ _ _ (notReserved _ (by decide)), get?_foreign, foreign]
  rfl

end

end QuerySync.View
