import Mathlib.Tactic.TFAE
import QuerySync.Proofs.View.Encoding

/-!
# Writing a query, and reading it again

A canonical query is read back as it was written, whatever the parameters were that it was
written onto (`decode_encode_of_canonical`).  The argument goes field by field: each field has
parameters of its own, a text that is written reads as the field, and a text that is kept does
so because the field did not change.

Any other query is written as its normal form (`encode_normalize`), so its normal form is what
is read back.  The canonical queries are those that parameters show, and those that normal form
leaves as they are (`canonical_tfae`).
-/

namespace QuerySync

/-! ## Numerals -/

namespace Text

theorem isSpace_of_isDigit {c : Char} (digit : c.isDigit = true) : isSpace c = false := by
  simp only [Char.isDigit, Bool.and_eq_true, decide_eq_true_eq, UInt32.le_iff_toNat_le] at digit
  have below : 48 ≤ c.toNat := digit.1
  have above : c.toNat ≤ 57 := digit.2
  exact isSpace_eq_false_of_ascii (by omega) (by omega)

/-- A text without white space has none around it. -/
theorem trim_of_forall_not_isSpace {text : String}
    (visible : ∀ c ∈ text.toList, isSpace c = false) : trim text = text := by
  have front : text.toList.dropWhile isSpace = text.toList :=
    dropWhile_of_head fun c member => visible c (List.mem_of_mem_head? member)
  have back : text.toList.reverse.dropWhile isSpace = text.toList.reverse :=
    dropWhile_of_head fun c member =>
      visible c (List.mem_reverse.1 (List.mem_of_mem_head? member))
  rw [trim, trimChars, front, back, List.reverse_reverse, String.ofList_toList]

theorem trim_toString (n : Nat) : trim (toString n) = toString n := by
  refine trim_of_forall_not_isSpace fun c member => isSpace_of_isDigit ?_
  have written : (toString n).toList = Nat.toDigits 10 n := by
    show n.repr.toList = _
    rw [Nat.repr_eq_ofList_toDigits, String.toList_ofList]
  rw [written] at member
  exact Nat.isDigit_of_mem_toDigits (by decide) (by decide) member

end Text

namespace View

variable {view : View}

/-- The number that is written for an index is read as that index. -/
theorem pageIndex?_pageText {index : UInt32} (bounded : index ≤ maxPageIndex) :
    pageIndex? (pageText index) = some index := by
  have bound : index.toNat ≤ 4294967294 := UInt32.le_iff_toNat_le.1 bounded
  have small : index.toNat + 1 < UInt32.size := by
    have size : UInt32.size = 4294967296 := rfl
    omega
  have number : (UInt32.ofNat (index.toNat + 1)).toNat = index.toNat + 1 :=
    UInt32.toNat_ofNat_of_lt' small
  have positive : 1 ≤ UInt32.ofNat (index.toNat + 1) := by
    rw [UInt32.le_iff_toNat_le, number]
    exact Nat.le_add_left 1 _
  have before : UInt32.ofNat (index.toNat + 1) - 1 = index := by
    rw [← UInt32.toNat_inj, UInt32.toNat_sub_of_le _ _ positive, number]
    rfl
  rw [pageIndex?, pageText, Text.trim_toString, Text.Numeral.readUInt32?,
    Text.Numeral.read?_toString small, Option.map_some, Option.filter_some,
    if_pos (decide_eq_true positive), Option.map_some, before]

theorem pageSize?_toString {size : UInt32} (allowed : size ∈ view.pageSizes) :
    view.pageSize? (toString size.toNat) = some size := by
  rw [pageSize?, Text.trim_toString, Text.Numeral.readUInt32?_toString]
  simp [Option.filter_some, allowed]

/-- The encoder puts its query in normal form, so nothing is gained by doing it before. -/
theorem encode_normalize (valid : view.Valid) (query : Query) (previous : Params) :
    view.encode (view.normalize query) previous = view.encode query previous := by
  rw [encode, normalize_of_canonical valid (normalize_canonical valid query), encode]

/-! ## Field by field -/

section
variable (valid : view.Valid) {query : Query} (canonical : view.Canonical query)
  (previous : Params)
include valid canonical

/-- A canonical search is not blank, and is read as it was written. -/
theorem search_decode_encode :
    (view.decode (view.encode query previous)).search = query.search := by
  show textParam? _ ParamName.search = _
  rw [textParam?, get?_encode_search valid, normalize_of_canonical valid canonical]
  exact Text.bind_nonblank?_of_forall_visible canonical.search

/-- The field is named, or it is the one that the view sorts on by default. -/
theorem sortField_decode_encode :
    (view.decode (view.encode query previous)).sortField = query.sortField := by
  show view.sortFieldOr (textParam? _ ParamName.sortBy) = _
  rw [textParam?, get?_encode_sortBy valid, normalize_of_canonical valid canonical]
  cases named : query.sortField with
  | none => exact sortFieldOr_of_sorted fun sorts => by simpa [named] using canonical.sorted sorts
  | some field =>
    rw [Option.filter_some]
    split
    next written =>
      rw [Option.bind_some, Text.nonblank?_eq_some_iff.2 ⟨rfl, canonical.sortField field named⟩]
      rfl
    next unwritten =>
      have isDefault : view.isDefaultField field = true := by
        simp only [Bool.or_eq_true, not_or] at unwritten
        simpa using unwritten.2
      obtain ⟨sort, given, same⟩ := (Option.any_eq_true _ _).1 isDefault
      simpa [sortFieldOr, given] using same

/-- The direction is spelled out, or it is the default one of the field. -/
theorem descending_decode_encode :
    (view.decode (view.encode query previous)).descending = query.descending := by
  have sortField := sortField_decode_encode valid canonical previous
  show (view.decode (view.encode query previous)).sortField.any _ = _
  rw [sortField]
  cases named : query.sortField with
  | none => exact (canonical.descending named).symm
  | some field =>
    rw [Option.any_some, direction, get?_encode_descending valid,
      normalize_of_canonical valid canonical, named, Option.filter_some]
    split
    next pinned =>
      rw [Option.map_some, Option.bind_some, direction?_eq_some_iff.2 rfl, Option.getD_some]
    next notPinned =>
      rw [Option.map_none, Option.bind_none, Option.getD_none]
      have isDefault : query.descending = view.defaultDirection field := by
        simpa [View.pinned] using notPinned
      exact isDefault.symm

/-- A filter that is written anew is joined from its tokens, and an old text had them. -/
theorem filters_decode_encode :
    (view.decode (view.encode query previous)).filters = query.filters := by
  ext1 key
  show (view.filtersOf Text.tokens _).get? key = _
  rw [get?_filtersOf]
  split
  next isFilter =>
    rw [get?_encode_filter valid query previous isFilter, normalize_of_canonical valid canonical]
    cases found : query.filters.get? key with
    | none => rfl
    | some values =>
      obtain ⟨-, nonempty, tokens⟩ := canonical.filters found
      rw [Option.map_some, Option.bind_some]
      refine nonempty?_eq_some_iff.2 ⟨?_, nonempty⟩
      rw [keeping]
      dsimp only
      split
      next unchanged =>
        have before : (view.filtersOf Text.tokens previous).get? key = some values :=
          beq_iff_eq.1 unchanged
        obtain ⟨-, -, text, given, reads⟩ := get?_filtersOf_eq_some before
        rw [given, Option.getD_some, reads]
      next => exact Text.tokens_join tokens
  next notFilter =>
    cases found : query.filters.get? key with
    | none => rfl
    | some values => exact absurd (canonical.filters found).1 notFilter

/-- The first page is not written, and no page is read as the first. -/
theorem pageIndex_decode_encode :
    (view.decode (view.encode query previous)).pageIndex = query.pageIndex := by
  show (((view.encode query previous).get? ParamName.page).bind pageIndex?).getD 0 = _
  rw [get?_encode_page valid, normalize_of_canonical valid canonical]
  split
  next first => exact first.symm
  next notFirst =>
    rw [Option.bind_some, keeping]
    dsimp only
    split
    next unchanged =>
      have before : ((previous.get? ParamName.page).bind pageIndex?).getD 0 = query.pageIndex :=
        beq_iff_eq.1 unchanged
      cases given : previous.get? ParamName.page with
      | none => exact absurd (by simpa [given] using before.symm) notFirst
      | some text => simpa [given] using before
    next => rw [pageIndex?_pageText canonical.pageIndex, Option.getD_some]

/-- The default size is not written, and no size is read as the default. -/
theorem pageSize_decode_encode :
    (view.decode (view.encode query previous)).pageSize = query.pageSize := by
  show (((view.encode query previous).get? ParamName.pageSize).bind view.pageSize?).getD
    view.defaultPageSize = _
  rw [get?_encode_pageSize valid, normalize_of_canonical valid canonical]
  split
  next isDefault => exact isDefault.symm
  next notDefault =>
    rw [Option.bind_some, keeping]
    dsimp only
    split
    next unchanged =>
      have before : ((previous.get? ParamName.pageSize).bind view.pageSize?).getD
          view.defaultPageSize = query.pageSize := beq_iff_eq.1 unchanged
      cases given : previous.get? ParamName.pageSize with
      | none => exact absurd (by simpa [given] using before.symm) notDefault
      | some text => simpa [given] using before
    next =>
      rw [pageSize?_toString (valid.pageSizes_eq ▸ canonical.pageSize), Option.getD_some]

/-- A canonical query is read back as it was written. -/
theorem decode_encode_of_canonical : view.decode (view.encode query previous) = query :=
  Query.ext (search_decode_encode valid canonical previous)
    (sortField_decode_encode valid canonical previous)
    (descending_decode_encode valid canonical previous)
    (filters_decode_encode valid canonical previous)
    (pageIndex_decode_encode valid canonical previous)
    (pageSize_decode_encode valid canonical previous)

end

/-! ## Any query -/

/-- Whatever the query, and whatever the parameters that it is written onto, the normal form of
the query is read back. -/
theorem decode_encode_eq_normalize (valid : view.Valid) (query : Query) (previous : Params) :
    view.decode (view.encode query previous) = view.normalize query := by
  rw [← encode_normalize valid query previous]
  exact decode_encode_of_canonical valid (normalize_canonical valid query) previous

/-- A query that is canonical in no field, written onto parameters that are malformed, blank or
oddly spelled. -/
theorem decode_encode_noncanonical :
    (preset "executions" .execution).Valid ∧
      (preset "executions" .execution).decode ((preset "executions" .execution).encode
        { search := some "\t", sortField := some " ", descending := false
          filters := KeyMap.ofList [("owner", ["me"]), ("status", [" running,queued ", ""])]
          pageIndex := 4294967295, pageSize := 30 }
        (KeyMap.ofList [("descending", "False"), ("page", " +007 "), ("q", "a"),
          ("rows_per_page", "025"), ("sort_by", "name"), ("status", "running,,queued")])) =
      { search := none, sortField := some "created_at", descending := false
        filters := KeyMap.ofList [("status", ["running", "queued"])]
        pageIndex := 4294967294, pageSize := 25 } :=
  ⟨by decide, (decode_encode_eq_normalize (by decide) _ _).trans (by decide)⟩

/-! ## The queries that parameters show -/

theorem pageSize_pos (valid : view.Valid) {query : Query} (canonical : view.Canonical query) :
    0 < query.pageSize := by
  refine UInt32.pos_iff_ne_zero.2 fun zero => valid.pageSizes ?_
  exact zero ▸ canonical.pageSize

/-- Reading, normal form and edits give canonical queries, whatever they are given.  Normal form
leaves exactly the canonical queries as they are, and these are the ones that parameters show. -/
theorem canonical_tfae (valid : view.Valid) :
    (∀ params, view.Canonical (view.decode params)) ∧
    (∀ query, view.Canonical (view.normalize query)) ∧
    (∀ query edit, view.Canonical (view.apply query edit)) ∧
    (∀ query, view.Canonical query → 0 < query.pageSize) ∧
    ∀ query, [view.Canonical query, view.normalize query = query,
      ∃ params, query = view.decode params].TFAE := by
  refine ⟨decode_canonical valid, normalize_canonical valid, apply_canonical valid,
    fun query => pageSize_pos valid, fun query => ?_⟩
  tfae_have 1 → 2 := normalize_of_canonical valid
  tfae_have 2 → 3 := fun same => by
    have canonical : view.Canonical query := same ▸ normalize_canonical valid query
    exact ⟨view.encode query .empty, (decode_encode_of_canonical valid canonical .empty).symm⟩
  tfae_have 3 → 1 := by
    rintro ⟨params, rfl⟩
    exact decode_canonical valid params
  tfae_finish

/-- A query that no parameters show, since a view that sorts by default always sorts, and the query
that they show in its place. -/
theorem canonical_tfae_unsorted :
    let view := preset "executions" .execution
    let unsorted : Query := { search := some " x", filters := KeyMap.ofList [("status", ["a, b"])]
                              pageSize := 10 }
    let sorted : Query := { search := some " x", sortField := some "created_at"
                            filters := KeyMap.ofList [("status", ["a", "b"])], pageSize := 10 }
    view.Valid ∧ view.normalize unsorted = sorted ∧ ¬ view.Canonical unsorted ∧
      (¬ ∃ params, unsorted = view.decode params) ∧ view.Canonical sorted ∧
      view.normalize sorted = sorted ∧ ∃ params, sorted = view.decode params := by
  intro view unsorted sorted
  have valid : view.Valid := by decide
  obtain ⟨-, -, -, -, tfae⟩ := canonical_tfae valid
  have normal : view.normalize unsorted = sorted := by decide
  have different : view.normalize unsorted ≠ unsorted := by decide
  have same : view.normalize sorted = sorted := by decide
  exact ⟨valid, normal, mt ((tfae unsorted).out 0 1).1 different,
    mt ((tfae unsorted).out 1 2).2 different, ((tfae sorted).out 0 1).2 same, same,
    ((tfae sorted).out 1 2).1 same⟩

end View

end QuerySync
