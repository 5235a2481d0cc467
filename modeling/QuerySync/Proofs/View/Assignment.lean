import QuerySync.Proofs.View.Parts
import QuerySync.Proofs.View.Reencoding

/-!
# Setting one parameter

A view has an edit for each of its parameters (`View.editFor`).  It does what writing the text into
the location would do, and going back to the first page unless the parameter is the page
(`View.apply_editFor`).  So the text is understood alike in both places, whatever it is.

There are three exceptions.  Setting the sort field to the one that is sorted on turns the sort, so
the sort field is left out.  A direction other than `true` and `false` is `false` for the edit, and
none in a location.  A page size that the view does not allow is ignored by the edit, and in a
location it is the default one.
-/

namespace QuerySync

namespace Params

/-- Parameters with one of them set.  They name no page, unless the page is what is set. -/
def assign (params : Params) (key value : String) : Params :=
  if key = ParamName.page then params.insert key value
  else (params.insert key value).erase ParamName.page

variable {params : Params} {key value name : String}

theorem get?_assign_self : (params.assign key value).get? key = some value := by
  unfold assign
  split
  next => simp
  next notPage => simp [notPage]

/-- Assigning another parameter drops the page, as an edit does. -/
theorem get?_assign_page (notPage : key ≠ ParamName.page) :
    (params.assign key value).get? ParamName.page = none := by
  simp [assign, notPage]

/-- Every parameter but the assigned one and the page keeps its text. -/
theorem get?_assign_of_ne (different : name ≠ key) (notPage : name ≠ ParamName.page) :
    (params.assign key value).get? name = params.get? name := by
  unfold assign
  split
  next => simp [Ne.symm different]
  next => simp [Ne.symm different, notPage]

end Params

namespace View

variable {view : View} {params : Params} {key value : String} {part : Query.Part}

/-! ## The edit for each parameter -/

theorem editFor_search : view.editFor ParamName.search value = .setSearch (some value) := if_pos rfl

theorem editFor_sortBy : view.editFor ParamName.sortBy value = .sortBy value :=
  (if_neg (by decide)).trans (if_pos rfl)

theorem editFor_descending :
    view.editFor ParamName.descending value = .setDirection (value = "true") :=
  (if_neg (by decide)).trans ((if_neg (by decide)).trans (if_pos rfl))

theorem editFor_page :
    view.editFor ParamName.page value = .goToPage ((pageIndex? value).getD 0) :=
  (if_neg (by decide)).trans ((if_neg (by decide)).trans ((if_neg (by decide)).trans (if_pos rfl)))

/-- A size that is no numeral is the default size, which an edit always heeds. -/
theorem editFor_pageSize :
    view.editFor ParamName.pageSize value = .setPageSize
      ((Text.Numeral.readUInt32? (Text.trim value)).getD view.defaultPageSize) :=
  (if_neg (by decide)).trans ((if_neg (by decide)).trans ((if_neg (by decide)).trans
    ((if_neg (by decide)).trans (if_pos rfl))))

/-- Filter keys are never reserved names, so the edit for one sets its filter. -/
theorem editFor_of_isFilterKey (valid : view.Valid) (isFilter : view.isFilterKey key = true) :
    view.editFor key value = .setFilter key (Text.tokens value) := by
  have different {name : String} (reserved : name ∈ ParamName.reserved) : key ≠ name :=
    valid.ne_of_mem_reserved isFilter reserved
  rw [editFor, if_neg (different (by decide)), if_neg (different (by decide)),
    if_neg (different (by decide)), if_neg (different (by decide)), if_neg (different (by decide))]

/-- The edit for a parameter is for the part that is read from it. -/
theorem mem_namesOf_of_addresses (valid : view.Valid) (owned : view.owns key = true)
    (addressed : (view.editFor key value).Addresses part) : key ∈ view.namesOf part := by
  rcases owns_iff.1 owned with reserved | isFilter
  · simp only [ParamName.reserved, List.mem_cons, List.not_mem_nil, or_false] at reserved
    rcases reserved with rfl | rfl | rfl | rfl | rfl
    · rw [editFor_search] at addressed
      obtain rfl := addressed
      exact List.mem_singleton_self _
    · rw [editFor_sortBy] at addressed
      obtain rfl := addressed
      exact List.mem_cons_self
    · rw [editFor_descending] at addressed
      obtain rfl := addressed
      exact List.mem_cons_of_mem _ List.mem_cons_self
    · rw [editFor_page] at addressed
      obtain rfl := addressed
      exact List.mem_singleton_self _
    · rw [editFor_pageSize] at addressed
      obtain rfl := addressed
      exact List.mem_singleton_self _
  · rw [editFor_of_isFilterKey valid isFilter] at addressed
    obtain rfl := addressed
    exact mem_namesOf_filter.2 ⟨rfl, isFilter⟩

/-- The page is read from its own parameter, and nothing else is. -/
theorem ne_page_of_mem_namesOf (valid : view.Valid) (notPage : part ≠ .page) {name : String}
    (member : name ∈ view.namesOf part) : name ≠ ParamName.page := by
  rintro rfl
  cases part with
  | filter key =>
    obtain ⟨rfl, isFilter⟩ := mem_namesOf_filter.1 member
    exact valid.not_mem_reserved isFilter (by decide)
  | page => exact notPage rfl
  | search => exact absurd (List.mem_singleton.1 member) (by decide)
  | sort => exact absurd member (show ParamName.page ∉ [_, _] by decide)
  | pageSize => exact absurd (List.mem_singleton.1 member) (by decide)

/-! ## Part by part -/

/-- The two spellings of a direction are the texts that are read as one. -/
theorem direction?_of_spelled (spelled : value = "true" ∨ value = "false") :
    direction? value = some (decide (value = "true")) := by
  rcases spelled with rfl | rfl
  · rfl
  · rfl

theorem pageIndex?_getD_le (text : String) : (pageIndex? text).getD 0 ≤ maxPageIndex := by
  cases read : pageIndex? text with
  | none => decide
  | some index => exact pageIndex?_le read

/-- A text is the number of rows of a page that the view allows, or no number. -/
def SizeAllowed (view : View) (text : String) : Prop :=
  ∀ size, Text.Numeral.readUInt32? (Text.trim text) = some size → size ∈ view.allowedPageSizes

section
variable (valid : view.Valid) (params : Params) (owned : view.owns key = true)
  (notSort : key ≠ ParamName.sortBy)
  (direction : key = ParamName.descending → value = "true" ∨ value = "false")
  (size : key = ParamName.pageSize → view.SizeAllowed value)
include valid

/-- The size asked for is allowed, whether the text spells it or leaves it to the default. -/
theorem sizeAllowed_getD (allowed : view.SizeAllowed value) :
    (Text.Numeral.readUInt32? (Text.trim value)).getD view.defaultPageSize ∈
      view.allowedPageSizes := by
  cases read : Text.Numeral.readUInt32? (Text.trim value) with
  | none => exact valid.defaultPageSize
  | some size => exact allowed size read

/-- On allowed texts, the reader of page sizes is the reader of numerals. -/
theorem pageSize?_getD (allowed : view.SizeAllowed value) :
    (view.pageSize? value).getD view.defaultPageSize =
      (Text.Numeral.readUInt32? (Text.trim value)).getD view.defaultPageSize := by
  unfold pageSize?
  cases read : Text.Numeral.readUInt32? (Text.trim value) with
  | none => rfl
  | some size =>
    have isSize : view.pageSizes.contains size = true := by
      rw [valid.pageSizes_eq]
      exact List.contains_iff_mem.2 (allowed size read)
    rw [Option.filter_some, if_pos isSize]

include owned notSort size

/-- The view has a place for the edit. -/
theorem not_ignores_editFor : ¬ view.Ignores (view.editFor key value) := by
  rcases owns_iff.1 owned with reserved | isFilter
  · simp only [ParamName.reserved, List.mem_cons, List.not_mem_nil, or_false] at reserved
    rcases reserved with rfl | rfl | rfl | rfl | rfl
    · rw [editFor_search]
      exact id
    · exact absurd rfl notSort
    · rw [editFor_descending]
      exact id
    · rw [editFor_page]
      exact id
    · rw [editFor_pageSize]
      exact not_not_intro (sizeAllowed_getD valid (size rfl))
  · rw [editFor_of_isFilterKey valid isFilter]
    exact not_not_intro (List.contains_iff_mem.1 isFilter)

include direction

/-- The part that is read from the parameter. -/
theorem part_apply_editFor (member : key ∈ view.namesOf part) :
    (view.apply (view.decode params) (view.editFor key value)).part part =
      (view.decode (params.assign key value)).part part := by
  have canonical := decode_canonical valid params
  have written : (params.assign key value).get? key = some value := Params.get?_assign_self
  cases part with
  | search =>
    obtain rfl := List.mem_singleton.1 member
    rw [editFor_search, apply_setSearch valid canonical]
    exact congrArg (·.bind Text.nonblank?) written.symm
  | sort =>
    rcases List.mem_cons.1 member with isField | member
    · exact absurd isField notSort
    obtain rfl := List.mem_singleton.1 member
    have field : textParam? (params.assign ParamName.descending value) ParamName.sortBy =
        textParam? params ParamName.sortBy :=
      congrArg (·.bind Text.nonblank?) (Params.get?_assign_of_ne (by decide) (by decide))
    have spelled : view.direction (params.assign ParamName.descending value) =
        fun _ => decide (value = "true") := by
      funext name
      rw [View.direction, written, Option.bind_some, direction?_of_spelled (direction rfl),
        Option.getD_some]
    rw [editFor_descending, apply_setDirection valid canonical]
    simp only [Query.part, decode, field, spelled]
    cases view.sortFieldOr (textParam? params ParamName.sortBy) with
    | none => rfl
    | some name => rfl
  | filter other =>
    obtain ⟨rfl, isFilter⟩ := mem_namesOf_filter.1 member
    obtain ⟨filters, applies, found⟩ := apply_setFilter valid canonical isFilter (Text.tokens value)
    rw [editFor_of_isFilterKey valid isFilter, applies]
    refine ((found key).trans (if_pos rfl)).trans ?_
    show _ = (view.filtersOf Text.tokens _).get? key
    rw [get?_filtersOf, if_pos isFilter, written, Option.bind_some,
      Text.allTokens_of_forall_isToken fun token => Text.isToken_of_mem_tokens]
  | page =>
    obtain rfl := List.mem_singleton.1 member
    rw [editFor_page, apply_goToPage valid canonical,
      Nat.min_eq_left (UInt32.le_iff_toNat_le.1 (pageIndex?_getD_le value)), UInt32.ofNat_toNat]
    simp only [Query.part, decode, written, Option.bind_some]
    rfl
  | pageSize =>
    obtain rfl := List.mem_singleton.1 member
    have allowed := size rfl
    rw [editFor_pageSize, apply_setPageSize valid canonical (sizeAllowed_getD valid allowed),
      ← pageSize?_getD valid allowed]
    simp only [Query.part, decode, written, Option.bind_some]
    rfl

end

/-- Setting a parameter by its edit shows what the location shows with the parameter in it, on the
first page unless that is what is set. -/
theorem apply_editFor (valid : view.Valid) (params : Params) (key value : String)
    (owned : view.owns key = true) (notSort : key ≠ ParamName.sortBy)
    (direction : key = ParamName.descending → value = "true" ∨ value = "false")
    (size : key = ParamName.pageSize → view.SizeAllowed value) :
    view.apply (view.decode params) (view.editFor key value) =
      view.decode (params.assign key value) := by
  have canonical := decode_canonical valid params
  refine Query.ext_part fun part => ?_
  by_cases member : key ∈ view.namesOf part
  · exact part_apply_editFor valid params owned notSort direction size member
  have unaddressed : ¬ (view.editFor key value).Addresses part :=
    fun addressed => member (mem_namesOf_of_addresses valid owned addressed)
  by_cases isPage : part = .page
  · subst isPage
    have notPage : key ≠ ParamName.page := fun same => member (List.mem_singleton.2 same)
    have first : (view.apply (view.decode params) (view.editFor key value)).pageIndex = 0 :=
      pageIndex_apply valid (Edit.resetsPage_of_not_addresses unaddressed)
        (not_ignores_editFor valid owned notSort size)
    refine first.trans ?_
    show 0 = (((params.assign key value).get? ParamName.page).bind pageIndex?).getD 0
    rw [Params.get?_assign_page notPage]
    rfl
  · rw [part_apply_of_not_addresses valid canonical unaddressed isPage]
    refine part_decode_congr fun name isName => (Params.get?_assign_of_ne ?_ ?_).symm
    · exact fun same => member (same ▸ isName)
    · exact ne_page_of_mem_namesOf valid isPage isName

/-- A list with parts that are no tokens, a direction of a view that does not sort, the last number
of a page with white space and a sign, and a page size that is no number. -/
theorem apply_editFor_oddly_spelled :
    let view : View := { name := "runs", filterKeys := ["status"] }
    let params := KeyMap.ofList [("page", "3"), ("rows_per_page", "50"), ("status", "a")]
    let shown := fun key value => view.apply (view.decode params) (view.editFor key value)
    view.Valid ∧
      shown "status" " running,, ,queued" =
        view.decode (KeyMap.ofList [("rows_per_page", "50"), ("status", " running,, ,queued")]) ∧
      shown "descending" "true" =
        view.decode (KeyMap.ofList [("descending", "true"), ("rows_per_page", "50"),
          ("status", "a")]) ∧
      shown "page" "\t+4294967295 " =
        view.decode (KeyMap.ofList [("page", "\t+4294967295 "), ("rows_per_page", "50"),
          ("status", "a")]) ∧
      shown "rows_per_page" "-1" =
        view.decode (KeyMap.ofList [("rows_per_page", "-1"), ("status", "a")]) := by
  intro view params shown
  have valid : view.Valid := by decide
  have noNumber : Text.Numeral.readUInt32? (Text.trim "-1") = none := by decide
  have noSize : view.SizeAllowed "-1" := fun size reads => nomatch noNumber.symm.trans reads
  have status := apply_editFor valid params "status" " running,, ,queued" (by decide) (by decide)
    (fun same => absurd same (by decide)) fun same => absurd same (by decide)
  have descending := apply_editFor valid params "descending" "true" (by decide) (by decide)
    (fun _ => .inl rfl) fun same => absurd same (by decide)
  have page := apply_editFor valid params "page" "\t+4294967295 " (by decide) (by decide)
    (fun same => absurd same (by decide)) fun same => absurd same (by decide)
  have size := apply_editFor valid params "rows_per_page" "-1" (by decide) (by decide)
    (fun same => absurd same (by decide)) fun _ => noSize
  refine ⟨valid, status.trans (congrArg view.decode ?_),
    descending.trans (congrArg view.decode ?_), page.trans (congrArg view.decode ?_),
    size.trans (congrArg view.decode ?_)⟩
  · decide
  · decide
  · decide
  · decide

end View

end QuerySync
