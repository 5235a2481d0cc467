import QuerySync.View

/-!
# Problems of a configuration

The first thing that is wrong with the configuration of a view, in the order name,
page sizes, poll interval, sort, filters.  `View.Valid` says what is right when
nothing is wrong, and `problem?_eq_none_iff` that the two agree.
-/

namespace QuerySync.View

/-- The shortest time between two polls, in milliseconds.  Anything shorter keeps a
program busy. -/
def minPollInterval : UInt64 := 100

/-- What may be wrong with a view. -/
inductive Problem where
  /-- The name is blank. -/
  | blankName
  /-- No page size is allowed. -/
  | noPageSizes
  /-- A page without rows is allowed. -/
  | zeroPageSize
  /-- The default page size is not allowed. -/
  | defaultPageSizeNotAllowed (size : UInt32)
  /-- The time between two polls is too short. -/
  | shortPollInterval
  /-- The field of the default sort is blank. -/
  | blankSortField
  /-- A filter has no name. -/
  | emptyFilterKey
  /-- A filter has the name of a parameter that every view has. -/
  | reservedFilterKey (key : String)
deriving DecidableEq, Repr

/-- The wording of a problem. -/
def Problem.message : Problem → String
  | blankName => "name must not be empty"
  | noPageSizes => "allowed_page_sizes must not be empty"
  | zeroPageSize => "allowed_page_sizes must be greater than 0"
  | defaultPageSizeNotAllowed size =>
    s!"default_page_size {size.toNat} is not one of allowed_page_sizes"
  | shortPollInterval => s!"poll_interval_ms must be at least {minPollInterval.toNat}"
  | blankSortField => "default_sort.field must not be empty"
  | emptyFilterKey => "filter keys must not be empty"
  | reservedFilterKey key => s!"filter key `{key}` is reserved"

/-- What is wrong with the name of a filter. -/
def filterKeyProblem? (key : String) : Option Problem :=
  if key = "" then some .emptyFilterKey
  else if key ∈ ParamName.reserved then some (.reservedFilterKey key)
  else none

/-- The first thing that is wrong with a view. -/
def problem? (view : View) : Option Problem :=
  if Text.isBlank view.name then some .blankName
  else if view.allowedPageSizes = [] then some .noPageSizes
  else if 0 ∈ view.allowedPageSizes then some .zeroPageSize
  else if view.defaultPageSize ∉ view.allowedPageSizes then
    some (.defaultPageSizeNotAllowed view.defaultPageSize)
  else if view.pollInterval < minPollInterval then some .shortPollInterval
  else if view.defaultSort.any fun sort => Text.isBlank sort.field then some .blankSortField
  else view.filterKeys.findSome? filterKeyProblem?

/-- A view without problems. -/
structure Valid (view : View) : Prop where
  /-- The name can be seen. -/
  name : Text.isBlank view.name = false
  /-- Every page has a row. -/
  pageSizes : 0 ∉ view.allowedPageSizes
  /-- The default page size is allowed. -/
  defaultPageSize : view.defaultPageSize ∈ view.allowedPageSizes
  /-- Polls do not keep a program busy. -/
  pollInterval : minPollInterval ≤ view.pollInterval
  /-- The field of the default sort can be seen. -/
  defaultSort : ∀ sort ∈ view.defaultSort, Text.isBlank sort.field = false
  /-- Filters have names of their own. -/
  filterKeys : ∀ key ∈ view.filterKeys, key ≠ "" ∧ key ∉ ParamName.reserved

/-- A filter key may be anything but empty and one of the reserved names. -/
theorem filterKeyProblem?_eq_none_iff {key : String} :
    filterKeyProblem? key = none ↔ key ≠ "" ∧ key ∉ ParamName.reserved := by
  unfold filterKeyProblem?
  split
  next empty => simp [empty]
  next nonempty =>
    split
    next reserved => simp [reserved]
    next free => simp [nonempty, free]

theorem Valid.allowedPageSizes_ne_nil {view : View} (valid : view.Valid) :
    view.allowedPageSizes ≠ [] :=
  List.ne_nil_of_mem valid.defaultPageSize

/-- Nothing is wrong with exactly the valid views. -/
theorem problem?_eq_none_iff {view : View} : view.problem? = none ↔ view.Valid := by
  constructor
  · intro fine
    unfold problem? at fine
    repeat' (split at fine; · exact nomatch fine)
    next name _ pageSizes defaultPageSize pollInterval defaultSort =>
      refine ⟨by simpa using name, pageSizes, Decidable.not_not.1 defaultPageSize,
        UInt64.not_lt.1 pollInterval, fun sort member => ?_, fun key member =>
          filterKeyProblem?_eq_none_iff.1 (List.findSome?_eq_none_iff.1 fine key member)⟩
      rw [Option.mem_def.1 member] at defaultSort
      simpa using defaultSort
  · intro valid
    have sort : (view.defaultSort.any fun sort => Text.isBlank sort.field) = false := by
      cases given : view.defaultSort with
      | none => rfl
      | some sort => exact valid.defaultSort sort given
    simp only [problem?, valid.name, valid.allowedPageSizes_ne_nil, valid.pageSizes,
      valid.defaultPageSize, UInt64.not_lt.2 valid.pollInterval, sort, if_false, not_true_eq_false,
      Bool.false_eq_true]
    exact List.findSome?_eq_none_iff.2 fun key member =>
      filterKeyProblem?_eq_none_iff.2 (valid.filterKeys key member)

instance (view : View) : Decidable view.Valid := decidable_of_iff _ problem?_eq_none_iff

/-- A preset is valid under any name that can be seen. -/
theorem valid_preset {name : String} (visible : Text.isBlank name = false) (kind : EntityKind) :
    (preset name kind).Valid where
  name := visible
  pageSizes := show (0 : UInt32) ∉ [10, 25, 50, 100] by decide
  defaultPageSize := show (25 : UInt32) ∈ [10, 25, 50, 100] by decide
  pollInterval := show minPollInterval ≤ 10000 by decide
  defaultSort := fun sort member => by
    obtain rfl : presetSort kind = sort := by simpa [preset] using member
    cases kind <;> decide
  filterKeys := show ∀ key ∈ presetFilterKeys kind, key ≠ "" ∧ key ∉ ParamName.reserved by
    cases kind <;> decide

end QuerySync.View
