import QuerySync.Execution.Phase
import QuerySync.Proofs.Liveness

/-!
# Phases that are read and phases that are in progress

There are two ways to find out from a text whether an execution may still change.  The text may be
read as a phase, and the phase be asked, or the text may be looked up among the statuses in
progress.  Reading takes hyphens for underscores, and looking up does not.

The two agree on every text (`Phase.inProgress_agrees`).  A hyphen can make a difference only to a
name with an underscore, and no phase in progress has one in its name
(`ofText?_eq_some_iff_of_isInProgress`).
-/

namespace QuerySync

namespace Phase

variable {phase : Phase} {text : String} {interval : Nat}

/-! ## Hyphens and underscores -/

/-- A character with an underscore for a hyphen. -/
def underscore (c : Char) : Char := if c = '-' then '_' else c

/-- Where there is no hyphen, nothing changes. -/
theorem map_underscore_of_hyphenless (hyphenless : '-' ∉ text.toList) :
    text.map underscore = text := by
  have kept : ∀ c ∈ text.toList, underscore c = id c := by
    intro c member
    have other : c ≠ '-' := fun same => hyphenless (same ▸ member)
    simp only [underscore, if_neg other, id]
  rw [← String.toList_inj, String.toList_map, List.map_congr_left kept, List.map_id]

/-- Every hyphen leaves an underscore behind. -/
theorem hyphenless_of_map_underscore (plain : '_' ∉ (text.map underscore).toList) :
    '-' ∉ text.toList := by
  intro hyphen
  rw [String.toList_map] at plain
  exact plain (List.mem_map.2 ⟨'-', hyphen, rfl⟩)

/-- A name with neither character is made from itself alone. -/
theorem map_underscore_eq_iff {name : String} (plain : '_' ∉ name.toList)
    (hyphenless : '-' ∉ name.toList) : text.map underscore = name ↔ text = name := by
  constructor
  · rintro rfl
    exact (map_underscore_of_hyphenless (hyphenless_of_map_underscore plain)).symm
  · rintro rfl
    exact map_underscore_of_hyphenless hyphenless

/-! ## Names -/

theorem hyphenless_name (phase : Phase) : '-' ∉ phase.name.toList := by
  cases phase <;> decide

theorem normalize_name (phase : Phase) : Status.normalize phase.name = phase.name := by
  cases phase <;> decide

theorem name_ne_empty (phase : Phase) : phase.name ≠ "" := by
  cases phase <;> decide

/-- In progress is what has not ended, the phase that is not known left out. -/
theorem isInProgress_iff :
    phase.isInProgress = true ↔ phase.isTerminal = false ∧ phase ≠ undefined := by
  simp only [isInProgress, Bool.and_eq_true, Bool.not_eq_true', bne_iff_ne]

/-- The one name with an underscore is that of a terminal phase. -/
theorem plain_name_of_isInProgress (inProgress : phase.isInProgress = true) :
    '_' ∉ phase.name.toList := by
  revert inProgress
  cases phase <;> decide

theorem mem_inProgressNames {name : String} :
    name ∈ inProgressNames ↔ ∃ phase : Phase, phase.isInProgress = true ∧ phase.name = name := by
  simp only [inProgressNames, List.mem_map, List.mem_filter, mem_all, true_and]

/-! ## Reading a phase -/

/-- A name of a phase is normalised as a status, with underscores for hyphens. -/
theorem normalizeName_eq_map_underscore (text : String) :
    normalizeName text = (Status.normalize text).map underscore := by
  rw [← String.toList_inj, normalizeName, String.toList_map, String.toList_ofList]
  rfl

/-- A text is read as the phase whose name its normal form is. -/
theorem ofText?_eq_some_iff :
    ofText? text = some phase ↔ (Status.normalize text).map underscore = phase.name := by
  rw [ofText?, ofName?_eq_some_iff, normalizeName_eq_map_underscore, eq_comm]

/-- To be read as a phase in progress, a text has to be its name as it is, but for white space
around it and for case. -/
theorem ofText?_eq_some_iff_of_isInProgress (inProgress : phase.isInProgress = true) :
    ofText? text = some phase ↔ Status.normalize text = phase.name := by
  rw [ofText?_eq_some_iff,
    map_underscore_eq_iff (plain_name_of_isInProgress inProgress) (hyphenless_name phase)]

/-! ## Looking up a status -/

/-- The statuses in progress are the names of the phases in progress. -/
theorem mem_statuses_iff {form : String} :
    form ∈ (LiveStatuses.ofList inProgressNames interval).statuses ↔
      ∃ phase : Phase, phase.isInProgress = true ∧ form = phase.name := by
  rw [LiveStatuses.mem_statuses_ofList]
  constructor
  · rintro ⟨-, status, given, rfl⟩
    obtain ⟨phase, inProgress, rfl⟩ := mem_inProgressNames.1 given
    exact ⟨phase, inProgress, normalize_name phase⟩
  · rintro ⟨phase, inProgress, rfl⟩
    have given : phase.name ∈ inProgressNames := mem_inProgressNames.2 ⟨phase, inProgress, rfl⟩
    exact ⟨name_ne_empty phase, phase.name, given, normalize_name phase⟩

/-- Unless a view says otherwise, the statuses in progress are the names of the phases in
progress. -/
theorem isInProgress_inProgressNames_iff :
    (LiveStatuses.ofList inProgressNames interval).isInProgress (some text) = true ↔
      ∃ phase : Phase, phase.isInProgress = true ∧ Status.normalize text = phase.name := by
  rw [LiveStatuses.isInProgress, Option.any_some, List.contains_iff_mem, mem_statuses_iff]

/-- A text is in progress exactly if it is read as a phase that is neither terminal nor undefined,
and it is read as the phase whose name is left of it without the white space around it, in lower
case and with underscores for hyphens. -/
theorem inProgress_agrees (interval : Nat) (text : String) :
    ((LiveStatuses.ofList inProgressNames interval).isInProgress (some text) = true ↔
      ∃ phase, ofText? text = some phase ∧ phase.isTerminal = false ∧ phase ≠ undefined) ∧
    ∀ phase, ofText? text = some phase ↔
      ((Text.trim text).map Char.toLower).map underscore = phase.name := by
  constructor
  · rw [isInProgress_inProgressNames_iff]
    constructor
    · rintro ⟨phase, inProgress, named⟩
      exact ⟨phase, (ofText?_eq_some_iff_of_isInProgress inProgress).2 named,
        isInProgress_iff.1 inProgress⟩
    · rintro ⟨phase, read, unfinished⟩
      have inProgress := isInProgress_iff.2 unfinished
      exact ⟨phase, inProgress, (ofText?_eq_some_iff_of_isInProgress inProgress).1 read⟩
  · intro phase
    rw [ofText?_eq_some_iff, Status.normalize_eq_map_trim]

end Phase

end QuerySync
