import Mathlib.Algebra.Ring.Nat
import QuerySync.Liveness
import QuerySync.Proofs.Status

/-!
# Liveness of a page and of its rows

A page is counted, a row is looked at alone, and whether a page is live at all may be asked without
counting.  The three agree (`Liveness.page_agrees`), and what they say depends on little: not on the
order of the rows, nor on the order in which the statuses in progress are given or on how often, nor
on how a status is spelled.

All of it follows from when a status is in progress (`LiveStatuses.isInProgress_ofList_iff`): it can
be seen, and is alike to one of those that were given.
-/

namespace QuerySync

/-- A text is its own status. -/
instance : HasStatus String := ⟨some⟩

/-! ## Statuses in progress -/

namespace LiveStatuses

variable {statuses others : List String} {interval : Nat} {status? other? : Option String}

/-- A set holds the normal forms of its statuses, the blank one left out. -/
theorem mem_statuses_ofList {form : String} :
    form ∈ (ofList statuses interval).statuses ↔
      form ≠ "" ∧ ∃ status ∈ statuses, Status.normalize status = form := by
  rw [ofList, List.mem_filter, List.mem_map, decide_eq_true_iff, and_comm]

/-- A status is in progress exactly if it can be seen and is alike to one that was given. -/
theorem isInProgress_ofList_iff :
    (ofList statuses interval).isInProgress status? = true ↔
      ∃ text ∈ status?, Text.isBlank text = false ∧
        ∃ status ∈ statuses, Status.Alike status text := by
  have visible {text : String} : Status.normalize text ≠ "" ↔ Text.isBlank text = false := by
    rw [Ne, Status.normalize_eq_empty_iff, Bool.not_eq_true]
  simp only [isInProgress, Option.any_eq_true, List.contains_iff_mem, mem_statuses_ofList, visible,
    Status.normalize_eq_iff, Option.mem_def]

/-- Spelled in another way, a status stays in progress. -/
theorem isInProgress_of_alike (spelled : Option.Rel Status.Alike status? other?)
    (given : ∀ status ∈ statuses, ∃ other ∈ others, Status.Alike status other)
    (inProgress : (ofList statuses interval).isInProgress status? = true) :
    (ofList others interval).isInProgress other? = true := by
  obtain ⟨text, known, visible, status, member, alike⟩ := isInProgress_ofList_iff.1 inProgress
  cases spelled with
  | none => cases known
  | some respelled =>
    cases known
    obtain ⟨other, isOther, same⟩ := given status member
    exact isInProgress_ofList_iff.2 ⟨_, rfl, respelled.isBlank_eq ▸ visible, other, isOther,
      same.symm.trans (alike.trans respelled)⟩

/-- The spelling of statuses makes no difference, neither on the one side nor on the other. -/
theorem isInProgress_congr (spelled : Option.Rel Status.Alike status? other?)
    (given : ∀ status ∈ statuses, ∃ other ∈ others, Status.Alike status other)
    (givenBack : ∀ other ∈ others, ∃ status ∈ statuses, Status.Alike other status) :
    (ofList statuses interval).isInProgress status? =
      (ofList others interval).isInProgress other? := by
  have back : Option.Rel Status.Alike other? status? := by
    cases spelled with
    | none => exact .none
    | some alike => exact .some alike.symm
  rw [Bool.eq_iff_iff]
  exact ⟨isInProgress_of_alike spelled given, isInProgress_of_alike back givenBack⟩

end LiveStatuses

/-! ## Verdicts -/

theorem Verdict.inProgress_ofCount (interval : Nat) (count : Nat) :
    (ofCount interval count).inProgress = count := by
  rw [ofCount]
  split
  next none => exact none.symm
  next => rfl

/-- A verdict is live where something is in progress. -/
theorem Verdict.live_ofCount {interval : Nat} {count : Nat} :
    (ofCount interval count).live = true ↔ 0 < count := by
  rw [ofCount]
  split
  next none => simp [settled, none]
  next some => simp [Nat.pos_of_ne_zero some]

/-- Only a live verdict asks for another check. -/
theorem Verdict.nextCheck_ofCount (interval : Nat) (count : Nat) :
    (ofCount interval count).nextCheck =
      if (ofCount interval count).live then some interval else none := by
  rw [ofCount]
  split
  next => rfl
  next => rfl

namespace Liveness

variable {α β : Type} [HasStatus α] [HasStatus β] {set : LiveStatuses}

theorem live_item {row : α} : (item set row).live = true ↔ set.isLive row = true := by
  rw [item, Verdict.live_ofCount]
  cases set.isLive row <;> decide

/-- A page is live where one of its rows is. -/
theorem live_page {data : Page α} :
    (page set data).live = true ↔ ∃ row ∈ data.items, set.isLive row = true := by
  rw [page, Verdict.live_ofCount, List.countP_pos_iff]

/-- Each row in progress counts once. -/
theorem countP_isLive (rows : List α) :
    rows.countP set.isLive = (rows.map fun row => (item set row).inProgress).sum := by
  induction rows with
  | nil => rfl
  | cons row rest induction =>
    rw [List.countP_cons, List.map_cons, List.sum_cons, induction, Nat.add_comm, item,
      Verdict.inProgress_ofCount]
    cases set.isLive row <;> rfl

/-- Rows that are live alike make pages that are counted alike. -/
theorem page_congr {other : LiveStatuses} {rows : List α} {otherRows : List β}
    {total otherTotal : UInt64}
    (same : List.Forall₂ (fun row otherRow => set.isLive row = other.isLive otherRow)
      rows otherRows)
    (interval : set.interval = other.interval) :
    page set ⟨rows, total⟩ = page other ⟨otherRows, otherTotal⟩ := by
  have counts : rows.countP set.isLive = otherRows.countP other.isLive := by
    induction same with
    | nil => rfl
    | cons head rest induction => rw [List.countP_cons, List.countP_cons, induction, head]
  rw [page, page, interval, counts]

/-- The verdict on a page, told by the verdicts on its rows. -/
structure RowByRow (statuses : List String) (interval : Nat) (data : Page α) : Prop where
  /-- The rows in progress are counted. -/
  inProgress : (page (.ofList statuses interval) data).inProgress =
    (data.items.map fun row => (item (.ofList statuses interval) row).inProgress).sum
  /-- A page is live as it is without counting. -/
  live : (page (.ofList statuses interval) data).live =
    (LiveStatuses.ofList statuses interval).isLivePage data
  /-- A page is live if one of its rows is. -/
  live_iff : (page (.ofList statuses interval) data).live = true ↔
    ∃ row ∈ data.items, (item (.ofList statuses interval) row).live = true
  /-- Only a live page is looked at again, after the time between two looks. -/
  nextCheck : (page (.ofList statuses interval) data).nextCheck =
    if (page (.ofList statuses interval) data).live then some interval else none

/-- What the verdict on a page does not depend on. -/
structure Indifferent (statuses : List String) (interval : Nat) (data : Page α) : Prop where
  /-- The rows may come in any order. -/
  order : ∀ (rows : List α) (total : UInt64), data.items.Perm rows →
    page (.ofList statuses interval) ⟨rows, total⟩ = page (.ofList statuses interval) data
  /-- The statuses in progress may come in any order, and any number of times. -/
  given : ∀ others : List String, (∀ status, status ∈ statuses ↔ status ∈ others) →
    page (.ofList others interval) data = page (.ofList statuses interval) data
  /-- The statuses in progress and those of the rows may be spelled in another way. -/
  spelled : ∀ {β : Type} [HasStatus β] (rows : List β) (total : UInt64) (others : List String),
    List.Forall₂ (fun row other => Option.Rel Status.Alike (HasStatus.status row)
      (HasStatus.status other)) data.items rows →
    List.Forall₂ Status.Alike statuses others →
    page (.ofList others interval) ⟨rows, total⟩ = page (.ofList statuses interval) data
  /-- A row without a status that can be seen does not count. -/
  blank : ∀ row : α, (∀ text ∈ HasStatus.status row, Text.isBlank text = true) →
    item (.ofList statuses interval) row = .settled

variable {statuses others : List String} {interval : Nat} {data : Page α}

/-- The verdict of a page is made of those of its rows. -/
theorem rowByRow (statuses : List String) (interval : Nat) (data : Page α) :
    RowByRow statuses interval data where
  inProgress := by rw [page, Verdict.inProgress_ofCount, countP_isLive]
  live := by
    rw [Bool.eq_iff_iff, live_page, LiveStatuses.isLivePage, List.any_eq_true]
  live_iff := by simp only [live_page, live_item]
  nextCheck := Verdict.nextCheck_ofCount interval _

theorem exists_alike (alike : List.Forall₂ Status.Alike statuses others) :
    ∀ status ∈ statuses, ∃ other ∈ others, Status.Alike status other := by
  induction alike with
  | nil => exact nofun
  | cons same rest induction =>
    intro status member
    rcases List.mem_cons.1 member with rfl | later
    · exact ⟨_, .head _, same⟩
    · obtain ⟨other, isOther, alike⟩ := induction status later
      exact ⟨other, .tail _ isOther, alike⟩

/-- A row whose status says nothing is not live, whatever the set. -/
theorem isLive_eq_false_of_blank {row : α}
    (blank : ∀ text ∈ HasStatus.status row, Text.isBlank text = true) :
    (LiveStatuses.ofList statuses interval).isLive row = false := by
  refine Bool.eq_false_iff.2 fun live => ?_
  obtain ⟨text, known, visible, -⟩ := LiveStatuses.isInProgress_ofList_iff.1 live
  exact Bool.false_ne_true (visible.symm.trans (blank text known))

/-- Neither the order of the rows, nor repeated statuses, nor their spelling make a difference. -/
theorem indifferent (statuses : List String) (interval : Nat) (data : Page α) :
    Indifferent statuses interval data where
  order := fun rows total order => by
    rw [page, page, order.countP_eq]
  given := fun others same => by
    refine page_congr (List.forall₂_same.2 fun row _ => ?_) rfl
    rw [Bool.eq_iff_iff]
    simp only [LiveStatuses.isLive, LiveStatuses.isInProgress_ofList_iff, same]
  spelled := fun rows total others rowsAlike alike => by
    have back : List.Forall₂ Status.Alike others statuses :=
      (alike.imp fun _ _ same => same.symm).flip
    have same : List.Forall₂ (fun row other =>
        (LiveStatuses.ofList statuses interval).isLive row =
          (LiveStatuses.ofList others interval).isLive other) data.items rows :=
      rowsAlike.imp fun _ _ same =>
        LiveStatuses.isInProgress_congr same (exists_alike alike) (exists_alike back)
    exact (page_congr same rfl).symm
  blank := fun row blank => by
    rw [item, isLive_eq_false_of_blank blank]
    rfl

/-- A page is judged by its rows, each for itself, and by nothing else than which of their statuses
are in progress. -/
theorem page_agrees (statuses : List String) (interval : Nat) (data : Page α) :
    RowByRow statuses interval data ∧ Indifferent statuses interval data :=
  ⟨rowByRow statuses interval data, indifferent statuses interval data⟩

/-- Rows in another order and in another spelling, statuses in progress that are given twice, and
rows without a status that can be seen. -/
theorem page_agrees_respelled :
    let statuses := ["Running", " queued"]
    let data : Page (Option String) :=
      { items := [some "RUNNING\t", none, some "failed", some " "] }
    let rows := [some "failed", some "RUNNING\t", some " ", none]
    let others := [" queued", "Running", "Running"]
    let respelled := [some "\u3000running", none, some "Failed", some "\u0085"]
    let verdict : Verdict := { live := true, inProgress := 1, nextCheck := some 500 }
    RowByRow statuses 500 data ∧
      page (.ofList statuses 500) data = verdict ∧
      data.items.Perm rows ∧ page (.ofList statuses 500) ⟨rows, 0⟩ = verdict ∧
      (∀ status, status ∈ statuses ↔ status ∈ others) ∧
      page (.ofList others 500) data = verdict ∧
      List.Forall₂ (fun row other => Option.Rel Status.Alike (HasStatus.status row)
        (HasStatus.status other)) data.items respelled ∧
      List.Forall₂ Status.Alike statuses ["running ", "QUEUED"] ∧
      page (.ofList ["running ", "QUEUED"] 500) ⟨respelled, 4⟩ = verdict ∧
      (∀ text ∈ HasStatus.status (some " "), Text.isBlank text = true) ∧
      item (.ofList statuses 500) (some " ") = .settled := by
  intro statuses data rows others respelled verdict
  obtain ⟨rowByRow, indifferent⟩ := page_agrees statuses 500 data
  have judged : page (.ofList statuses 500) data = verdict := by decide
  have order : data.items.Perm rows := by decide
  have given : ∀ status, status ∈ statuses ↔ status ∈ others := by
    grind
  have alike : List.Forall₂ (fun row other => Option.Rel Status.Alike (HasStatus.status row)
      (HasStatus.status other)) data.items respelled :=
    .cons (.some (by decide)) <| .cons .none <| .cons (.some (by decide)) <|
      .cons (.some (by decide)) .nil
  have spelled : List.Forall₂ Status.Alike statuses ["running ", "QUEUED"] :=
    .cons (by decide) (.cons (by decide) .nil)
  have blank : ∀ text ∈ HasStatus.status (some " "), Text.isBlank text = true := by decide
  exact ⟨rowByRow, judged, order, (indifferent.order rows 0 order).trans judged, given,
    (indifferent.given others given).trans judged, alike, spelled,
    (indifferent.spelled respelled 4 _ alike spelled).trans judged, blank,
    indifferent.blank (some " ") blank⟩

end Liveness

end QuerySync
