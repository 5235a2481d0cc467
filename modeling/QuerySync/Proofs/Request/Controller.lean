import QuerySync.Request.Controller

/-!
# Laws of a controller

At all times the active generation is the latest one, was not cancelled, and is none after the
end (`Controller.Coherent`).  Whatever is done to a controller keeps it so, and a generation
that may no longer deliver never may again (`Controller.Stale`).
-/

namespace QuerySync.Controller

variable {controller next : Controller} {generation : Nat}

/-! ## What each operation gives -/

/-- A generation is current if it is active and nothing is over. -/
theorem isCurrent_iff :
    controller.isCurrent generation = true ↔
      controller.disposed = false ∧ controller.active = some generation := by
  simp [isCurrent]

theorem isCancelled_iff :
    controller.isCancelled generation = true ↔ generation ∈ controller.cancelled := by
  simp [isCancelled]

/-- A generation is issued unless all is over.  It is the next one, it is active, and the one before
it is cancelled. -/
theorem issue_eq_ok_iff :
    controller.issue = .ok (generation, next) ↔
      controller.disposed = false ∧ generation = controller.issued + 1 ∧
        next = { controller.cancel with issued := generation, active := some generation } := by
  unfold issue
  split
  next disposed => simp [disposed]
  next active =>
    constructor
    · rintro ⟨⟩
      exact ⟨by simpa using active, rfl, rfl⟩
    · rintro ⟨-, rfl, rfl⟩
      rfl

/-- Only after the end no generation is issued. -/
theorem issue_eq_error {error : SyncError} (refused : controller.issue = .error error) :
    controller.disposed = true ∧ error = .disposed := by
  unfold issue at refused
  split at refused
  next disposed =>
    cases refused
    exact ⟨disposed, rfl⟩
  next => exact nomatch refused

theorem dispose_of_active (active : controller.disposed = false) :
    controller.dispose = { controller.cancel with disposed := true } := by
  simp [dispose, active]

theorem dispose_of_disposed (disposed : controller.disposed = true) :
    controller.dispose = controller := by
  simp [dispose, disposed]

/-- The current generation delivers, and nobody is active after it. -/
theorem resolve_of_isCurrent (current : controller.isCurrent generation = true) :
    controller.resolve generation = ({ controller with active := none }, none) := by
  simp [resolve, current]

/-- Any other generation is refused, which is counted. -/
theorem resolve_of_not_isCurrent (superseded : controller.isCurrent generation = false) :
    controller.resolve generation =
      ({ controller with discarded := controller.discarded + 1 },
        some (if controller.disposed then .disposed else .cancelled)) := by
  simp [resolve, superseded]

@[simp] theorem issued_cancel : controller.cancel.issued = controller.issued := rfl

@[simp] theorem issued_dispose : controller.dispose.issued = controller.issued := by
  unfold dispose
  split <;> rfl

@[simp] theorem issued_resolve : (controller.resolve generation).1.issued = controller.issued := by
  unfold resolve
  split <;> rfl

theorem mem_cancelled_cancel (member : generation ∈ controller.cancelled) :
    generation ∈ controller.cancel.cancelled :=
  List.mem_append_right _ member

/-- What is active is cancelled when another one takes over. -/
theorem mem_cancelled_of_active (active : controller.active = some generation) :
    generation ∈ controller.cancel.cancelled :=
  List.mem_append_left _ (Option.mem_toList.2 active)

/-- What is cancelled stays so when a generation is issued. -/
theorem mem_cancelled_issue {latest : Nat} (issued : controller.issue = .ok (latest, next))
    (member : generation ∈ controller.cancelled) : generation ∈ next.cancelled := by
  obtain ⟨-, -, rfl⟩ := issue_eq_ok_iff.1 issued
  exact mem_cancelled_cancel member

/-- It stays so after the end. -/
theorem mem_cancelled_dispose (member : generation ∈ controller.cancelled) :
    generation ∈ controller.dispose.cancelled := by
  cases disposed : controller.disposed with
  | true =>
    rw [dispose_of_disposed disposed]
    exact member
  | false =>
    rw [dispose_of_active disposed]
    exact mem_cancelled_cancel member

/-! ## What holds at all times -/

/-- The active generation is the latest one and was not cancelled. -/
structure Coherent (controller : Controller) : Prop where
  /-- Nobody but the latest generation is active. -/
  latest : ∀ {generation}, controller.active = some generation → generation = controller.issued
  /-- The active generation is numbered from one. -/
  positive : ∀ {generation}, controller.active = some generation → 0 < generation
  /-- The active generation was not cancelled. -/
  uncancelled : ∀ {generation}, controller.active = some generation →
    generation ∉ controller.cancelled
  /-- What was cancelled was issued. -/
  cancelled : ∀ generation ∈ controller.cancelled, generation ≤ controller.issued
  /-- Nobody is active after the end. -/
  disposed : controller.disposed = true → controller.active = none

theorem coherent_initial : Coherent {} where
  latest := nofun
  positive := nofun
  uncancelled := nofun
  cancelled := nofun
  disposed := fun _ => rfl

theorem Coherent.cancel (coherent : controller.Coherent) : controller.cancel.Coherent where
  latest := nofun
  positive := nofun
  uncancelled := nofun
  cancelled := fun generation member => by
    rcases List.mem_append.1 member with wasActive | before
    · exact Nat.le_of_eq (coherent.latest (Option.mem_toList.1 wasActive))
    · exact coherent.cancelled generation before
  disposed := fun _ => rfl

/-- The generation that is issued is the latest one. -/
theorem Coherent.issue (coherent : controller.Coherent)
    (issued : controller.issue = .ok (generation, next)) : next.Coherent := by
  obtain ⟨active, rfl, rfl⟩ := issue_eq_ok_iff.1 issued
  have older := coherent.cancel.cancelled
  constructor
  · rintro _ ⟨⟩
    rfl
  · rintro _ ⟨⟩
    exact Nat.succ_pos _
  · rintro _ ⟨⟩ member
    exact absurd (older _ member) (Nat.not_succ_le_self _)
  · exact fun generation member => Nat.le_succ_of_le (older generation member)
  · intro disposed
    exact absurd (active.symm.trans disposed) Bool.false_ne_true

theorem Coherent.dispose (coherent : controller.Coherent) : controller.dispose.Coherent := by
  cases disposed : controller.disposed with
  | true =>
    rw [dispose_of_disposed disposed]
    exact coherent
  | false =>
    rw [dispose_of_active disposed]
    exact { coherent.cancel with disposed := fun _ => rfl }

/-- After the end nobody is active. -/
theorem Coherent.active_dispose (coherent : controller.Coherent) :
    controller.dispose.active = none := by
  cases disposed : controller.disposed with
  | true =>
    rw [dispose_of_disposed disposed]
    exact coherent.disposed disposed
  | false =>
    rw [dispose_of_active disposed]
    rfl

theorem Coherent.deactivate (coherent : controller.Coherent) :
    { controller with active := none }.Coherent :=
  { coherent with
    latest := nofun, positive := nofun, uncancelled := nofun, disposed := fun _ => rfl }

/-- A delivery leaves nobody active, and a refusal changes nothing. -/
theorem Coherent.resolve (coherent : controller.Coherent) (generation : Nat) :
    (controller.resolve generation).1.Coherent := by
  cases current : controller.isCurrent generation with
  | true =>
    rw [resolve_of_isCurrent current]
    exact coherent.deactivate
  | false =>
    rw [resolve_of_not_isCurrent current]
    exact { coherent with }

/-! ## Generations that are done -/

/-- A generation was issued and may not deliver. -/
structure Stale (controller : Controller) (generation : Nat) : Prop where
  /-- It was issued. -/
  issued : generation ≤ controller.issued
  /-- It may not deliver. -/
  superseded : controller.isCurrent generation = false

/-- A generation that was issued and is not active will not be. -/
theorem stale_of_active_ne (issued : generation ≤ controller.issued)
    (inactive : controller.active ≠ some generation) : controller.Stale generation :=
  ⟨issued, Bool.eq_false_iff.2 fun current => inactive (isCurrent_iff.1 current).2⟩

theorem Stale.cancel (stale : controller.Stale generation) : controller.cancel.Stale generation :=
  stale_of_active_ne stale.issued nofun

/-- The next generation is not one that was issued. -/
theorem Stale.issue (stale : controller.Stale generation) {latest : Nat}
    (issued : controller.issue = .ok (latest, next)) : next.Stale generation := by
  obtain ⟨-, rfl, rfl⟩ := issue_eq_ok_iff.1 issued
  refine stale_of_active_ne (Nat.le_succ_of_le stale.issued) ?_
  rintro ⟨⟩
  exact Nat.not_succ_le_self _ stale.issued

theorem Stale.dispose (stale : controller.Stale generation) :
    controller.dispose.Stale generation := by
  cases disposed : controller.disposed with
  | true =>
    rw [dispose_of_disposed disposed]
    exact stale
  | false =>
    rw [dispose_of_active disposed]
    exact stale_of_active_ne stale.issued nofun

/-- Whoever delivers, a stale generation stays stale. -/
theorem Stale.resolve (stale : controller.Stale generation) (other : Nat) :
    (controller.resolve other).1.Stale generation := by
  cases current : controller.isCurrent other with
  | true =>
    rw [resolve_of_isCurrent current]
    exact stale_of_active_ne stale.issued nofun
  | false =>
    rw [resolve_of_not_isCurrent current]
    exact ⟨stale.issued, stale.superseded⟩

end QuerySync.Controller
