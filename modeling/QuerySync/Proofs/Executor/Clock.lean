import QuerySync.Proofs.Executor.Settling

/-!
# How the clock moves

Tasks have their turns with the clock standing still.  When time goes by, the clock moves only while
every task waits, never back, and never past a time at which somebody is due
(`Executor.Punctual`).  That is so for every executor whose queue is empty after it has settled
(`advance_punctual`): then it settles at each time at which somebody is due, and there are not more
of these than milliseconds.
-/

namespace QuerySync.Executor

variable {σ τ : Type} {program : Program σ τ} {executor : Executor σ τ}

@[simp] theorem now_step (program : Program σ τ) (executor : Executor σ τ) :
    (executor.step program).now = executor.now := by
  unfold step
  split
  next => rfl
  next =>
    split
    next => rfl
    next =>
      split
      next => rfl
      next => rfl

/-- Settling takes no time. -/
theorem now_settle (program : Program σ τ) (executor : Executor σ τ) :
    (executor.settle program).now = executor.now :=
  settle_induction (fun before same => (now_step program before).trans same) rfl

/-- A time that the clock may move to. -/
structure Punctual (program : Program σ τ) (executor : Executor σ τ) (time : Nat) : Prop where
  /-- Nobody can go on. -/
  settled : executor.ready = []
  /-- The clock does not go back. -/
  forward : executor.now ≤ time
  /-- Nobody is due before. -/
  due : ∀ task ∈ executor.tasks, ∀ due ∈ program.due? task, executor.now < due → time ≤ due

theorem mem_dues {task : τ} {limit due : Nat} (member : task ∈ executor.tasks)
    (isDue : due ∈ program.due? task) (ahead : executor.now < due) (within : due ≤ limit) :
    due ∈ (executor.tasks.filterMap program.due?).filter fun time =>
      executor.now < time && time ≤ limit := by
  refine List.mem_filter.2 ⟨List.mem_filterMap.2 ⟨task, member, isDue⟩, ?_⟩
  simp [ahead, within]

/-- If nobody is due up to a time, the clock may move there. -/
theorem punctual_of_nextDue?_eq_none {limit : Nat} (none : executor.nextDue? program limit = none)
    (settled : executor.ready = []) (forward : executor.now ≤ limit) :
    executor.Punctual program limit := by
  refine ⟨settled, forward, fun task member due isDue ahead => Nat.le_of_not_lt fun before => ?_⟩
  have isThere := mem_dues member isDue ahead (Nat.le_of_lt before)
  rw [List.min?_eq_none_iff.1 none] at isThere
  exact absurd isThere List.not_mem_nil

/-- The clock may move to the next due time. -/
theorem punctual_of_nextDue?_eq_some {limit time : Nat}
    (some : executor.nextDue? program limit = some time) (settled : executor.ready = []) :
    executor.Punctual program time ∧ executor.now < time ∧ time ≤ limit := by
  obtain ⟨member, least⟩ := List.min?_eq_some_iff.1 some
  have inside : executor.now < time ∧ time ≤ limit := by simpa using (List.mem_filter.1 member).2
  refine ⟨⟨settled, Nat.le_of_lt inside.1, fun task isTask due isDue ahead => ?_⟩, inside⟩
  rcases Nat.lt_or_ge limit due with far | near
  · exact Nat.le_trans inside.2 (Nat.le_of_lt far)
  · exact least due (mem_dues isTask isDue ahead near)

section
variable {motive : Executor σ τ → Prop}
  (settles : ∀ executor, motive executor → (executor.settle program).ready = [])
  (step : ∀ executor, motive executor → motive (executor.step program))
  (moveTo : ∀ executor time, motive executor → executor.Punctual program time →
    motive (executor.moveTo program time))
include settles step moveTo

/-- Going from one due time to the next, the clock passes none of them by. -/
theorem followDue_punctual {limit fuel : Nat} (holds : motive executor)
    (settled : executor.ready = []) (within : executor.now ≤ limit)
    (enough : limit ≤ executor.now + fuel) :
    motive (followDue program limit fuel executor) ∧
      (followDue program limit fuel executor).Punctual program limit := by
  induction fuel generalizing executor with
  | zero =>
    have there : executor.now = limit := Nat.le_antisymm within enough
    exact ⟨holds, settled, within, fun _ _ _ _ ahead => there ▸ Nat.le_of_lt ahead⟩
  | succ fuel induction =>
    unfold followDue
    split
    next none => exact ⟨holds, punctual_of_nextDue?_eq_none none settled within⟩
    next time some =>
      obtain ⟨punctual, later, inside⟩ := punctual_of_nextDue?_eq_some some settled
      have moved := moveTo executor time holds punctual
      have now : ((executor.moveTo program time).settle program).now = time := now_settle ..
      refine induction (settle_induction step moved) (settles _ moved) ?_ ?_
      · rw [now]
        exact inside
      · rw [now]
        omega

/-- When time goes by the clock moves punctually. -/
theorem advance_punctual (duration : Nat) (holds : motive executor) :
    motive (executor.advance program duration) := by
  have now : (executor.settle program).now = executor.now := now_settle ..
  have within : (executor.settle program).now ≤ executor.now + duration :=
    now ▸ Nat.le_add_right ..
  have enough : executor.now + duration ≤ (executor.settle program).now + duration := by rw [now]
  obtain ⟨followed, punctual⟩ := followDue_punctual settles step moveTo
    (settle_induction step holds) (settles executor holds) within enough
  exact settle_induction step (moveTo _ _ followed punctual)

end

end QuerySync.Executor
