import QuerySync.Executor

/-!
# Laws of the executor

A property of a state and its tasks that one turn of a task keeps (`Program.Keeps`) holds
wherever the executor goes by itself.  A task that can go on stands in the queue at all times
(`Executor.Alert`), so when the queue is empty every task waits.
-/

namespace QuerySync

variable {σ τ : Type} {program : Program σ τ}

namespace Executor

variable {executor : Executor σ τ}

/-! ## What the operations do to the state and the tasks -/

@[simp] theorem state_act (state : σ) (spawned : List τ) :
    (executor.act program state spawned).state = state := rfl

@[simp] theorem tasks_act (state : σ) (spawned : List τ) :
    (executor.act program state spawned).tasks = executor.tasks ++ spawned := rfl

/-- A task at a place has others before it and after it. -/
theorem split_of_getElem? {tasks : List τ} {place : Nat} {task : τ}
    (found : tasks[place]? = some task) :
    tasks = tasks.take place ++ task :: tasks.drop (place + 1) := by
  obtain ⟨inside, rfl⟩ := List.getElem?_eq_some_iff.1 found
  simp

/-- To put another task there leaves the others where they are. -/
theorem set_of_getElem? {tasks : List τ} {place : Nat} {task : τ}
    (found : tasks[place]? = some task) (next : τ) :
    tasks.set place next = tasks.take place ++ next :: tasks.drop (place + 1) := by
  obtain ⟨inside, -⟩ := List.getElem?_eq_some_iff.1 found
  rw [List.set_eq_take_append_cons_drop, if_pos inside]

/-- A step takes a task out of the queue, or gives a task that can go on its turn. -/
theorem step_cases (program : Program σ τ) (executor : Executor σ τ) :
    ((executor.step program).state = executor.state ∧
      (executor.step program).tasks = executor.tasks) ∨
    ∃ older task newer next state spawned,
      executor.tasks = older ++ task :: newer ∧
      program.canRun executor.now executor.state task = true ∧
      program.step executor.now executor.state task = (next, state, spawned) ∧
      (executor.step program).state = state ∧
      (executor.step program).tasks = older ++ next :: newer ++ spawned := by
  unfold step
  split
  next => exact .inl ⟨rfl, rfl⟩
  next first rest queue =>
    split
    next => exact .inl ⟨rfl, rfl⟩
    next task found =>
      split
      next able =>
        refine .inr ⟨executor.tasks.take first, task, executor.tasks.drop (first + 1), _, _, _,
          split_of_getElem? found, able, rfl, rfl, ?_⟩
        rw [tasks_act, set_of_getElem? found]
      next => exact .inl ⟨rfl, rfl⟩

end Executor

/-! ## Invariants -/

/-- A turn of a task that can go on keeps a property of the state and the tasks. -/
def Program.Keeps (program : Program σ τ) (Property : σ → List τ → Prop) : Prop :=
  ∀ {now state older task newer next after spawned}, Property state (older ++ task :: newer) →
    program.canRun now state task = true → program.step now state task = (next, after, spawned) →
    Property after (older ++ next :: newer ++ spawned)

namespace Executor

variable {executor : Executor σ τ}

theorem settleWithin_induction {motive : Executor σ τ → Prop}
    (step : ∀ executor, motive executor → motive (executor.step program)) (fuel : Nat)
    (holds : motive executor) : motive (executor.settleWithin program fuel) := by
  induction fuel generalizing executor with
  | zero => exact holds
  | succ fuel induction =>
    unfold settleWithin
    split
    next => exact holds
    next => exact induction (step executor holds)

/-- What every step keeps, settling keeps. -/
theorem settle_induction {motive : Executor σ τ → Prop}
    (step : ∀ executor, motive executor → motive (executor.step program))
    (holds : motive executor) : motive (executor.settle program) :=
  settleWithin_induction step _ holds

/-- To go from one due time to the next is to take steps and to move the clock. -/
theorem followDue_induction {motive : Executor σ τ → Prop}
    (step : ∀ executor, motive executor → motive (executor.step program))
    (moveTo : ∀ executor time, motive executor → motive (executor.moveTo program time))
    (limit fuel : Nat) (holds : motive executor) :
    motive (followDue program limit fuel executor) := by
  induction fuel generalizing executor with
  | zero => exact holds
  | succ fuel induction =>
    unfold followDue
    split
    next => exact holds
    next time _ => exact induction (settle_induction step (moveTo executor time holds))

/-- What every step and every move of the clock keeps is kept while time goes by. -/
theorem advance_induction {motive : Executor σ τ → Prop}
    (step : ∀ executor, motive executor → motive (executor.step program))
    (moveTo : ∀ executor time, motive executor → motive (executor.moveTo program time))
    (duration : Nat) (holds : motive executor) :
    motive (executor.advance program duration) := by
  have settled := settle_induction step holds
  have followed := followDue_induction step moveTo (executor.now + duration) duration settled
  exact settle_induction step (moveTo _ _ followed)

/-- What turns keep, a step keeps. -/
theorem step_keeps {Property : σ → List τ → Prop} (keeps : program.Keeps Property)
    (holds : Property executor.state executor.tasks) :
    Property (executor.step program).state (executor.step program).tasks := by
  rcases step_cases program executor with
    ⟨state, tasks⟩ | ⟨older, task, newer, next, after, spawned, split, able, turn, state, tasks⟩
  · rw [state, tasks]
    exact holds
  · rw [state, tasks]
    exact keeps (split ▸ holds) able turn

/-! ## The queue -/

/-- Every task that can go on stands in the queue. -/
def Alert (program : Program σ τ) (executor : Executor σ τ) : Prop :=
  ∀ place task, executor.tasks[place]? = some task →
    program.canRun executor.now executor.state task = true → place ∈ executor.ready

/-- A task that can go on is found. -/
theorem mem_able {place : Nat} {task : τ} (found : executor.tasks[place]? = some task)
    (able : program.canRun executor.now executor.state task = true) :
    place ∈ executor.able program := by
  refine List.mem_map.2 ⟨(task, place), List.mem_filter.2 ⟨?_, able⟩, rfl⟩
  exact List.mk_mem_zipIdx_iff_getElem?.2 found

/-- After a wake-up whoever can go on is in the queue. -/
theorem alert_wake (program : Program σ τ) (executor : Executor σ τ) :
    (executor.wake program).Alert program := by
  intro place task found able
  have isAble : place ∈ executor.able program := mem_able found able
  by_cases waiting : place ∈ executor.ready
  · exact List.mem_append_left _ waiting
  · exact List.mem_append_right _ (List.mem_filter.2 ⟨isAble, by simpa using waiting⟩)

theorem Alert.spawn (alert : executor.Alert program) (spawned : List τ) :
    (executor.spawn spawned).Alert program := by
  intro place task found able
  rcases Nat.lt_or_ge place executor.tasks.length with old | new
  · refine List.mem_append_left _ (alert place task ?_ able)
    rwa [← List.getElem?_append_left old]
  · refine List.mem_append_right _ (List.mem_range'_1.2 ⟨new, ?_⟩)
    obtain ⟨inside, -⟩ := List.getElem?_eq_some_iff.1 found
    rwa [← List.length_append]

/-- So it is after an action from outside. -/
theorem alert_act (program : Program σ τ) (executor : Executor σ τ) (state : σ)
    (spawned : List τ) : (executor.act program state spawned).Alert program :=
  Alert.spawn (alert_wake program _) spawned

/-- So it is after a move of the clock. -/
theorem alert_moveTo (program : Program σ τ) (executor : Executor σ τ) (time : Nat) :
    (executor.moveTo program time).Alert program :=
  alert_wake program _

/-- A step leaves nobody out: others are woken by what it changed. -/
theorem Alert.step (alert : executor.Alert program) : (executor.step program).Alert program := by
  unfold Executor.step
  split
  next => exact alert
  next first rest queue =>
    split
    next absent =>
      intro place task found able
      rcases List.mem_cons.1 (queue ▸ alert place task found able) with rfl | waiting
      · exact nomatch absent.symm.trans found
      · exact waiting
    next task found =>
      split
      next =>
        obtain ⟨next, state, spawned⟩ := program.step executor.now executor.state task
        exact alert_act program _ state spawned
      next unable =>
        intro place other foundOther able
        rcases List.mem_cons.1 (queue ▸ alert place other foundOther able) with rfl | waiting
        · cases found.symm.trans foundOther
          exact absurd able unable
        · exact waiting

/-- When the queue is empty every task waits. -/
theorem Alert.canRun_eq_false (alert : executor.Alert program) (quiet : executor.ready = [])
    {task : τ} (member : task ∈ executor.tasks) :
    program.canRun executor.now executor.state task = false := by
  obtain ⟨place, found⟩ := List.getElem?_of_mem member
  refine Bool.eq_false_iff.2 fun able => ?_
  exact nomatch quiet ▸ alert place task found able

end Executor

end QuerySync
