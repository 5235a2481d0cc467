import Mathlib.Algebra.Ring.Nat
import QuerySync.Proofs.Executor

/-!
# The executor settles

Running tasks with the clock standing still comes to an end if every turn costs effort
(`Program.Tires`): the task that has its turn and those that it spawns have less effort left
together than the task had before, and the turn neither gives effort to another task nor makes
one wait that could go on.

A turn may put many tasks into the queue, so the length of the queue does not fall.  What falls
is twice the effort plus the number of tasks in the queue that cannot go on
(`Executor.potential`).  Tasks go into the queue able, only their own turn makes them unable,
and leaving the queue takes one step.
-/

namespace QuerySync

variable {σ τ : Type} {program : Program σ τ}

/-- The effort that is left to tasks together. -/
def total (effort : τ → Nat) (tasks : List τ) : Nat := (tasks.map effort).sum

/-- Every turn of a task costs effort. -/
structure Program.Tires (program : Program σ τ) (Property : σ → List τ → Prop)
    (effort : Nat → σ → τ → Nat) : Prop where
  /-- Turns keep the property. -/
  keeps : program.Keeps Property
  /-- The effort is within the bound that the program gives. -/
  bounded : ∀ now state task, effort now state task ≤ program.rank now state task
  /-- A task that has its turn and those that it spawns have less effort left. -/
  tires : ∀ {now state older task newer next after spawned},
    Property state (older ++ task :: newer) → program.canRun now state task = true →
    program.step now state task = (next, after, spawned) →
    effort now after next + total (effort now after) spawned < effort now state task
  /-- No other task gets effort, or has to wait. -/
  others : ∀ {now state older task newer next after spawned},
    Property state (older ++ task :: newer) → program.canRun now state task = true →
    program.step now state task = (next, after, spawned) → ∀ other ∈ older ++ newer,
    effort now after other ≤ effort now state other ∧
      (program.canRun now state other = true → program.canRun now after other = true)
  /-- Who is spawned can go on. -/
  awake : ∀ {now state older task newer next after spawned},
    Property state (older ++ task :: newer) →
    program.step now state task = (next, after, spawned) →
    ∀ other ∈ spawned, program.canRun now after other = true

namespace Executor

variable {executor : Executor σ τ}

/-! ## The queue -/

/-- Every task stands in the queue once at most. -/
structure Queued (executor : Executor σ τ) : Prop where
  /-- Nobody stands there twice. -/
  nodup : executor.ready.Nodup
  /-- Only tasks stand there. -/
  bounded : ∀ place ∈ executor.ready, place < executor.tasks.length

/-- Those who are able are the tasks that can go on. -/
theorem mem_able_iff {place : Nat} :
    place ∈ executor.able program ↔ ∃ task, executor.tasks[place]? = some task ∧
      program.canRun executor.now executor.state task = true := by
  constructor
  · intro member
    obtain ⟨⟨task, _⟩, kept, rfl⟩ := List.mem_map.1 member
    obtain ⟨isTask, able⟩ := List.mem_filter.1 kept
    exact ⟨task, List.mk_mem_zipIdx_iff_getElem?.1 isTask, able⟩
  · rintro ⟨task, found, able⟩
    exact mem_able found able

/-- When nothing changes nobody is woken. -/
theorem Alert.act_self (alert : executor.Alert program) :
    executor.act program executor.state [] = executor := by
  have awake : (executor.able program).filter (!executor.ready.contains ·) = [] := by
    refine List.filter_eq_nil_iff.2 fun place member => ?_
    obtain ⟨task, found, able⟩ := mem_able_iff.1 member
    simp [alert place task found able]
  have woken : executor.wake program = executor := by
    rw [Executor.wake, awake, List.append_nil]
  show (executor.wake program).spawn [] = executor
  rw [woken, Executor.spawn, List.append_nil]
  simp

theorem nodup_able (program : Program σ τ) (executor : Executor σ τ) :
    (executor.able program).Nodup := by
  have places : (executor.tasks.zipIdx.map (·.2)).Nodup := by
    rw [List.zipIdx_map_snd]
    exact List.nodup_range'
  exact places.sublist (List.filter_sublist.map _)

/-- A wake-up queues those who are not in the queue. -/
theorem Queued.wake (queued : executor.Queued) : (executor.wake program).Queued := by
  refine ⟨List.nodup_append.2 ⟨queued.nodup, (nodup_able program executor).filter _, ?_⟩, ?_⟩
  · rintro place waiting _ member rfl
    exact absurd waiting (by simpa using (List.mem_filter.1 member).2)
  · intro place member
    rcases List.mem_append.1 member with waiting | woken
    · exact queued.bounded place waiting
    · obtain ⟨task, found, -⟩ := mem_able_iff.1 (List.mem_filter.1 woken).1
      exact (List.getElem?_eq_some_iff.1 found).1

/-- New tasks have new places. -/
theorem Queued.spawn (queued : executor.Queued) (spawned : List τ) :
    (executor.spawn spawned).Queued := by
  refine ⟨List.nodup_append.2 ⟨queued.nodup, List.nodup_range', ?_⟩, ?_⟩
  · rintro place waiting _ member rfl
    exact Nat.not_lt_of_le (List.mem_range'_1.1 member).1 (queued.bounded place waiting)
  · intro place member
    show place < (executor.tasks ++ spawned).length
    rw [List.length_append]
    rcases List.mem_append.1 member with waiting | new
    · exact Nat.lt_add_right _ (queued.bounded place waiting)
    · exact (List.mem_range'_1.1 new).2

/-- An action from outside queues nobody twice. -/
theorem Queued.act (queued : executor.Queued) (state : σ) (spawned : List τ) :
    (executor.act program state spawned).Queued := by
  have changed : ({ executor with state } : Executor σ τ).Queued :=
    ⟨queued.nodup, queued.bounded⟩
  exact changed.wake.spawn spawned

theorem Queued.moveTo (queued : executor.Queued) (time : Nat) :
    (executor.moveTo program time).Queued :=
  Queued.wake ⟨queued.nodup, queued.bounded⟩

/-- Neither does a step. -/
theorem Queued.step (queued : executor.Queued) : (executor.step program).Queued := by
  unfold Executor.step
  split
  next => exact queued
  next first rest queue =>
    have tail : ({ executor with ready := rest } : Executor σ τ).Queued := by
      obtain ⟨nodup, bounded⟩ := queued
      rw [queue] at nodup bounded
      exact ⟨(List.nodup_cons.1 nodup).2, fun place member =>
        bounded place (List.mem_cons_of_mem _ member)⟩
    split
    next => exact tail
    next task found =>
      split
      next =>
        obtain ⟨next, state, spawned⟩ := program.step executor.now executor.state task
        have put : Queued { executor with tasks := executor.tasks.set first next } := by
          refine ⟨queued.nodup, ?_⟩
          intro place member
          rw [List.length_set]
          exact queued.bounded place member
        exact put.act state spawned
      next => exact tail

/-! ## The potential -/

/-- Whether a task of the queue cannot go on. -/
def idles (program : Program σ τ) (executor : Executor σ τ) (place : Nat) : Bool :=
  !executor.tasks[place]?.any (program.canRun executor.now executor.state)

/-- What falls with every step. -/
def potential (program : Program σ τ) (effort : Nat → σ → τ → Nat) (executor : Executor σ τ) :
    Nat :=
  2 * total (effort executor.now executor.state) executor.tasks +
    executor.ready.countP (executor.idles program)

/-- Whoever is able does not idle in the queue. -/
theorem idles_of_able {place : Nat} {task : τ} (found : executor.tasks[place]? = some task)
    (able : program.canRun executor.now executor.state task = true) :
    executor.idles program place = false := by
  rw [idles, found, Option.any_some, able]
  rfl

/-- Who is put into the queue by an action can go on. -/
theorem ready_act (program : Program σ τ) (executor : Executor σ τ) (state : σ) (spawned : List τ)
    (awake : ∀ task ∈ spawned, program.canRun executor.now state task = true) :
    ∃ places, (executor.act program state spawned).ready = executor.ready ++ places ∧
      ∀ place ∈ places, (executor.act program state spawned).idles program place = false := by
  refine ⟨_, List.append_assoc .., fun place member => ?_⟩
  rcases List.mem_append.1 member with woken | new
  · obtain ⟨task, found, able⟩ := mem_able_iff.1 (List.mem_filter.1 woken).1
    refine idles_of_able (?_ : (executor.tasks ++ spawned)[place]? = some task) able
    rw [List.getElem?_append_left (List.getElem?_eq_some_iff.1 found).1]
    exact found
  · have range : executor.tasks.length ≤ place ∧ place < executor.tasks.length + spawned.length :=
      List.mem_range'_1.1 new
    have inside : place - executor.tasks.length < spawned.length := by omega
    refine idles_of_able (?_ : (executor.tasks ++ spawned)[place]? =
      some spawned[place - executor.tasks.length]) (awake _ (List.getElem_mem inside))
    rw [List.getElem?_append_right range.1, List.getElem?_eq_getElem inside]

theorem total_append (effort : τ → Nat) (tasks others : List τ) :
    total effort (tasks ++ others) = total effort tasks + total effort others := by
  simp [total]

theorem total_cons (effort : τ → Nat) (task : τ) (tasks : List τ) :
    total effort (task :: tasks) = effort task + total effort tasks := by
  simp [total]

/-- The total is bounded task by task. -/
theorem total_le {effort bound : τ → Nat} {tasks : List τ}
    (within : ∀ task ∈ tasks, effort task ≤ bound task) :
    total effort tasks ≤ total bound tasks := by
  induction tasks with
  | nil => exact Nat.le_refl _
  | cons task tasks induction =>
    rw [total_cons, total_cons]
    exact Nat.add_le_add (within task List.mem_cons_self)
      (induction fun other member => within other (List.mem_cons_of_mem _ member))

theorem mem_of_ne {tasks : List τ} {place first : Nat} {other : τ}
    (found : tasks[place]? = some other) (different : place ≠ first) :
    other ∈ tasks.take first ++ tasks.drop (first + 1) := by
  refine List.mem_append.2 ?_
  rcases Nat.lt_or_gt_of_ne different with before | behind
  · refine .inl (List.mem_of_getElem? (i := place) ?_)
    rw [List.getElem?_take_of_lt before, found]
  · refine .inr (List.mem_of_getElem? (i := place - (first + 1)) ?_)
    rw [List.getElem?_drop, Nat.add_sub_cancel' behind, found]

variable {Property : σ → List τ → Prop} {effort : Nat → σ → τ → Nat}

/-- Leaving the queue lowers the potential. -/
theorem potential_leave {first : Nat} {rest : List Nat} (queue : executor.ready = first :: rest)
    (idle : executor.idles program first = true) :
    potential program effort { executor with ready := rest } <
      potential program effort executor := by
  show 2 * total (effort executor.now executor.state) executor.tasks +
    rest.countP (executor.idles program) < _
  rw [potential, queue, List.countP_cons_of_pos idle]
  omega

section
variable (tires : program.Tires Property effort) (holds : Property executor.state executor.tasks)
  {first : Nat} {task next : τ} {after : σ} {spawned : List τ}
  (found : executor.tasks[first]? = some task)
  (able : program.canRun executor.now executor.state task = true)
  (turn : program.step executor.now executor.state task = (next, after, spawned))
include tires holds found able turn

/-- A turn costs effort. -/
theorem total_turn : total (effort executor.now after) (executor.tasks.set first next ++ spawned) <
    total (effort executor.now executor.state) executor.tasks := by
  have split := split_of_getElem? found
  have costs := tires.tires (split ▸ holds) able turn
  have others := tires.others (split ▸ holds) able turn
  have older : total (effort executor.now after) (executor.tasks.take first) ≤
      total (effort executor.now executor.state) (executor.tasks.take first) :=
    total_le fun other member => (others other (List.mem_append_left _ member)).1
  have newer : total (effort executor.now after) (executor.tasks.drop (first + 1)) ≤
      total (effort executor.now executor.state) (executor.tasks.drop (first + 1)) :=
    total_le fun other member => (others other (List.mem_append_right _ member)).1
  have before := congrArg (total (effort executor.now executor.state)) split
  rw [total_append, total_cons] at before
  rw [set_of_getElem? found, total_append, total_append, total_cons, before]
  omega

/-- A turn makes nobody but the task itself unable to go on. -/
theorem idles_turn {place : Nat} (different : place ≠ first)
    (inside : place < executor.tasks.length)
    (idle : (({ executor with tasks := executor.tasks.set first next }).act program after
      spawned).idles program place = true) : executor.idles program place = true := by
  refine Bool.of_not_eq_false fun wasAble => Bool.eq_false_iff.1 ?_ idle
  have isTask : executor.tasks[place]? = some executor.tasks[place] :=
    List.getElem?_eq_getElem inside
  rw [idles, isTask, Option.any_some, Bool.not_eq_false'] at wasAble
  have stillAble := (tires.others (split_of_getElem? found ▸ holds) able turn _
    (mem_of_ne isTask different)).2 wasAble
  refine idles_of_able (?_ : (executor.tasks.set first next ++ spawned)[place]? = _) stillAble
  rw [List.getElem?_append_left (by rwa [List.length_set]), List.getElem?_set_ne different.symm,
    isTask]

end

/-- A turn of a task lowers the potential. -/
theorem potential_turn (tires : program.Tires Property effort) (queued : executor.Queued)
    (holds : Property executor.state executor.tasks) {first : Nat} {rest : List Nat}
    (queue : executor.ready = first :: rest) {task next : τ} {after : σ} {spawned : List τ}
    (found : executor.tasks[first]? = some task)
    (able : program.canRun executor.now executor.state task = true)
    (turn : program.step executor.now executor.state task = (next, after, spawned)) :
    potential program effort
        (({ executor with tasks := executor.tasks.set first next }).act program after spawned) <
      potential program effort executor := by
  have costs := total_turn tires holds found able turn
  obtain ⟨places, ready, awake⟩ := ready_act program
    { executor with tasks := executor.tasks.set first next } after spawned
    (tires.awake (split_of_getElem? found ▸ holds) turn)
  obtain ⟨nodup, bounded⟩ := queued
  rw [queue] at nodup bounded
  generalize isTurned : ({ executor with tasks := executor.tasks.set first next } :
    Executor σ τ).act program after spawned = turned at ready awake ⊢
  have others : rest.countP (turned.idles program) ≤ rest.countP (executor.idles program) := by
    refine List.countP_mono_left fun place member idle => ?_
    refine idles_turn tires holds found able turn ?_
      (bounded place (List.mem_cons_of_mem _ member)) (isTurned ▸ idle)
    rintro rfl
    exact (List.nodup_cons.1 nodup).1 member
  have woken : places.countP (turned.idles program) = 0 :=
    List.countP_eq_zero.2 fun place member => Bool.eq_false_iff.1 (awake place member)
  have wasAble : ¬ executor.idles program first = true :=
    Bool.eq_false_iff.1 (idles_of_able found able)
  have effortLeft : total (effort turned.now turned.state) turned.tasks <
      total (effort executor.now executor.state) executor.tasks := by
    rw [← isTurned]
    exact costs
  unfold potential
  rw [ready, queue, List.countP_append, woken, List.countP_cons, List.countP_cons_of_neg wasAble]
  split
  next => omega
  next => omega

/-- A step of an executor with a queue lowers the potential. -/
theorem potential_step (tires : program.Tires Property effort) (queued : executor.Queued)
    (holds : Property executor.state executor.tasks) (waits : executor.ready ≠ []) :
    potential program effort (executor.step program) < potential program effort executor := by
  unfold step
  split
  next empty => exact absurd empty waits
  next first rest queue =>
    split
    next absent =>
      refine potential_leave queue ?_
      rw [idles, absent]
      rfl
    next task found =>
      split
      next able => exact potential_turn tires queued holds queue found able rfl
      next unable =>
        refine potential_leave queue ?_
        rw [idles, found, Option.any_some, Bool.eq_false_iff.2 unable]
        rfl

/-- With as many steps as the potential says, the queue gets empty. -/
theorem ready_settleWithin (tires : program.Tires Property effort) (queued : executor.Queued)
    (holds : Property executor.state executor.tasks) {fuel : Nat}
    (enough : potential program effort executor ≤ fuel) :
    (executor.settleWithin program fuel).ready = [] := by
  induction fuel generalizing executor with
  | zero =>
    refine Classical.byContradiction fun waits => ?_
    have falls := potential_step tires queued holds waits
    omega
  | succ fuel induction =>
    unfold settleWithin
    split
    next isEmpty => exact List.isEmpty_iff.1 isEmpty
    next waits =>
      have falls := potential_step tires queued holds (by simpa using waits)
      exact induction queued.step (step_keeps tires.keeps holds) (by omega)

/-- The bound on the steps of settling is no less than the potential. -/
theorem potential_le_stepBound (tires : program.Tires Property effort) :
    potential program effort executor ≤ executor.stepBound program := by
  have idle : executor.ready.countP (executor.idles program) ≤ executor.ready.length :=
    List.countP_le_length
  have efforts : total (effort executor.now executor.state) executor.tasks ≤
      total (program.rank executor.now executor.state) executor.tasks :=
    total_le fun task _ => tires.bounded _ _ task
  unfold potential stepBound
  change _ ≤ executor.ready.length +
    2 * total (program.rank executor.now executor.state) executor.tasks
  omega

/-- Where turns cost effort, settling empties the queue. -/
theorem ready_settle (tires : program.Tires Property effort) (queued : executor.Queued)
    (holds : Property executor.state executor.tasks) : (executor.settle program).ready = [] :=
  ready_settleWithin tires queued holds (potential_le_stepBound tires)

end Executor

end QuerySync
