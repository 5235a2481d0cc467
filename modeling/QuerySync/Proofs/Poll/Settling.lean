import QuerySync.Proofs.Poll.Period
import QuerySync.Proofs.Poll.Turns

/-!
# Timer loops settle

With the clock standing still timer loops run out of things to do (`ready_settle`), whatever their
scripts are.  A loop meets each deadline up to now once, and calls its callback for it, which takes
one of the scripts that are left to it.  Going to sleep and waking up again takes the loop past one
chore, and a chore starts one loop at most, whose first deadline lies ahead.

So time goes by in moves of the clock between which nobody can go on, and whatever is done to a
poll timer is made of single steps (`timely_perform`).
-/

namespace QuerySync.Polling

variable {now : Nat} {polling after : Polling} {loop : Task}

/-! ## Scripts -/

/-- A bound on the steps of each call of a callback with scripts. -/
def scriptsRank (scripts : List (List Chore)) : Nat := (scripts.map choresRank).foldr (· + ·) 4

/-- The scripts that are left to a callback. -/
def scripts (polling : Polling) (callback : Nat) : List (List Chore) :=
  polling.callbacks.getD callback []

theorem scriptsRank_cons (script : List Chore) (scripts : List (List Chore)) :
    scriptsRank (script :: scripts) = choresRank script + scriptsRank scripts := rfl

theorem scriptsRank_pos (scripts : List (List Chore)) : 4 ≤ scriptsRank scripts := by
  induction scripts with
  | nil => exact Nat.le_refl 4
  | cons script scripts induction => exact Nat.le_add_left_of_le induction

/-- A script is within the bound, and what is left has no larger one. -/
theorem scriptsRank_takeScript (scripts : List (List Chore)) :
    choresRank (takeScript scripts).1 < scriptsRank scripts ∧
      scriptsRank (takeScript scripts).2 ≤ scriptsRank scripts := by
  match scripts with
  | [] => exact ⟨by decide, Nat.le_refl _⟩
  | [script] => exact ⟨Nat.lt_add_of_pos_right (by decide), Nat.le_refl _⟩
  | script :: next :: scripts =>
    have positive := scriptsRank_pos (next :: scripts)
    rw [scriptsRank_cons]
    exact ⟨Nat.lt_add_of_pos_right (by omega), Nat.le_add_left ..⟩

/-- No callback has more to do after a call. -/
theorem scripts_call (polling : Polling) (called callback : Nat) :
    scriptsRank ((polling.call called).2.scripts callback) ≤
      scriptsRank (polling.scripts callback) := by
  have callbacks : (polling.call called).2.callbacks =
      polling.callbacks.set called (takeScript (polling.scripts called)).2 := rfl
  rw [scripts, callbacks, List.getD_eq_getElem?_getD, List.getElem?_set]
  split
  next same =>
    split
    next => exact same ▸ (scriptsRank_takeScript (polling.scripts called)).2
    next => exact Nat.le_trans (Nat.le_refl 4) (scriptsRank_pos _)
  next => exact Nat.le_refl _

/-- No callback has more to do after a step of a loop. -/
theorem scripts_step (now : Nat) (polling : Polling) (loop : Task) (callback : Nat) :
    scriptsRank ((step now polling loop).2.1.scripts callback) ≤
      scriptsRank (polling.scripts callback) := by
  have same {after : Polling} (callbacks : after.callbacks = polling.callbacks) :
      scriptsRank (after.scripts callback) ≤ scriptsRank (polling.scripts callback) := by
    rw [scripts, callbacks, scripts]
  unfold step
  cases loop.stage with
  | unstarted | ended => exact same rfl
  | waiting deadline =>
    dsimp only
    split
    next => exact same rfl
    next =>
      unfold meet
      dsimp only
      split
      next => exact same rfl
      next => exact scripts_call _ loop.callback callback
  | working deadline work =>
    cases work with
    | doing chores =>
      cases chores with
      | nil => exact same rfl
      | cons chore chores =>
        refine same ?_
        cases chore with
        | wait duration => cases duration <;> rfl
        | hang | reschedule | stop => rfl
    | asleep alarm chores =>
      dsimp only
      split
      next => exact same rfl
      next => exact same rfl
    | hung => exact same rfl

/-! ## Efforts -/

/-- The steps that are left to a loop and those it starts, if the clock stands still. -/
def effort (now : Nat) (polling : Polling) (loop : Task) : Nat :=
  match loop.stage with
  | .unstarted => 2
  | .waiting deadline => deadlineRank now polling loop deadline
  | .working deadline (.doing chores) =>
    choresRank chores + deadlineRank now polling loop deadline
  | .working deadline (.asleep _ chores) =>
    1 + choresRank chores + deadlineRank now polling loop deadline
  | .working _ .hung => 1
  | .ended => 0

/-- No more effort is left to a loop than its rank says. -/
theorem effort_le_rank (now : Nat) (polling : Polling) (loop : Task) :
    effort now polling loop ≤ rank now polling loop := by
  unfold effort rank
  cases loop.stage with
  | unstarted | waiting | ended => exact Nat.le_refl _
  | working deadline work =>
    cases work with
    | doing chores => exact Nat.add_le_add_right (Nat.le_add_left ..) _
    | asleep | hung => exact Nat.le_refl _

theorem deadlineRank_eq (now : Nat) (polling : Polling) (loop : Task) (deadline : Nat) :
    deadlineRank now polling loop deadline =
      1 + loop.period.countUpTo now deadline * scriptsRank (polling.scripts loop.callback) := rfl

/-- With fewer scripts to run, deadlines take less effort. -/
theorem deadlineRank_le (fewer : ∀ callback, scriptsRank (after.scripts callback) ≤
      scriptsRank (polling.scripts callback)) (now : Nat) (loop : Task) (deadline : Nat) :
    deadlineRank now after loop deadline ≤ deadlineRank now polling loop deadline := by
  rw [deadlineRank_eq, deadlineRank_eq]
  exact Nat.add_le_add_left (Nat.mul_le_mul_left _ (fewer _)) 1

/-- So do loops. -/
theorem effort_le (fewer : ∀ callback, scriptsRank (after.scripts callback) ≤
      scriptsRank (polling.scripts callback)) (now : Nat) (loop : Task) :
    effort now after loop ≤ effort now polling loop := by
  unfold effort
  split
  next => exact Nat.le_refl _
  next => exact deadlineRank_le fewer ..
  next => exact Nat.add_le_add_left (deadlineRank_le fewer ..) _
  next => exact Nat.add_le_add_left (deadlineRank_le fewer ..) _
  next => exact Nat.le_refl _
  next => exact Nat.le_refl _

/-- Meeting a deadline leaves less to do than waiting for it. -/
theorem effort_meet {deadline : Nat} (waits : loop.stage = .waiting deadline)
    (due : deadline ≤ now) :
    effort now (polling.meet now deadline loop).2 (polling.meet now deadline loop).1 <
      effort now polling loop := by
  have fewer := loop.period.countUpTo_following due
  have before : effort now polling loop = deadlineRank now polling loop deadline := by
    simp only [effort, waits]
  rw [before, deadlineRank_eq]
  have positive := scriptsRank_pos (polling.scripts loop.callback)
  generalize isLeft : loop.period.countUpTo now (loop.period.following now deadline) = left
    at fewer
  have enough := Nat.mul_le_mul_right (scriptsRank (polling.scripts loop.callback)) fewer
  rw [Nat.succ_mul] at enough
  unfold meet
  dsimp only
  split
  next =>
    show 1 + loop.period.countUpTo now (loop.period.following now deadline) *
      scriptsRank (polling.scripts loop.callback) < _
    rw [isLeft]
    omega
  next =>
    obtain ⟨short, -⟩ := scriptsRank_takeScript (polling.scripts loop.callback)
    have less := Nat.mul_le_mul_left left (scripts_call polling loop.callback loop.callback)
    show choresRank (takeScript (polling.scripts loop.callback)).1 +
      (1 + loop.period.countUpTo now (loop.period.following now deadline) *
        scriptsRank ((polling.call loop.callback).2.scripts loop.callback)) < _
    rw [isLeft]
    omega

/-- A new loop has two turns to have at most. -/
theorem total_loops {scheduler : Scheduler Nat} {loops : List Task}
    (starts : scheduler.Starts loops) (now : Nat) (polling : Polling) :
    total (effort now polling) loops ≤ 2 := by
  match loops, starts.single, starts.unstarted with
  | [], _, _ => exact Nat.zero_le 2
  | [loop], _, unstarted =>
    have stage := unstarted loop List.mem_cons_self
    simp [total, effort, stage]

/-- A chore costs effort, also with the loop that it starts. -/
theorem tires_doChore (now : Nat) (polling : Polling) (loop : Task) (deadline : Nat)
    (chore : Chore) (chores : List Chore) :
    effort now (polling.doChore now chore chores).2.1
        { loop with stage := .working deadline (polling.doChore now chore chores).1 } +
      total (effort now (polling.doChore now chore chores).2.1)
        (polling.doChore now chore chores).2.2 <
      choresRank chores + 4 + deadlineRank now polling loop deadline := by
  have goesOn (after : Polling) (same : after.callbacks = polling.callbacks) :
      effort now after { loop with stage := .working deadline (.doing chores) } =
        choresRank chores + deadlineRank now polling loop deadline := by
    show choresRank chores + (1 + loop.period.countUpTo now deadline *
      scriptsRank (after.callbacks.getD loop.callback [])) = _
    rw [same]
    rfl
  cases chore with
  | wait duration =>
    cases duration with
    | zero =>
      show effort now polling { loop with stage := .working deadline (.doing chores) } < _
      rw [goesOn polling rfl]
      omega
    | succ duration =>
      show 1 + choresRank chores + deadlineRank now polling loop deadline < _
      omega
  | hang =>
    show 1 < _
    omega
  | reschedule live =>
    have started := total_loops
      (Scheduler.starts_reschedule polling.scheduler live : Scheduler.Starts _ (_ : List Task))
      now (polling.reschedule live).1
    show effort now (polling.reschedule live).1
        { loop with stage := .working deadline (.doing chores) } +
      total (effort now (polling.reschedule live).1)
        (polling.scheduler.reschedule live).2 < _
    rw [goesOn (polling.reschedule live).1 rfl]
    omega
  | stop =>
    show effort now polling.stop { loop with stage := .working deadline (.doing chores) } < _
    rw [goesOn polling.stop rfl]
    omega

/-- A step leaves less to do, also with the loops that it starts. -/
theorem tires_step (able : canRun now polling loop = true) :
    effort now (step now polling loop).2.1 (step now polling loop).1 +
      total (effort now (step now polling loop).2.1) (step now polling loop).2.2 <
      effort now polling loop := by
  unfold step
  cases stage : loop.stage with
  | unstarted =>
    have ahead : loop.period.countUpTo now (now + loop.period.length) = 0 :=
      loop.period.countUpTo_of_lt (Nat.lt_add_of_pos_right loop.period.positive)
    simp [effort, stage, deadlineRank_eq, ahead, total]
  | waiting deadline =>
    dsimp only
    split
    next =>
      show 0 < effort now polling loop
      simp only [effort, stage, deadlineRank_eq]
      omega
    next goesOn =>
      have due : deadline ≤ now := by simpa [canRun, stage, goesOn] using able
      simpa [total] using effort_meet stage due
  | working deadline work =>
    cases work with
    | doing chores =>
      cases chores with
      | nil => simp [effort, stage, choresRank, total, deadlineRank_eq, note, scripts]
      | cons chore chores =>
        have before : effort now polling loop =
            choresRank chores + 4 + deadlineRank now polling loop deadline := by
          simp only [effort, stage, choresRank, List.length_cons]
          omega
        have costs := tires_doChore now polling loop deadline chore chores
        rw [before]
        exact costs
    | asleep alarm chores =>
      dsimp only
      split
      next =>
        show 0 < effort now polling loop
        simp only [effort, stage]
        omega
      next =>
        show choresRank chores + deadlineRank now polling loop deadline < effort now polling loop
        simp only [effort, stage]
        omega
    | hung => simp [effort, stage, total]
  | ended => simp [canRun, stage] at able

/-! ## Loops -/

/-- Loops have numbers that were given out. -/
def Numbered (polling : Polling) (tasks : List Task) : Prop :=
  ∀ loop ∈ tasks, loop.arming ≤ polling.scheduler.arms

variable {tasks others : List Task}

/-- Every change gives loops numbers that were given out. -/
theorem Numbered.change (numbered : polling.Numbered tasks)
    (change : Change now polling tasks after others) : after.Numbered others := by
  have later := change.later.arms
  cases change with
  | turn turn =>
    intro loop member
    refine Nat.le_trans ?_ later
    rcases List.mem_append.1 member with isOlder | member
    · exact numbered loop (List.mem_append_left _ isOlder)
    rcases List.mem_cons.1 member with rfl | isNewer
    · have known := numbered _ (List.mem_append_right _ List.mem_cons_self)
      exact known
    · exact numbered loop (List.mem_append_right _ (List.mem_cons_of_mem _ isNewer))
  | switch switches =>
    intro loop member
    rcases List.mem_append.1 member with old | new
    · exact Nat.le_trans (numbered loop old) later
    · cases switches.scheduler with
      | keep | off => exact absurd new List.not_mem_nil
      | on period callback arms =>
        cases List.mem_singleton.1 new
        exact Nat.le_of_eq arms.symm

/-- Who can go on is not kept from it by others. -/
theorem canRun_of_later (later : polling.scheduler.Later after.scheduler)
    (known : loop.arming ≤ polling.scheduler.arms) (able : canRun now polling loop = true) :
    canRun now after loop = true := by
  have staysOver := later.isOver known
  unfold canRun at able ⊢
  cases stage : loop.stage with
  | unstarted => rfl
  | waiting deadline =>
    simp only [stage, Bool.or_eq_true] at able ⊢
    exact able.imp_left staysOver
  | working deadline work =>
    cases work with
    | doing chores => rfl
    | asleep alarm chores =>
      simp only [stage, Bool.or_eq_true] at able ⊢
      exact able.imp_left staysOver
    | hung =>
      simp only [stage] at able ⊢
      exact staysOver able
  | ended => simp [stage] at able

theorem starts_step (now : Nat) (polling : Polling) (loop : Task) :
    ∃ scheduler : Scheduler Nat, scheduler.Starts (step now polling loop).2.2 := by
  have none : ∃ scheduler : Scheduler Nat, scheduler.Starts ([] : List Task) :=
    ⟨{}, Scheduler.starts_nil _⟩
  unfold step
  cases loop.stage with
  | unstarted | ended => exact none
  | waiting deadline =>
    dsimp only
    split
    next => exact none
    next => exact none
  | working deadline work =>
    cases work with
    | doing chores =>
      cases chores with
      | nil => exact none
      | cons chore chores =>
        cases chore with
        | wait duration => cases duration <;> exact none
        | hang | stop => exact none
        | reschedule live => exact ⟨_, Scheduler.starts_reschedule polling.scheduler live⟩
    | asleep alarm chores =>
      dsimp only
      split
      next => exact none
      next => exact none
    | hung => exact none

theorem step_eq {next : Task} (turn : program.step now polling loop = (next, after, others)) :
    next = (step now polling loop).1 ∧ after = (step now polling loop).2.1 ∧
      others = (step now polling loop).2.2 := by
  change step now polling loop = _ at turn
  rw [turn]
  exact ⟨rfl, rfl, rfl⟩

/-- With the clock standing still every turn spends effort, and so turns come to an end. -/
theorem tires_program : program.Tires Numbered effort where
  keeps := by
    intro now polling older loop newer next after spawned numbered able turn
    obtain ⟨rfl, rfl, rfl⟩ := step_eq turn
    exact (changes_step older newer able).keeps Numbered.change numbered
  bounded := effort_le_rank
  tires := by
    intro now polling older loop newer next after spawned _ able turn
    obtain ⟨rfl, rfl, rfl⟩ := step_eq turn
    exact tires_step able
  others := by
    intro now polling older loop newer next after spawned numbered able turn other member
    obtain ⟨rfl, rfl, rfl⟩ := step_eq turn
    have known : other.arming ≤ polling.scheduler.arms := by
      refine numbered other ?_
      rcases List.mem_append.1 member with isOlder | isNewer
      · exact List.mem_append_left _ isOlder
      · exact List.mem_append_right _ (List.mem_cons_of_mem _ isNewer)
    exact ⟨effort_le (scripts_step now polling loop) now other,
      canRun_of_later (changes_step older newer able).later known⟩
  awake := by
    intro now polling older loop newer next after spawned _ turn other member
    obtain ⟨rfl, rfl, rfl⟩ := step_eq turn
    obtain ⟨scheduler, starts⟩ := starts_step now polling loop
    show canRun now _ other = true
    simp only [canRun, starts.unstarted other member]

/-! ## What is reached -/

variable {bench last : Bench}

/-- What settling needs of a bench. -/
structure Prompt (bench : Bench) : Prop where
  /-- Loops stand in the queue once. -/
  queued : bench.Queued
  /-- Loops that can go on stand there. -/
  alert : bench.Alert program
  /-- Loops have numbers that were given out. -/
  numbered : bench.state.Numbered bench.tasks

/-- Settling empties the queue. -/
theorem Prompt.ready_settle (prompt : Prompt bench) : (bench.settle program).ready = [] :=
  Executor.ready_settle tires_program prompt.queued prompt.numbered

/-- Every step keeps the queue in order. -/
theorem Prompt.step (prompt : Prompt bench) (step : Step bench last) : Prompt last := by
  have numbered : last.state.Numbered last.tasks := by
    rcases step.changes with ⟨-, changes⟩ | ⟨-, -, state, tasks⟩
    · exact changes.keeps Numbered.change prompt.numbered
    · rw [state, tasks]
      exact prompt.numbered
  cases step with
  | act immediate =>
    obtain ⟨after, loops, acts, -⟩ := perform_eq_act bench immediate
    rw [acts] at numbered ⊢
    exact ⟨prompt.queued.act after loops, Executor.alert_act program bench after loops, numbered⟩
  | turn => exact ⟨prompt.queued.step, prompt.alert.step, numbered⟩
  | clock time =>
    exact ⟨prompt.queued.moveTo time, Executor.alert_moveTo program bench time, numbered⟩

/-- A step in which the clock moves no further than to the first time at which a loop is due. -/
def Timely (bench last : Bench) : Prop :=
  Step bench last ∧ (last.now = bench.now ∨ bench.Punctual program last.now)

/-- A turn takes no time. -/
theorem timely_turn (bench : Bench) : Timely bench (bench.step program) :=
  ⟨.turn, .inl (Executor.now_step program bench)⟩

/-- The clock may move if it stops at the next deadline. -/
theorem timely_clock {time : Nat} (punctual : bench.Punctual program time) :
    Timely bench (bench.moveTo program time) :=
  ⟨.clock time punctual.settled punctual.forward, .inr punctual⟩

/-- Whatever is done is made of single steps, in which the clock moves no further than that. -/
theorem timely_perform (prompt : Prompt bench) (action : Action) :
    Relation.ReflTransGen Timely bench (perform bench action) := by
  cases action with
  | configure | start | stop | reschedule => exact .single ⟨.act rfl, .inl rfl⟩
  | settle =>
    exact Executor.settle_induction (fun last steps => steps.tail (timely_turn last)) .refl
  | advance duration =>
    have settles (last : Bench) (both : Prompt last ∧ Relation.ReflTransGen Timely bench last) :
        (last.settle program).ready = [] := both.1.ready_settle
    have turns (last : Bench) (both : Prompt last ∧ Relation.ReflTransGen Timely bench last) :
        Prompt (last.step program) ∧ Relation.ReflTransGen Timely bench (last.step program) :=
      ⟨both.1.step .turn, both.2.tail (timely_turn last)⟩
    have moves (last : Bench) (time : Nat)
        (both : Prompt last ∧ Relation.ReflTransGen Timely bench last)
        (punctual : last.Punctual program time) :
        Prompt (last.moveTo program time) ∧
          Relation.ReflTransGen Timely bench (last.moveTo program time) :=
      ⟨both.1.step (timely_clock punctual).1, both.2.tail (timely_clock punctual)⟩
    exact (Executor.advance_punctual settles turns moves duration ⟨prompt, .refl⟩).2

/-- What can become of a bench from some moment on. -/
abbrev Reaches (bench last : Bench) : Prop := Relation.ReflTransGen Step bench last

/-- What can become of a timer that is not set to anything. -/
def Reachable (bench : Bench) : Prop := Reaches { state := {} } bench

/-- Wherever a timer is, its queue is in order. -/
theorem Reachable.prompt (reachable : Reachable bench) : Prompt bench := by
  induction reachable with
  | refl => exact ⟨⟨List.nodup_nil, nofun⟩, nofun, nofun⟩
  | tail _ step prompt => exact prompt.step step

/-- An action leads to what can become of a timer. -/
theorem Reachable.perform (reachable : Reachable bench) (action : Action) :
    Reachable (perform bench action) :=
  reachable.trans (Relation.ReflTransGen.mono (fun _ _ timely => timely.1) _ _
    (timely_perform reachable.prompt action))

theorem Reachable.foldl (reachable : Reachable bench) (actions : List Action) :
    Reachable (actions.foldl Polling.perform bench) := by
  induction actions generalizing bench with
  | nil => exact reachable
  | cons action actions induction => exact induction (reachable.perform action)

end QuerySync.Polling
