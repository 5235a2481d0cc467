import Mathlib.Data.List.Nodup
import QuerySync.Proofs.Poll.Settling

/-!
# There is one timer at most

The loop of every arming stays a task after the arming is over, so there may be any number of them.
But exactly as long as the timer is armed there is one that goes on, the one that was started last
(`Owned`), and at no time are two in the middle of their work (`Exclusive`).

The second needs the clock.  A loop that is over may be in the middle of its work when the next one
is armed.  It can go on, though: to its next wait, or to its end.  And the clock does not move while
a loop can go on, so the new loop, whose first deadline lies ahead, does not get there before.
-/

namespace QuerySync

/-- Whether a call of a callback begins. -/
def LoopMark.isTick : LoopMark → Bool
  | ticked _ => true
  | began | skipped _ | finished => false

namespace Polling

/-- The calls of the callback that a loop began, newest first. -/
def ticks (polling : Polling) (arming : Nat) : List LoopEntry :=
  polling.record.filter fun entry => entry.arming == arming && entry.mark.isTick

/-- Whether a loop is at a deadline, or past one and not yet ready for the next. -/
def Task.isBusy (now : Nat) (loop : Task) : Bool :=
  match loop.stage with
  | .waiting deadline => deadline ≤ now
  | .working _ _ => true
  | .unstarted | .ended => false

/-- The loops of a timer have the numbers of its armings, one each, and the timer is the last of
them if there is one. -/
structure Owned (polling : Polling) (tasks : List Task) : Prop where
  armings : tasks.map (·.arming) = List.range' 1 polling.scheduler.arms
  latest : ∀ arming ∈ polling.scheduler.armed, arming = polling.scheduler.arms ∧ 0 < arming
  set : polling.scheduler.isArmed = true → polling.scheduler.setting.isSome = true
  /-- Only a loop that is over ends. -/
  ended : ∀ loop ∈ tasks, loop.stage = .ended → polling.goesOn loop.arming = false

/-- No two loops are in the middle of their work. -/
structure Exclusive (now : Nat) (polling : Polling) (tasks : List Task) : Prop where
  single : tasks.countP (·.isWorking) ≤ 1
  /-- Loops that are over have left their work when another one gets to its own. -/
  alone : ∀ loop ∈ tasks, polling.goesOn loop.arming = true → Task.isBusy now loop = true →
    ∀ other ∈ tasks, other.isWorking = true → polling.goesOn other.arming = true

variable {now : Nat} {polling after : Polling} {loop : Task} {stage : Loop.Stage Work}
  {tasks others older newer loops : List Task}

/-- Who goes on depends on the armed loop alone. -/
theorem goesOn_eq (armed : after.scheduler.armed = polling.scheduler.armed) (arming : Nat) :
    after.goesOn arming = polling.goesOn arming := by
  rw [goesOn, Scheduler.isOver, armed, goesOn, Scheduler.isOver]

/-- Whoever is there after a turn was there before, but for the loop that had it. -/
theorem mem_turn {other : Task} (member : other ∈ older ++ { loop with stage } :: newer) :
    other = { loop with stage } ∨ other ∈ older ++ loop :: newer ∧ other ∈ older ++ newer := by
  rcases List.mem_append.1 member with isOlder | member
  · exact .inr ⟨List.mem_append_left _ isOlder, List.mem_append_left _ isOlder⟩
  rcases List.mem_cons.1 member with same | isNewer
  · exact .inl same
  · exact .inr ⟨List.mem_append_right _ (List.mem_cons_of_mem _ isNewer),
      List.mem_append_right _ isNewer⟩

/-! ## One timer -/

namespace Owned

/-- The number of a loop was given out. -/
theorem arming_le (owned : polling.Owned tasks) (member : loop ∈ tasks) :
    loop.arming ≤ polling.scheduler.arms := by
  have isArming := List.mem_map_of_mem (f := (·.arming)) member
  rw [owned.armings] at isArming
  have := List.mem_range'_1.1 isArming
  omega

/-- A turn leaves the numbers of loops as they are. -/
theorem turn (owned : polling.Owned (older ++ loop :: newer))
    (turn : Turn now polling loop stage after) :
    after.Owned (older ++ { loop with stage } :: newer) := by
  obtain ⟨arms, armed, set⟩ := turn.scheduler
  refine ⟨?_, ?_, ?_, ?_⟩
  · rw [arms, ← owned.armings]
    simp
  · rw [arms, armed]
    exact owned.latest
  · rw [Scheduler.isArmed, armed, set]
    exact owned.set
  · intro other member ends
    rw [goesOn_eq armed]
    rcases mem_turn member with rfl | ⟨known, -⟩
    · cases turn with
      | leave _ isOver => exact isOver
      | begin | skip | tick | work | finish => cases ends
    · exact owned.ended other known ends

/-- A switch starts a loop under the next number, if any. -/
theorem switch (owned : polling.Owned tasks) (switches : polling.Switches after loops) :
    after.Owned (tasks ++ loops) := by
  have later := switches.scheduler.later
  have known (other : Task) (member : other ∈ tasks) (ends : other.stage = .ended) :
      after.goesOn other.arming = false :=
    goesOn_eq_false_iff.2 (later.isOver (owned.arming_le member)
      (goesOn_eq_false_iff.1 (owned.ended other member ends)))
  cases switches.scheduler with
  | keep arms armed set =>
    rw [List.append_nil]
    refine ⟨arms ▸ owned.armings, ?_, fun isArmed => set (owned.set ?_), known⟩
    · rw [arms, armed]
      exact owned.latest
    · rw [Scheduler.isArmed, ← armed]
      exact isArmed
  | off arms armed set =>
    rw [List.append_nil]
    refine ⟨arms ▸ owned.armings, ?_, ?_, known⟩
    · rw [armed]
      exact fun _ none => absurd none (Option.not_mem_none _)
    · rw [Scheduler.isArmed, armed]
      exact fun isArmed => absurd isArmed Bool.false_ne_true
  | on period callback arms armed set =>
    refine ⟨?_, ?_, fun _ => set, fun other member ends => ?_⟩
    · rw [List.map_append, owned.armings, arms, List.range'_1_concat, Nat.add_comm 1]
      rfl
    · rw [armed, arms]
      rintro _ ⟨⟩
      exact ⟨rfl, Nat.succ_pos _⟩
    · rcases List.mem_append.1 member with old | new
      · exact known other old ends
      · cases List.mem_singleton.1 new
        cases ends

theorem change (owned : polling.Owned tasks) (change : Change now polling tasks after others) :
    after.Owned others := by
  cases change with
  | turn turn => exact owned.turn turn
  | switch switches => exact owned.switch switches

/-- No two loops have one number. -/
theorem nodup (owned : polling.Owned tasks) : (tasks.map (·.arming)).Nodup := by
  rw [owned.armings]
  exact List.nodup_range'

/-- As long as the timer is armed one loop goes on, and otherwise none does. -/
theorem countP_goesOn (owned : polling.Owned tasks) :
    (tasks.countP fun loop => polling.goesOn loop.arming) =
      if polling.scheduler.isArmed then 1 else 0 := by
  have armings : (tasks.countP fun loop => polling.goesOn loop.arming) =
      (List.range' 1 polling.scheduler.arms).countP polling.goesOn := by
    rw [← owned.armings, List.countP_map]
    rfl
  rw [armings, Scheduler.isArmed]
  cases armed : polling.scheduler.armed with
  | none =>
    refine List.countP_eq_zero.2 fun arming _ goesOn => ?_
    rw [goesOn_iff, armed] at goesOn
    cases goesOn
  | some arming =>
    obtain ⟨isLast, positive⟩ := owned.latest arming armed
    have same (other : Nat) : polling.goesOn other = true ↔ (other == arming) = true := by
      rw [goesOn_iff, armed, beq_iff_eq, Option.some_inj, eq_comm]
    have member : arming ∈ List.range' 1 polling.scheduler.arms :=
      List.mem_range'_1.2 ⟨positive, by omega⟩
    calc (List.range' 1 polling.scheduler.arms).countP polling.goesOn
        = (List.range' 1 polling.scheduler.arms).count arming :=
          List.countP_congr fun other _ => same other
      _ = 1 := List.nodup_iff_count_eq_one.1 List.nodup_range' arming member

/-- So other loops have other numbers. -/
theorem ne_of_mem (owned : polling.Owned (older ++ loop :: newer)) {other : Task}
    (member : other ∈ older ++ newer) : loop.arming ≠ other.arming := by
  have nodup := owned.nodup
  rw [List.map_append, List.map_cons, List.nodup_middle, ← List.map_append] at nodup
  intro same
  exact (List.nodup_cons.1 nodup).1 (same ▸ List.mem_map_of_mem member)

/-- Two loops that go on are one. -/
theorem not_goesOn (owned : polling.Owned (older ++ loop :: newer))
    (goesOn : polling.goesOn loop.arming = true) {other : Task} (member : other ∈ older ++ newer) :
    polling.goesOn other.arming = false := by
  refine Bool.eq_false_iff.2 fun alsoGoesOn => owned.ne_of_mem member ?_
  rw [goesOn_iff] at goesOn alsoGoesOn
  exact Option.some.inj (goesOn.symm.trans alsoGoesOn)

end Owned

/-! ## One call -/

/-- Only a loop that is busy makes itself busy. -/
theorem Turn.isBusy (turn : Turn now polling loop stage after)
    (busy : Task.isBusy now { loop with stage } = true) : Task.isBusy now loop = true := by
  cases turn with
  | begin =>
    have late : now + loop.period.length ≤ now := by simpa [Task.isBusy] using busy
    exact absurd late (Nat.not_le_of_lt (Nat.lt_add_of_pos_right loop.period.positive))
  | skip waits _ due => simp [Task.isBusy, waits, due]
  | tick waits _ due => simp [Task.isBusy, waits, due]
  | work works => simp [Task.isBusy, works]
  | finish done => simp [Task.isBusy, done]
  | leave => cases busy

/-- Who works after a turn worked before, or met a deadline. -/
theorem Turn.isWorking (turn : Turn now polling loop stage after)
    (working : ({ loop with stage } : Task).isWorking = true) :
    loop.isWorking = true ∨
      polling.goesOn loop.arming = true ∧ Task.isBusy now loop = true := by
  cases turn with
  | tick waits goesOn due => exact .inr ⟨goesOn, by simp [Task.isBusy, waits, due]⟩
  | work works => exact .inl (by simp [Loop.isWorking, works])
  | begin | skip | finish | leave => cases working

namespace Exclusive

/-- A loop starts a call only if it is the one that goes on, and nobody else is in a call then. -/
theorem turn_single (exclusive : polling.Exclusive now (older ++ loop :: newer))
    (owned : polling.Owned (older ++ loop :: newer))
    (turn : Turn now polling loop stage after) :
    (older ++ { loop with stage } :: newer).countP (·.isWorking) ≤ 1 := by
  have single := exclusive.single
  rw [List.countP_append, List.countP_cons] at single ⊢
  cases works : ({ loop with stage } : Task).isWorking with
  | false =>
    rw [if_neg Bool.false_ne_true]
    omega
  | true =>
    rcases turn.isWorking works with worked | ⟨goesOn, busy⟩
    · rw [if_pos worked] at single
      exact single
    · have idle : (older ++ newer).countP (·.isWorking) = 0 := by
        refine List.countP_eq_zero.2 fun other member works => ?_
        have isThere : loop ∈ older ++ loop :: newer := List.mem_append_cons_self
        have alsoThere : other ∈ older ++ loop :: newer :=
          ((List.sublist_cons_self loop newer).append_left older).subset member
        have alsoGoesOn := exclusive.alone loop isThere goesOn busy other alsoThere works
        exact absurd (owned.not_goesOn goesOn member) (by simp [alsoGoesOn])
      rw [List.countP_append] at idle
      rw [if_pos rfl]
      omega

theorem turn (exclusive : polling.Exclusive now (older ++ loop :: newer))
    (owned : polling.Owned (older ++ loop :: newer))
    (turn : Turn now polling loop stage after) :
    after.Exclusive now (older ++ { loop with stage } :: newer) := by
  refine ⟨exclusive.turn_single owned turn, ?_⟩
  intro busy isThere goesOn isBusy other alsoThere works
  have isLoop : loop ∈ older ++ loop :: newer := List.mem_append_cons_self
  rw [goesOn_eq turn.scheduler.2.1] at goesOn ⊢
  -- who is at a deadline now was there before, as the loop itself was if it had the turn
  have before : ∃ before ∈ older ++ loop :: newer,
      polling.goesOn before.arming = true ∧ Task.isBusy now before = true := by
    rcases mem_turn isThere with rfl | ⟨known, -⟩
    · exact ⟨loop, isLoop, goesOn, turn.isBusy isBusy⟩
    · exact ⟨busy, known, goesOn, isBusy⟩
  obtain ⟨before, known, wentOn, wasBusy⟩ := before
  have alone := exclusive.alone before known wentOn wasBusy
  rcases mem_turn alsoThere with rfl | ⟨known, -⟩
  · rcases turn.isWorking works with worked | ⟨goesOn, -⟩
    · exact alone loop isLoop worked
    · exact goesOn
  · exact alone other known works

theorem switch (exclusive : polling.Exclusive now tasks)
    (switches : polling.Switches after loops) (owned : polling.Owned tasks) :
    after.Exclusive now (tasks ++ loops) := by
  obtain ⟨single, alone⟩ := exclusive
  cases switches.scheduler with
  | keep arms armed =>
    rw [List.append_nil]
    refine ⟨single, fun loop isThere goesOn busy other alsoThere works => ?_⟩
    rw [goesOn_eq armed] at goesOn ⊢
    exact alone loop isThere goesOn busy other alsoThere works
  | off arms armed =>
    rw [List.append_nil]
    refine ⟨single, fun loop _ goesOn => ?_⟩
    rw [goesOn_iff, armed] at goesOn
    cases goesOn
  | on period callback arms armed =>
    refine ⟨?_, fun loop isThere goesOn busy => ?_⟩
    · rw [List.countP_append]
      exact single
    · rw [goesOn_iff, armed] at goesOn
      rcases List.mem_append.1 isThere with old | new
      · -- the loops that were there have earlier numbers
        have known := owned.arming_le old
        have isNew := Option.some.inj goesOn
        omega
      · cases List.mem_singleton.1 new
        cases busy

theorem change (exclusive : polling.Exclusive now tasks) (owned : polling.Owned tasks)
    (change : Change now polling tasks after others) : after.Exclusive now others := by
  cases change with
  | turn turn => exact exclusive.turn owned turn
  | switch switches => exact exclusive.switch switches owned

end Exclusive

/-! ## What is reached -/

variable {bench last : Bench}

/-- A loop that is over and not in the queue has ended. -/
theorem Prompt.ended (prompt : Prompt bench) {place : Nat}
    (found : bench.tasks[place]? = some loop) (isOver : bench.state.goesOn loop.arming = false)
    (waits : place ∉ bench.ready) : loop.stage = .ended := by
  have isOver : bench.state.scheduler.isOver loop.arming = true := goesOn_eq_false_iff.1 isOver
  have unable : ¬ canRun bench.now bench.state loop = true := fun able =>
    waits (prompt.alert place loop found able)
  unfold canRun at unable
  cases stage : loop.stage with
  | unstarted => simp [stage] at unable
  | waiting deadline => simp [stage, isOver] at unable
  | working deadline work =>
    cases work with
    | doing | asleep | hung => simp [stage, isOver] at unable
  | ended => rfl

/-- What holds of loops and their timer wherever they are. -/
structure Held (bench : Bench) : Prop where
  prompt : Prompt bench
  owned : bench.state.Owned bench.tasks
  exclusive : bench.state.Exclusive bench.now bench.tasks

/-- Every step keeps all that holds of a timer. -/
theorem Held.step (held : Held bench) (step : Step bench last) : Held last := by
  obtain ⟨prompt, owned, exclusive⟩ := held
  have after := prompt.step step
  rcases step.changes with ⟨now, changes⟩ | ⟨settled, -, state, tasks⟩
  · have each {polling after : Polling} {tasks others : List Task}
        (both : polling.Owned tasks ∧ polling.Exclusive bench.now tasks)
        (change : Change bench.now polling tasks after others) :
        after.Owned others ∧ after.Exclusive bench.now others :=
      ⟨both.1.change change, both.2.change both.1 change⟩
    obtain ⟨owned, exclusive⟩ := changes.keeps each ⟨owned, exclusive⟩
    exact ⟨after, owned, now ▸ exclusive⟩
  · -- while the clock moves no loop is both over and in the middle of its work
    refine ⟨after, ?_, ?_, fun _ _ _ _ other isThere works => ?_⟩
    · rw [state, tasks]
      exact owned
    · rw [tasks]
      exact exclusive.single
    · rw [tasks] at isThere
      rw [state]
      refine Bool.of_not_eq_false fun isOver => ?_
      obtain ⟨place, found⟩ := List.getElem?_of_mem isThere
      have ended := prompt.ended found isOver (settled ▸ List.not_mem_nil)
      simp [Loop.isWorking, ended] at works

/-- So it holds wherever a timer is. -/
theorem Reachable.held (reachable : Reachable bench) : Held bench := by
  induction reachable with
  | refl =>
    have prompt : Prompt { state := {} } := Reachable.prompt .refl
    exact ⟨prompt, ⟨rfl, nofun, nofun, nofun⟩, ⟨Nat.zero_le 1, nofun⟩⟩
  | tail _ step held => exact held.step step

/-! ## Loops that are over -/

/-- Ticks are counted for their own loop. -/
theorem ticks_note (polling : Polling) (now : Nat) (loop : Task) {mark : LoopMark} {arming : Nat}
    (other : loop.arming ≠ arming ∨ mark.isTick = false) :
    (polling.note now loop mark).ticks arming = polling.ticks arming := by
  refine List.filter_cons_of_neg ?_
  rcases other with different | noTick
  · simp [different]
  · simp [noTick]

/-- What becomes of a loop that is over: it begins no call any more, and if it waits, all that it
does is to end. -/
structure Left (loop : Task) (ticks : List LoopEntry) (polling : Polling) (tasks : List Task) :
    Prop where
  known : loop.arming ≤ polling.scheduler.arms
  isOver : polling.goesOn loop.arming = false
  ticks : polling.ticks loop.arming = ticks
  stays : loop.isSuspended = true → ∀ other ∈ tasks, other.arming = loop.arming →
    other = loop ∨ other = { loop with stage := .ended }

namespace Left

variable {left : Task} {ticks : List LoopEntry}

theorem turn (holds : Left left ticks polling (older ++ loop :: newer))
    (turn : Turn now polling loop stage after) :
    Left left ticks after (older ++ { loop with stage } :: newer) := by
  obtain ⟨known, isOver, same, stays⟩ := holds
  obtain ⟨arms, armed, -⟩ := turn.scheduler
  refine ⟨arms ▸ known, goesOn_eq armed _ ▸ isOver, ?_, fun suspended other member isLoop => ?_⟩
  · rw [← same]
    cases turn with
    | begin | skip | finish => exact ticks_note _ now loop (.inr rfl)
    | tick waits goesOn =>
      refine ticks_note _ now loop (.inl ?_)
      intro isLeft
      rw [isLeft, isOver] at goesOn
      cases goesOn
    | work | leave => rfl
  · rcases mem_turn member with rfl | ⟨before, -⟩
    · have isLoop : loop.arming = left.arming := isLoop
      have isThere : loop ∈ older ++ loop :: newer := List.mem_append_cons_self
      have stops : ¬ polling.goesOn loop.arming = true := by simp [isLoop, isOver]
      rcases stays suspended loop isThere isLoop with rfl | rfl
      · cases turn with
        | begin unstarted => simp [Task.isSuspended, unstarted] at suspended
        | finish done => simp [Task.isSuspended, done] at suspended
        | skip waits goesOn | tick waits goesOn => exact absurd goesOn stops
        | work works awake => exact absurd (awake suspended) stops
        | leave => exact .inr rfl
      · cases turn with
        | begin working | skip working | tick working | work working | finish working =>
          cases working
        | leave => exact .inr rfl
    · exact stays suspended other before isLoop

theorem change (holds : Left left ticks polling tasks)
    (change : Change now polling tasks after others) : Left left ticks after others := by
  have later := change.later
  cases change with
  | turn turn => exact holds.turn turn
  | switch switches =>
    obtain ⟨known, isOver, same, stays⟩ := holds
    refine ⟨Nat.le_trans known later.arms, ?_, ?_, fun suspended other member isLoop => ?_⟩
    · exact goesOn_eq_false_iff.2 (later.isOver known (goesOn_eq_false_iff.1 isOver))
    · rw [Polling.ticks, switches.record]
      exact same
    · rcases List.mem_append.1 member with old | new
      · exact stays suspended other old isLoop
      · cases switches.scheduler with
        | keep | off => exact absurd new List.not_mem_nil
        | on period callback arms =>
          cases List.mem_singleton.1 new
          have isNew : polling.scheduler.arms + 1 = left.arming := isLoop
          omega

/-- A loop that was left makes no tick on any run. -/
theorem reaches (holds : Left left ticks bench.state bench.tasks) (reaches : Reaches bench last) :
    Left left ticks last.state last.tasks := by
  induction reaches with
  | refl => exact holds
  | tail _ step holds =>
    rcases step.changes with ⟨-, changes⟩ | ⟨-, -, state, tasks⟩
    · exact changes.keeps change holds
    · rw [state, tasks]
      exact holds

end Left

/-- A loop that does not go on is left. -/
theorem Held.left (held : Held bench) (member : loop ∈ bench.tasks)
    (isOver : bench.state.goesOn loop.arming = false) :
    Left loop (bench.state.ticks loop.arming) bench.state bench.tasks := by
  refine ⟨held.owned.arming_le member, isOver, rfl, fun _ other alsoMember same => ?_⟩
  exact .inl (List.inj_on_of_nodup_map held.owned.nodup alsoMember member same)

/-! ## Calls -/

/-- Only a loop that goes on begins a call. -/
theorem ticks_step {entry : LoopEntry}
    (recorded : (Polling.step now polling loop).2.1.record = entry :: polling.record)
    (ticks : entry.mark.isTick = true) : polling.scheduler.armed = some entry.arming := by
  have silent {record : List LoopEntry} (same : record = polling.record)
      (recorded : record = entry :: polling.record) : False :=
    List.cons_ne_self entry polling.record (recorded.symm.trans same)
  have notes {mark : LoopMark} (noTick : mark.isTick = false)
      (recorded : (polling.note now loop mark).record = entry :: polling.record) : False := by
    cases recorded
    exact absurd (noTick.symm.trans ticks) Bool.false_ne_true
  unfold Polling.step at recorded
  cases stage : loop.stage with
  | unstarted =>
    rw [stage] at recorded
    exact (notes rfl recorded).elim
  | waiting deadline =>
    simp only [stage] at recorded
    split at recorded
    next => exact (silent rfl recorded).elim
    next goesOn =>
      unfold meet at recorded
      dsimp only at recorded
      split at recorded
      next => exact (notes rfl recorded).elim
      next =>
        cases recorded
        simpa [← goesOn_iff, Polling.goesOn] using goesOn
  | working deadline work =>
    cases work with
    | doing chores =>
      cases chores with
      | nil =>
        rw [stage] at recorded
        exact (notes rfl recorded).elim
      | cons chore chores =>
        simp only [stage] at recorded
        exact (silent (switches_doChore polling now chore chores).record recorded).elim
    | asleep alarm chores =>
      simp only [stage] at recorded
      split at recorded
      next => exact (silent rfl recorded).elim
      next => exact (silent rfl recorded).elim
    | hung =>
      simp only [stage] at recorded
      exact (silent rfl recorded).elim
  | ended =>
    simp only [stage] at recorded
    exact (silent rfl recorded).elim

/-- Whoever ticks at a step was armed before it. -/
theorem Step.armed_of_tick (step : Step bench last) {entry : LoopEntry}
    (recorded : last.state.record = entry :: bench.state.record)
    (ticks : entry.mark.isTick = true) : bench.state.scheduler.armed = some entry.arming := by
  have silent (same : last.state.record = bench.state.record) : False :=
    List.cons_ne_self entry bench.state.record (recorded.symm.trans same)
  cases step with
  | act immediate =>
    obtain ⟨after, loops, acts, switches⟩ := perform_eq_act bench immediate
    rw [acts] at silent
    exact (silent switches.record).elim
  | turn =>
    rcases Executor.step_cases program bench with
      ⟨state, -⟩ | ⟨older, loop, newer, next, after, spawned, -, -, turn, state, -⟩
    · rw [state] at silent
      exact (silent rfl).elim
    · obtain ⟨-, rfl, -⟩ := step_eq turn
      rw [state] at recorded
      exact ticks_step recorded ticks
  | clock => exact (silent rfl).elim

/-! ## Rescheduling -/

/-- Rescheduling a timer that is as it should be does nothing. -/
theorem reschedule_of_settled {live : Bool} (settled : polling.scheduler.isArmed =
      (live && polling.scheduler.setting.isSome)) : polling.reschedule live = (polling, []) := by
  have same : polling.scheduler.reschedule live = (polling.scheduler, ([] : List Task)) :=
    Scheduler.reschedule_of_settled settled
  simp only [reschedule, same]

/-- To do nothing wakes nobody. -/
theorem Prompt.act_self (prompt : Prompt bench) : bench.act program bench.state [] = bench :=
  prompt.alert.act_self

/-! ## The law of the timer -/

/-- There is one timer at most. -/
structure Single (bench : Bench) : Prop where
  /-- As long as the timer is armed one loop goes on, and otherwise none does. -/
  one : (bench.tasks.countP fun loop => bench.state.goesOn loop.arming) =
    if bench.state.scheduler.isArmed then 1 else 0
  /-- A loop that goes on has not ended. -/
  running : ∀ loop ∈ bench.tasks, bench.state.goesOn loop.arming = true → loop.stage ≠ .ended
  /-- Every arming started one loop. -/
  arms : bench.state.scheduler.arms = bench.tasks.length
  /-- No two loops are in the middle of their work. -/
  exclusive : bench.tasks.countP (·.isWorking) ≤ 1
  /-- Rescheduling leaves the timer armed if it should be and is set. -/
  rescheduled : ∀ live, (bench.state.reschedule live).1.scheduler.isArmed =
    (live && bench.state.scheduler.setting.isSome)
  /-- It does nothing to a timer that is so already. -/
  unchanged : ∀ live,
    bench.state.scheduler.isArmed = (live && bench.state.scheduler.setting.isSome) →
    bench.state.reschedule live = (bench.state, []) ∧ perform bench (.reschedule live) = bench
  /-- A call begins only for the armed loop. -/
  ticks : ∀ later, Step bench later → ∀ entry,
    later.state.record = entry :: bench.state.record → entry.mark.isTick = true →
    bench.state.scheduler.armed = some entry.arming
  /-- A loop that is over has ended unless it is in the queue.  It begins no call any more, and if
  it waits, all that it does is to end. -/
  afterwards : ∀ place loop, bench.tasks[place]? = some loop →
    bench.state.goesOn loop.arming = false →
    (place ∉ bench.ready → loop.stage = .ended) ∧
    ∀ later, Reaches bench later →
      later.state.goesOn loop.arming = false ∧
      later.state.ticks loop.arming = bench.state.ticks loop.arming ∧
      (loop.isSuspended = true → ∀ other ∈ later.tasks, other.arming = loop.arming →
        other = loop ∨ other = { loop with stage := .ended })

/-- Whatever is done to a timer, there is one at most, whatever its scripts are, also those that
never end or that arm and disarm the timer themselves. -/
theorem single_timer :
    (∀ actions : List Action, Reachable (actions.foldl perform { state := {} })) ∧
      ∀ bench, Reachable bench → Single bench := by
  refine ⟨fun actions => Reachable.foldl .refl actions, fun bench reachable => ?_⟩
  obtain ⟨prompt, owned, exclusive⟩ := reachable.held
  refine
    { one := owned.countP_goesOn
      running := fun loop member goesOn ended => ?_
      arms := ?_
      exclusive := exclusive.single
      rescheduled := Scheduler.isArmed_reschedule owned.set
      unchanged := fun live settled => ?_
      ticks := fun later step entry => step.armed_of_tick
      afterwards := fun place loop found isOver =>
        ⟨prompt.ended found isOver, fun later reaches => ?_⟩ }
  · rw [owned.ended loop member ended] at goesOn
    cases goesOn
  · have lengths := congrArg List.length owned.armings
    simpa using lengths.symm
  · have same := reschedule_of_settled settled
    refine ⟨same, ?_⟩
    show bench.act program (bench.state.reschedule live).1 (bench.state.reschedule live).2 = bench
    rw [same]
    exact prompt.act_self
  · have left := (reachable.held.left (List.mem_of_getElem? found) isOver).reaches reaches
    exact ⟨left.isOver, left.ticks, left.stays⟩

/-- A call of the first timer is still running when the timer is armed anew.  Its loop is in the
queue, and has ended once the queue is empty. -/
theorem single_timer_rearmed :
    let actions : List Action :=
      [.start 1000 [[.wait 2500]], .advance 1200, .start 1000 [[.wait 10]]]
    let bench := actions.foldl perform { state := {} }
    Single bench ∧ bench.ready = [0, 1] ∧
      bench.tasks.map (·.isWorking) = [true, false] ∧
      bench.tasks.map (fun loop => bench.state.goesOn loop.arming) = [false, true] ∧
      (bench.settle program).tasks.map (·.isWorking) = [false, false] := by
  intro actions bench
  refine ⟨single_timer.2 bench (single_timer.1 actions), ?_, ?_, ?_, ?_⟩
  · decide
  · decide
  · decide
  · decide

end Polling

end QuerySync
