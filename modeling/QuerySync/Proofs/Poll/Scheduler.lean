import QuerySync.Poll.Scheduler

/-!
# Laws of the poll timer

Armings are numbered upwards, so a loop that is over stays over (`Scheduler.Later`).  Arming
starts one loop at most, which has not set its first deadline and has a number that was given
out (`Scheduler.Starts`).  Whatever is done to a timer, it stays as it is, is disarmed, or makes
room for a new one (`Scheduler.Switch`).
-/

namespace QuerySync.Scheduler

variable {κ ω : Type} {scheduler before after : Scheduler κ}

/-- Nothing that was over goes on. -/
structure Later (before after : Scheduler κ) : Prop where
  /-- No arming is taken back. -/
  arms : before.arms ≤ after.arms
  /-- A loop that is over stays over. -/
  isOver : ∀ {arming}, arming ≤ before.arms → before.isOver arming = true →
    after.isOver arming = true

/-- Loops that were just started. -/
structure Starts (scheduler : Scheduler κ) (loops : List (Loop κ ω)) : Prop where
  /-- There is one at most. -/
  single : loops.length ≤ 1
  /-- Their first deadline is not set. -/
  unstarted : ∀ loop ∈ loops, loop.stage = .unstarted
  /-- Their arming was given out. -/
  arming : ∀ loop ∈ loops, loop.arming ≤ scheduler.arms

/-- Nothing is taken back where neither the count of armings nor the armed loop changes. -/
theorem later_of_eq (arms : after.arms = before.arms) (armed : after.armed = before.armed) :
    before.Later after where
  arms := Nat.le_of_eq arms.symm
  isOver := by
    intro arming _ wasOver
    rwa [isOver, armed]

theorem Later.trans {middle : Scheduler κ} (first : before.Later middle)
    (second : middle.Later after) : before.Later after where
  arms := Nat.le_trans first.arms second.arms
  isOver := fun known wasOver =>
    second.isOver (Nat.le_trans known first.arms) (first.isOver known wasOver)

/-- A loop that is stopped does not come back. -/
theorem later_stop (scheduler : Scheduler κ) : scheduler.Later scheduler.stop where
  arms := Nat.le_refl _
  isOver := fun _ _ => rfl

/-- The loop that is armed has a new number. -/
theorem later_arm (scheduler : Scheduler κ) :
    scheduler.Later (scheduler.arm : Scheduler κ × List (Loop κ ω)).1 := by
  unfold arm
  split
  next => exact later_of_eq rfl rfl
  next =>
    refine ⟨Nat.le_succ _, fun {arming} known _ => bne_iff_ne.2 ?_⟩
    rintro ⟨⟩
    exact Nat.not_succ_le_self _ known

theorem starts_nil (scheduler : Scheduler κ) : scheduler.Starts ([] : List (Loop κ ω)) where
  single := Nat.zero_le 1
  unstarted := nofun
  arming := nofun

/-- To arm a timer that is set starts one loop, with the number after the last. -/
theorem starts_arm (scheduler : Scheduler κ) :
    (scheduler.arm : Scheduler κ × List (Loop κ ω)).1.Starts
      (scheduler.arm : Scheduler κ × List (Loop κ ω)).2 := by
  unfold arm
  split
  next => exact starts_nil _
  next =>
    exact ⟨Nat.le_refl 1, List.forall_mem_singleton.2 rfl,
      List.forall_mem_singleton.2 (Nat.le_refl _)⟩

/-- Rescheduling arms a new loop, stops the old one, or does nothing. -/
theorem later_reschedule (scheduler : Scheduler κ) (live : Bool) :
    scheduler.Later (scheduler.reschedule live : Scheduler κ × List (Loop κ ω)).1 := by
  unfold reschedule
  split
  next =>
    split
    next => exact later_of_eq rfl rfl
    next => exact later_arm scheduler
  next => exact later_stop scheduler

/-- It starts one loop at most. -/
theorem starts_reschedule (scheduler : Scheduler κ) (live : Bool) :
    (scheduler.reschedule live : Scheduler κ × List (Loop κ ω)).1.Starts
      (scheduler.reschedule live : Scheduler κ × List (Loop κ ω)).2 := by
  unfold reschedule
  split
  next =>
    split
    next => exact starts_nil _
    next => exact starts_arm scheduler
  next => exact starts_nil _

/-! ## Rescheduling -/

@[simp] theorem setting_arm (scheduler : Scheduler κ) :
    (scheduler.arm : Scheduler κ × List (Loop κ ω)).1.setting = scheduler.setting := by
  unfold arm
  split
  next => rfl
  next => rfl

@[simp] theorem setting_reschedule (scheduler : Scheduler κ) (live : Bool) :
    (scheduler.reschedule live : Scheduler κ × List (Loop κ ω)).1.setting =
      scheduler.setting := by
  unfold reschedule
  split
  next =>
    split
    next => rfl
    next => exact setting_arm scheduler
  next => rfl

/-- A timer that is as it should be stays so. -/
theorem reschedule_of_isArmed_eq {live : Bool} (same : scheduler.isArmed = live) :
    scheduler.reschedule live = (scheduler, ([] : List (Loop κ ω))) := by
  unfold reschedule
  cases live with
  | true => rw [if_pos rfl, if_pos same]
  | false =>
    have unarmed : scheduler.armed = none := by simpa [isArmed] using same
    rw [if_neg Bool.false_ne_true, stop, ← unarmed]

/-- A timer that should be armed and is not is armed anew. -/
theorem reschedule_of_unarmed {setting : Setting κ} (unarmed : scheduler.isArmed = false)
    (set : scheduler.setting = some setting) :
    scheduler.reschedule true =
      ({ scheduler with armed := some (scheduler.arms + 1), arms := scheduler.arms + 1 },
        ([{ arming := scheduler.arms + 1, period := setting.period
            callback := setting.callback }] : List (Loop κ ω))) := by
  unfold reschedule arm
  rw [if_pos rfl, unarmed, set]
  rfl

/-- A timer that is not set to anything is not armed. -/
theorem arm_of_unset (unset : scheduler.setting = none) :
    scheduler.arm = (scheduler, ([] : List (Loop κ ω))) := by
  unfold arm
  rw [unset]

/-- A timer that is as it can be stays so. -/
theorem reschedule_of_settled {live : Bool}
    (settled : scheduler.isArmed = (live && scheduler.setting.isSome)) :
    scheduler.reschedule live = (scheduler, ([] : List (Loop κ ω))) := by
  cases live with
  | false => exact reschedule_of_isArmed_eq settled
  | true =>
    cases unset : scheduler.setting with
    | some setting =>
      rw [unset] at settled
      exact reschedule_of_isArmed_eq settled
    | none =>
      rw [unset] at settled
      have unarmed : ¬ scheduler.isArmed = true := Bool.eq_false_iff.1 settled
      rw [reschedule, if_pos rfl, if_neg unarmed, arm_of_unset unset]

/-- A timer is armed after it is rescheduled if it should be and can be. -/
theorem isArmed_reschedule (set : scheduler.isArmed = true → scheduler.setting.isSome = true)
    (live : Bool) :
    (scheduler.reschedule live : Scheduler κ × List (Loop κ ω)).1.isArmed =
      (live && scheduler.setting.isSome) := by
  cases armed : scheduler.isArmed with
  | true =>
    cases live with
    | true => rw [reschedule_of_isArmed_eq armed, armed, set armed, Bool.and_self]
    | false => rfl
  | false =>
    cases live with
    | true =>
      cases unset : scheduler.setting with
      | some setting =>
        rw [reschedule_of_unarmed armed unset]
        rfl
      | none =>
        have settled : scheduler.isArmed = (true && scheduler.setting.isSome) := by
          rw [armed, unset]
          rfl
        rw [reschedule_of_settled settled, armed]
        rfl
    | false => rfl

/-! ## Switching -/

/-- A timer stays as it is, is disarmed, or makes room for a new one. -/
inductive Switch (before after : Scheduler κ) : List (Loop κ ω) → Prop where
  | keep (arms : after.arms = before.arms) (armed : after.armed = before.armed)
      (set : before.setting.isSome = true → after.setting.isSome = true) : Switch before after []
  | off (arms : after.arms = before.arms) (armed : after.armed = none)
      (set : before.setting.isSome = true → after.setting.isSome = true) : Switch before after []
  | on (period : Period) (callback : κ) (arms : after.arms = before.arms + 1)
      (armed : after.armed = some (before.arms + 1)) (set : after.setting.isSome = true) :
      Switch before after [{ arming := before.arms + 1, period, callback }]

/-- A switch takes nothing back. -/
theorem Switch.later {loops : List (Loop κ ω)} (switch : before.Switch after loops) :
    before.Later after := by
  cases switch with
  | keep arms armed => exact later_of_eq arms armed
  | off arms armed =>
    refine ⟨Nat.le_of_eq arms.symm, fun _ _ => ?_⟩
    rw [isOver, armed]
    rfl
  | on _ _ arms armed =>
    refine ⟨arms ▸ Nat.le_succ _, fun {arming} known _ => bne_iff_ne.2 ?_⟩
    rw [armed]
    rintro ⟨⟩
    exact Nat.not_succ_le_self _ known

/-- A new setting stops the timer. -/
theorem switch_configure (scheduler : Scheduler κ) (setting : Setting κ) :
    scheduler.Switch (scheduler.configure setting) ([] : List (Loop κ ω)) :=
  .keep rfl rfl fun _ => rfl

theorem switch_stop (scheduler : Scheduler κ) :
    scheduler.Switch scheduler.stop ([] : List (Loop κ ω)) :=
  .off rfl rfl id

theorem switch_arm (scheduler : Scheduler κ) :
    scheduler.Switch (scheduler.arm : Scheduler κ × List (Loop κ ω)).1
      (scheduler.arm : Scheduler κ × List (Loop κ ω)).2 := by
  unfold arm
  split
  next => exact .keep rfl rfl id
  next set => exact .on _ _ rfl rfl (set ▸ rfl)

/-- To start a timer is to set it and to arm it. -/
theorem switch_start (scheduler : Scheduler κ) (setting : Setting κ) :
    scheduler.Switch (scheduler.start setting : Scheduler κ × List (Loop κ ω)).1
      (scheduler.start setting : Scheduler κ × List (Loop κ ω)).2 :=
  .on _ _ rfl rfl rfl

/-- Rescheduling is a switch: it keeps the timer, or turns it on or off. -/
theorem switch_reschedule (scheduler : Scheduler κ) (live : Bool) :
    scheduler.Switch (scheduler.reschedule live : Scheduler κ × List (Loop κ ω)).1
      (scheduler.reschedule live : Scheduler κ × List (Loop κ ω)).2 := by
  unfold reschedule
  split
  next =>
    split
    next => exact .keep rfl rfl id
    next => exact switch_arm scheduler
  next => exact switch_stop scheduler

end QuerySync.Scheduler
