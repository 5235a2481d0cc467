import QuerySync.Poll.Period

/-!
# Laws of deadlines

Every deadline that is met or skipped leaves fewer of them up to now.  The deadline after one is
some periods later, and after one that is not skipped it lies ahead.

Deadlines are on the grid of their period (`Period.Regular`) if the period has thirty years or less,
and only then (`regular_iff`).
-/

namespace QuerySync.Period

/-- To meet a deadline leaves fewer of them up to now. -/
theorem countUpTo_following (period : Period) {now deadline : Nat} (due : deadline ≤ now) :
    period.countUpTo now (period.following now deadline) < period.countUpTo now deadline := by
  have positive := period.stride_pos
  rw [countUpTo, countUpTo, if_pos due]
  split
  next again =>
    -- A deadline that is caught up with lies ahead, so this one is the next in line.
    have next : period.following now deadline = deadline + period.stride := by
      unfold following at again ⊢
      split
      next => rfl
      next late =>
        rw [if_neg late] at again
        have := Nat.mod_lt (now - deadline) positive
        omega
    rw [next] at again ⊢
    have more : period.stride ≤ now - deadline := by omega
    rw [Nat.div_eq (now - deadline), if_pos ⟨positive, more⟩, Nat.sub_sub]
    exact Nat.lt_succ_self _
  next => exact Nat.succ_pos _

theorem countUpTo_of_lt (period : Period) {now deadline : Nat} (ahead : now < deadline) :
    period.countUpTo now deadline = 0 :=
  if_neg (Nat.not_le_of_lt ahead)

/-- Deadlines are a number of strides apart. -/
theorem following_eq (period : Period) {now deadline : Nat} (due : deadline ≤ now) :
    ∃ steps, period.following now deadline = deadline + steps * period.stride := by
  unfold following
  split
  next => exact ⟨1, by rw [Nat.one_mul]⟩
  next =>
    refine ⟨(now - deadline) / period.stride + 1, ?_⟩
    have split := Nat.div_add_mod (now - deadline) period.stride
    have rest := Nat.mod_lt (now - deadline) period.stride_pos
    rw [Nat.succ_mul, Nat.mul_comm]
    omega

/-- After a deadline that is not met too late the next one lies ahead. -/
theorem lt_following_of_inTime (period : Period) {now deadline : Nat}
    (inTime : period.isLate now deadline = false) : now < period.following now deadline := by
  have near : 2 * (now - deadline) ≤ period.length := by simpa [isLate] using inTime
  have positive := period.positive
  unfold following
  split
  next short =>
    have tolerance : tolerance = 5 := rfl
    have longest : longestStride = 946080000000 := rfl
    have stride : period.stride = min period.length longestStride := rfl
    omega
  next =>
    have rest := Nat.mod_lt (now - deadline) period.stride_pos
    omega

/-- The deadline after one is a stride later at least. -/
theorem add_stride_le_following (period : Period) {now deadline : Nat} (due : deadline ≤ now) :
    deadline + period.stride ≤ period.following now deadline := by
  unfold following
  split
  next => exact Nat.le_refl _
  next =>
    have rest := Nat.mod_le (now - deadline) period.stride
    omega

/-- A deadline that is met when it is there is followed by the one a stride later. -/
theorem following_self (period : Period) (deadline : Nat) :
    period.following deadline deadline = deadline + period.stride :=
  if_pos (Nat.le_add_right ..)

/-- The deadline after one that is met in time is a period later, and after any other one it is the
first that lies ahead, a number of periods later. -/
structure Regular (period : Period) : Prop where
  inTime : ∀ {now deadline}, deadline ≤ now → now ≤ deadline + tolerance →
    period.following now deadline = deadline + period.length
  late : ∀ {now deadline}, deadline + tolerance < now →
    now < period.following now deadline ∧
      period.following now deadline ≤ now + period.length ∧
      ∃ steps, period.following now deadline = deadline + steps * period.length

/-- Only a period of more than thirty years has deadlines that are not a period apart. -/
theorem regular_iff {period : Period} : period.Regular ↔ period.length ≤ longestStride := by
  constructor
  · intro regular
    have next := regular.inTime (Nat.le_refl 0) (Nat.zero_le (0 + tolerance))
    rw [following_self, Nat.add_left_cancel_iff] at next
    exact next ▸ Nat.min_le_right ..
  · intro short
    have same := stride_eq_length short
    refine ⟨fun _ near => ?_, fun {now deadline} far => ⟨?_, ?_, ?_⟩⟩
    · rw [following, if_pos near, same]
    · have rest := Nat.mod_lt (now - deadline) period.positive
      rw [following, if_neg (Nat.not_le_of_lt far), same]
      omega
    · rw [following, if_neg (Nat.not_le_of_lt far), same]
      omega
    · rw [← same]
      exact period.following_eq (Nat.le_of_lt (Nat.lt_of_le_of_lt (Nat.le_add_right ..) far))

theorem Regular.stride_eq {period : Period} (regular : period.Regular) :
    period.stride = period.length :=
  stride_eq_length (regular_iff.1 regular)

end QuerySync.Period
