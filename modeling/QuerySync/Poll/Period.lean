/-!
# Deadlines of a timer

A timer with a period has its first deadline a period after its start, and then one
each period.  Deadlines are thirty years apart at most, so a longer period counts in
full for the first deadline alone.

Who waits for a deadline may be late.  Then the deadlines that passed in between are
left out, unless they passed within the last five milliseconds, and the next one is
the first that lies ahead.

A deadline that is met more than half a period late is skipped.

The clock has whole milliseconds, and so have all times here: intervals, deadlines and the moments
at which they are met.  Nothing happens within a millisecond.
-/

namespace QuerySync

/-- What a timer is set to: the time from its start to its first deadline. -/
structure Period where
  /-- The number of milliseconds. -/
  length : Nat
  /-- A period takes time. -/
  positive : 0 < length
deriving DecidableEq, Repr

namespace Period

/-- The period of an interval: at least a millisecond. -/
def ofInterval (interval : Nat) : Period where
  length := max interval 1
  positive := by omega

/-- The longest time between two deadlines: thirty years, in milliseconds. -/
def longestStride : Nat := 30 * 365 * 24 * 60 * 60 * 1000

/-- The time between two deadlines, in milliseconds. -/
def stride (period : Period) : Nat := min period.length longestStride

/-- Two deadlines are apart. -/
theorem stride_pos (period : Period) : 0 < period.stride :=
  Nat.lt_min.2 ⟨period.positive, by decide⟩

/-- A period of thirty years or less is the time between two deadlines. -/
theorem stride_eq_length {period : Period} (short : period.length ≤ longestStride) :
    period.stride = period.length :=
  Nat.min_eq_left short

/-- How late a deadline may be met without leaving out others, in milliseconds. -/
def tolerance : Nat := 5

/-- The deadline after one that is met at a time. -/
def following (period : Period) (now deadline : Nat) : Nat :=
  if now ≤ deadline + tolerance then deadline + period.stride
  else now + period.stride - (now - deadline) % period.stride

/-- Whether a deadline that is met at a time is skipped. -/
def isLate (period : Period) (now deadline : Nat) : Bool := period.length < 2 * (now - deadline)

/-- How many deadlines there are from one up to a time. -/
def countUpTo (period : Period) (now deadline : Nat) : Nat :=
  if deadline ≤ now then (now - deadline) / period.stride + 1 else 0

/-- The next deadline is later than the one before. -/
theorem lt_following (period : Period) (now deadline : Nat) :
    deadline < period.following now deadline := by
  have positive := period.stride_pos
  unfold following
  split
  · omega
  · have := Nat.mod_lt (now - deadline) positive
    omega

end Period

end QuerySync
