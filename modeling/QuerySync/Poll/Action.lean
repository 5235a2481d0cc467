import QuerySync.Poll.Polling

/-!
# Acting on a poll timer

What can be done with a poll timer and its loops from outside, one action at a time.
-/

namespace QuerySync.Polling

/-- Timer loops that share a timer. -/
abbrev Bench := Executor Polling Task

/-- An action on a poll timer. -/
inductive Action where
  /-- Sets what the next timer does. -/
  | configure (interval : Nat) (scripts : List (List Chore))
  /-- Sets what the timer does, and arms it anew. -/
  | start (interval : Nat) (scripts : List (List Chore))
  /-- Disarms the timer. -/
  | stop
  /-- Arms or disarms the timer. -/
  | reschedule (live : Bool)
  /-- Lets every loop go on as far as it can. -/
  | settle
  /-- Lets time go by. -/
  | advance (duration : Nat)
deriving DecidableEq, Repr

/-- Changes what loops share, and adds loops. -/
def share (bench : Bench) (next : Polling × List Task) : Bench :=
  bench.act program next.1 next.2

/-- Does an action. -/
def perform (bench : Bench) : Action → Bench
  | .configure interval scripts => share bench (bench.state.configure interval scripts, [])
  | .start interval scripts => share bench (bench.state.start interval scripts)
  | .stop => share bench (bench.state.stop, [])
  | .reschedule live => share bench (bench.state.reschedule live)
  | .settle => bench.settle program
  | .advance duration => bench.advance program duration

end QuerySync.Polling
