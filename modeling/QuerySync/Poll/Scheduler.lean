import QuerySync.Poll.Period

/-!
# The poll timer

A `Scheduler` owns at most one timer.  Arming it starts a `Loop` with the number of
the arming, and disarming it ends that loop: a loop whose number is not the armed one
is over, as soon as it runs again.  A loop waits for a deadline, lets its work run to
the end, and waits for the next deadline, so two pieces of work never overlap.

The kind of the work is left open.  `κ` is what a timer is configured to do, and `ω`
is a piece of work in the middle.
-/

namespace QuerySync

/-- Where a loop is. -/
inductive Loop.Stage (ω : Type) where
  /-- Before its first deadline is set. -/
  | unstarted
  /-- Waiting for a deadline. -/
  | waiting (deadline : Nat)
  /-- In the middle of its work, with the deadline after that. -/
  | working (deadline : Nat) (work : ω)
  /-- At its end. -/
  | ended

/-- A timer loop. -/
structure Loop (κ ω : Type) where
  /-- The number of its arming. -/
  arming : Nat
  /-- Its period. -/
  period : Period
  /-- What it does. -/
  callback : κ
  /-- Where it is. -/
  stage : Loop.Stage ω := .unstarted

/-- What a timer is set to. -/
structure Setting (κ : Type) where
  /-- Its period. -/
  period : Period
  /-- What it does. -/
  callback : κ

/-- The owner of a timer. -/
structure Scheduler (κ : Type) where
  /-- What the next timer is set to. -/
  setting : Option (Setting κ) := none
  /-- The arming of the timer, if there is one. -/
  armed : Option Nat := none
  /-- The number of armings, which is the number of the last one. -/
  arms : Nat := 0
  /-- The number of deadlines that were met. -/
  ticks : Nat := 0
  /-- The number of deadlines that were skipped. -/
  skipped : Nat := 0

namespace Scheduler

variable {κ ω : Type}

/-- Whether there is a timer. -/
def isArmed (scheduler : Scheduler κ) : Bool := scheduler.armed.isSome

/-- Whether the loop of an arming has to end. -/
def isOver (scheduler : Scheduler κ) (arming : Nat) : Bool := scheduler.armed != some arming

/-- Sets what the next timer does.  A timer that is armed stays as it is. -/
def configure (scheduler : Scheduler κ) (setting : Setting κ) : Scheduler κ :=
  { scheduler with setting := some setting }

/-- Disarms the timer. -/
def stop (scheduler : Scheduler κ) : Scheduler κ := { scheduler with armed := none }

/-- Arms a timer in the place of any other, and starts its loop.  Without a setting
nothing happens. -/
def arm (scheduler : Scheduler κ) : Scheduler κ × List (Loop κ ω) :=
  match scheduler.setting with
  | none => (scheduler, [])
  | some { period, callback } =>
    let arming := scheduler.arms + 1
    ({ scheduler with armed := some arming, arms := arming }, [{ arming, period, callback }])

/-- Sets what the timer does, and arms it anew. -/
def start (scheduler : Scheduler κ) (setting : Setting κ) : Scheduler κ × List (Loop κ ω) :=
  (scheduler.configure setting).arm

/-- Arms the timer if it should be armed and is not, and disarms it if it should not be. -/
def reschedule (scheduler : Scheduler κ) (live : Bool) : Scheduler κ × List (Loop κ ω) :=
  if live then if scheduler.isArmed then (scheduler, []) else scheduler.arm
  else (scheduler.stop, [])

/-- Counts a deadline that was met. -/
def countTick (scheduler : Scheduler κ) : Scheduler κ :=
  { scheduler with ticks := scheduler.ticks + 1 }

/-- Counts a deadline that was skipped. -/
def countSkip (scheduler : Scheduler κ) : Scheduler κ :=
  { scheduler with skipped := scheduler.skipped + 1 }

end Scheduler

end QuerySync
