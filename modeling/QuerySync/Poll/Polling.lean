import QuerySync.Executor
import QuerySync.Poll.Scheduler

/-!
# Scripted polling

Timer loops whose work is scripted.  A script is a list of chores, which take time or
act on the timer itself.  Each call of a callback takes the next of its scripts, and
the last one stays.  What happens to loops is on record.

A loop looks whether it is over only when it waits.  So a chore that disarms the timer
does not keep the chores after it from being done, up to the next one that takes time.
-/

namespace QuerySync

/-- A part of the work of a callback. -/
inductive Chore where
  /-- Lets time go by. -/
  | wait (duration : Nat)
  /-- Never ends. -/
  | hang
  /-- Arms or disarms the timer. -/
  | reschedule (live : Bool)
  /-- Disarms the timer. -/
  | stop
deriving DecidableEq, Repr

/-- A call of a callback in the middle. -/
inductive Work where
  /-- With chores to do. -/
  | doing (chores : List Chore)
  /-- Waiting for a time, with chores to do after that. -/
  | asleep (alarm : Nat) (chores : List Chore)
  /-- Waiting for ever. -/
  | hung
deriving DecidableEq, Repr

/-- What happens to a loop. -/
inductive LoopMark where
  /-- It sets its first deadline. -/
  | began
  /-- It skips a deadline. -/
  | skipped (deadline : Nat)
  /-- It meets a deadline, and a call of its callback begins. -/
  | ticked (deadline : Nat)
  /-- The call of its callback ends. -/
  | finished
deriving DecidableEq, Repr

/-- An entry of the record of loops. -/
structure LoopEntry where
  /-- What happens. -/
  mark : LoopMark
  /-- The arming of the loop. -/
  arming : Nat
  /-- The number of its callback. -/
  callback : Nat
  /-- When it happens. -/
  time : Nat
deriving DecidableEq, Repr

/-- What timer loops share. -/
structure Polling where
  /-- The owner of the timer. -/
  scheduler : Scheduler Nat := {}
  /-- The scripts that are left to each callback. -/
  callbacks : List (List (List Chore)) := []
  /-- The record of what happened to loops, newest first. -/
  record : List LoopEntry := []

namespace Polling

/-- A loop with scripted work. -/
abbrev Task := Loop Nat Work

/-! ## Actions from outside -/

/-- Adds a callback, and gives the setting of a timer that calls it. -/
def addCallback (polling : Polling) (interval : Nat) (scripts : List (List Chore)) :
    Polling × Setting Nat :=
  ({ polling with callbacks := polling.callbacks ++ [scripts] },
    { period := .ofInterval interval, callback := polling.callbacks.length })

/-- Sets what the next timer does. -/
def configure (polling : Polling) (interval : Nat) (scripts : List (List Chore)) : Polling :=
  let (polling, setting) := polling.addCallback interval scripts
  { polling with scheduler := polling.scheduler.configure setting }

/-- Sets what the timer does, and arms it anew. -/
def start (polling : Polling) (interval : Nat) (scripts : List (List Chore)) :
    Polling × List Task :=
  let (polling, setting) := polling.addCallback interval scripts
  let (scheduler, loops) := polling.scheduler.start setting
  ({ polling with scheduler }, loops)

/-- Arms or disarms the timer. -/
def reschedule (polling : Polling) (live : Bool) : Polling × List Task :=
  let (scheduler, loops) := polling.scheduler.reschedule live
  ({ polling with scheduler }, loops)

/-- Disarms the timer. -/
def stop (polling : Polling) : Polling :=
  { polling with scheduler := polling.scheduler.stop }

/-! ## Steps of a loop -/

/-- Puts an entry on the record. -/
def note (polling : Polling) (now : Nat) (loop : Task) (mark : LoopMark) : Polling :=
  let entry : LoopEntry := { mark, arming := loop.arming, callback := loop.callback, time := now }
  { polling with record := entry :: polling.record }

/-- The next script of a callback, and what is left to it. -/
def takeScript : List (List Chore) → List Chore × List (List Chore)
  | [] => ([], [])
  | [script] => (script, [script])
  | script :: scripts => (script, scripts)

/-- Begins a call of a callback. -/
def call (polling : Polling) (callback : Nat) : Work × Polling :=
  let (script, scripts) := takeScript (polling.callbacks.getD callback [])
  (.doing script, { polling with callbacks := polling.callbacks.set callback scripts })

/-- One step of a call that has chores to do, and the loops that it starts. -/
def doChore (polling : Polling) (now : Nat) : Chore → List Chore → Work × Polling × List Task
  | .wait 0, chores => (.doing chores, polling, [])
  | .wait duration, chores => (.asleep (now + duration) chores, polling, [])
  | .hang, _ => (.hung, polling, [])
  | .reschedule live, chores =>
    let (polling, loops) := polling.reschedule live
    (.doing chores, polling, loops)
  | .stop, chores => (.doing chores, polling.stop, [])

/-- Meets a deadline, or skips it. -/
def meet (polling : Polling) (now deadline : Nat) (loop : Task) : Task × Polling :=
  let following := loop.period.following now deadline
  if loop.period.isLate now deadline then
    ({ loop with stage := .waiting following },
      { polling with scheduler := polling.scheduler.countSkip }.note now loop (.skipped deadline))
  else
    let polling := { polling with scheduler := polling.scheduler.countTick }
    let (work, polling) := (polling.note now loop (.ticked deadline)).call loop.callback
    ({ loop with stage := .working following work }, polling)

/-- One step of a loop. -/
def step (now : Nat) (polling : Polling) (loop : Task) : Task × Polling × List Task :=
  let isOver := polling.scheduler.isOver loop.arming
  let ended := ({ loop with stage := .ended }, polling, [])
  match loop.stage with
  | .unstarted =>
    ({ loop with stage := .waiting (now + loop.period.length) }, polling.note now loop .began, [])
  | .waiting deadline =>
    if isOver then ended
    else
      let (loop, polling) := polling.meet now deadline loop
      (loop, polling, [])
  | .working deadline (.doing []) =>
    ({ loop with stage := .waiting deadline }, polling.note now loop .finished, [])
  | .working deadline (.doing (chore :: chores)) =>
    let (work, polling, loops) := polling.doChore now chore chores
    ({ loop with stage := .working deadline work }, polling, loops)
  | .working deadline (.asleep _ chores) =>
    if isOver then ended
    else ({ loop with stage := .working deadline (.doing chores) }, polling, [])
  | .working _ .hung | .ended => ended

/-- Whether a loop can go on. -/
def canRun (now : Nat) (polling : Polling) (loop : Task) : Bool :=
  let isOver := polling.scheduler.isOver loop.arming
  match loop.stage with
  | .unstarted | .working _ (.doing _) => true
  | .waiting deadline => isOver || deadline ≤ now
  | .working _ (.asleep alarm _) => isOver || alarm ≤ now
  | .working _ .hung => isOver
  | .ended => false

/-- When a loop is due. -/
def due? (loop : Task) : Option Nat :=
  match loop.stage with
  | .waiting deadline => some deadline
  | .working _ (.asleep alarm _) => some alarm
  | .unstarted | .working _ (.doing _) | .working _ .hung | .ended => none

/-- A bound on the steps of a call and of the loops that it starts. -/
def choresRank (chores : List Chore) : Nat := 4 * chores.length + 2

/-- A bound on the steps from a deadline on. -/
def deadlineRank (now : Nat) (polling : Polling) (loop : Task) (deadline : Nat) : Nat :=
  let scripts := polling.callbacks.getD loop.callback []
  1 + loop.period.countUpTo now deadline * ((scripts.map choresRank).foldr (· + ·) 4)

/-- A bound on the steps that a loop and those it starts can do at one time. -/
def rank (now : Nat) (polling : Polling) (loop : Task) : Nat :=
  match loop.stage with
  | .unstarted => 2
  | .waiting deadline => deadlineRank now polling loop deadline
  | .working deadline (.doing chores) | .working deadline (.asleep _ chores) =>
    1 + choresRank chores + deadlineRank now polling loop deadline
  | .working _ .hung => 1
  | .ended => 0

/-- What timer loops with scripted work do. -/
def program : Program Polling Task where
  canRun := canRun
  step := step
  due? := due?
  rank := rank

end Polling

end QuerySync
