import QuerySync.Event
import QuerySync.Liveness
import QuerySync.Params.Store
import QuerySync.Poll.Scheduler
import QuerySync.Request.Controller
import QuerySync.Synchronizer.Snapshot
import QuerySync.View.Edit
import QuerySync.View.Problem

/-!
# Synchronizers

A synchronizer keeps what a view shows in step with the location.  The location is
the only thing that lasts: every cycle reads the query from it anew, and every edit is
written to it.  That the location changed is noticed by a watcher, which starts the
next cycle.

A cycle takes a generation, fetches, and commits what it fetched if no newer cycle
took over.  Data that is live arms the poll timer, and each tick of the timer is a
cycle.  Data that is not live disarms it.  A failure does neither: it says nothing of
the data.

This module holds the state and what changes it.  `Synchronizer.program` holds the
tasks.
-/

namespace QuerySync

/-- What keeps a view in step with the location. -/
structure Synchronizer (α : Type) where
  /-- The view. -/
  view : View
  /-- What the view is bound to. -/
  scope : Scope
  /-- The check of the data. -/
  liveness : Liveness α
  /-- The location. -/
  store : Store
  /-- What answers fetches. -/
  transport : Transport α
  /-- Who may commit. -/
  controller : Controller := {}
  /-- The poll timer. -/
  scheduler : Scheduler Unit
  /-- What the view shows. -/
  snapshot : Snapshot α
  /-- Whether it is over. -/
  disposed : Bool := false
  /-- How many hold it: its owner, and the calls of `syncNow` that have not ended. -/
  holders : Nat := 1
  /-- What happened, and when, newest first. -/
  events : List (Nat × Event) := []
  /-- The calls of `syncNow` that ended, when, and how, newest first. -/
  finished : List (Nat × Nat × Except SyncError Unit) := []

/-- What starts a cycle. -/
inductive Cause where
  /-- The synchronizer itself. -/
  | initial
  /-- A change of the location. -/
  | paramsChanged
  /-- The poll timer. -/
  | pollTick
  /-- A caller. -/
  | manual
deriving DecidableEq, Repr

/-- The name of a cause. -/
def Cause.name : Cause → String
  | initial => "initial"
  | paramsChanged => "params_changed"
  | pollTick => "poll_tick"
  | manual => "manual"

/-- A cycle. -/
inductive Cycle (α : Type) where
  /-- It has not begun. -/
  | unstarted (cause : Cause)
  /-- Its fetch is on its way. -/
  | fetching (pending : Pending α)
  /-- It ended. -/
  | finished (result : Except SyncError Unit)

namespace Synchronizer

variable {α : Type}

/-- A loop of the poll timer.  Its work is a cycle. -/
abbrev Timer (α : Type) := Loop Unit (Cycle α)

/-! ## Events -/

/-- Puts an event on the record. -/
def emit (sync : Synchronizer α) (now : Nat) (kind : EventKind) (generation : Option Nat)
    (detail : Option String) : Synchronizer α :=
  { sync with events := (now, { view := sync.view.name, kind, generation, detail }) :: sync.events }

/-! ## Cycles -/

/-- Begins a cycle: takes a generation, and only then reads the location, so that a
write after this starts a newer cycle. -/
def begin (sync : Synchronizer α) (now : Nat) (cause : Cause) : Cycle α × Synchronizer α :=
  match sync.controller.issue with
  | .error error => (.finished (.error error), sync)
  | .ok (generation, controller) =>
    let query := sync.view.decode sync.store.params
    let (transport, flight) := sync.transport.call now generation query sync.scope
    (.fetching { generation, flight },
      { sync with controller, transport, snapshot := sync.snapshot.load query }.emit now
        .fetchStarted generation cause.name)

/-- Arms the poll timer for live data, and disarms it for other data. -/
def reschedule (sync : Synchronizer α) (now : Nat) (live : Bool) :
    Synchronizer α × List (Timer α) :=
  let (scheduler, timers) := sync.scheduler.reschedule live
  let next := { sync with scheduler }
  match sync.scheduler.isArmed, scheduler.isArmed with
  | false, true => (next.emit now .pollArmed none none, timers)
  | true, false => (next.emit now .pollDisarmed none none, timers)
  | _, _ => (next, timers)

/-- What is said of a fetch that its own transport aborted. -/
def abortedDetail : String := "aborted by transport"

/-- Shows the outcome of the latest cycle. -/
def commit (sync : Synchronizer α) (now generation : Nat) :
    Outcome α → Synchronizer α × List (Timer α)
  | .ok data =>
    let live := (sync.liveness data).live
    let sync := { sync with snapshot := sync.snapshot.succeed data live }
    (sync.emit now .fetchApplied generation none).reschedule now live
  | .error (.failed message) =>
    let sync := { sync with snapshot := sync.snapshot.fail message }
    (sync.emit now .fetchFailed generation message, [])
  | .error .cancelled =>
    let sync := { sync with snapshot := sync.snapshot.abort }
    (sync.emit now .fetchDiscarded generation abortedDetail, [])

/-- Ends a cycle: commits its outcome, or drops it. -/
def resolve (sync : Synchronizer α) (now generation : Nat) (outcome : Outcome α) :
    Cycle α × Synchronizer α × List (Timer α) :=
  let (controller, error?) := sync.controller.resolve generation
  let sync := { sync with controller }
  match error? with
  | none =>
    let (sync, timers) := sync.commit now generation outcome
    (.finished (.ok ()), sync, timers)
  | some error =>
    (.finished (.error error), sync.emit now .fetchDiscarded generation error.message, [])

/-- One step of a cycle, and the loops of the poll timer that it starts. -/
def advanceCycle (sync : Synchronizer α) (now : Nat) :
    Cycle α → Cycle α × Synchronizer α × List (Timer α)
  | .unstarted cause =>
    if sync.disposed then (.finished (.error .disposed), sync, [])
    else
      let (cycle, sync) := sync.begin now cause
      (cycle, sync, [])
  | .fetching pending =>
    match pending.outcome? sync.controller now with
    | some outcome => sync.resolve now pending.generation outcome
    | none => (.fetching pending, sync, [])
  | .finished result => (.finished result, sync, [])

/-! ## Calls from outside -/

/-- A synchronizer for a view that has no problem. -/
def create (view : View) (scope : Scope) (liveness : Liveness α) (query : String)
    (transport : Transport α) : Except SyncError (Synchronizer α) :=
  match view.problem? with
  | some problem => .error (.invalidConfig s!"view `{view.name}`: {problem.message}")
  | none =>
    let store := Store.ofQuery query
    .ok {
      view, scope, liveness, store, transport
      scheduler :=
        { setting := some { period := .ofInterval view.pollInterval.toNat, callback := () } }
      snapshot := { query := view.decode store.params } }

/-- Writes parameters to the location. -/
def write (sync : Synchronizer α) (params : Params) : Synchronizer α :=
  { sync with store := sync.store.write params }

/-- Does an edit to the location, and gives the query after it. -/
def mutate (sync : Synchronizer α) (edit : Edit) : Except SyncError (Query × Synchronizer α) :=
  if sync.disposed then .error .disposed
  else
    let params := sync.store.params
    .ok (sync.view.apply (sync.view.decode params) edit,
      sync.write (sync.view.perform params edit))

/-- Does the edit that sets one parameter. -/
def setParam (sync : Synchronizer α) (key value : String) :
    Except SyncError (Query × Synchronizer α) :=
  sync.mutate (sync.view.editFor key value)

/-- The cycle that a caller starts. -/
def refresh (sync : Synchronizer α) : Except SyncError (Cycle α) :=
  if sync.disposed then .error .disposed else .ok (.unstarted .manual)

/-- Dismisses the error. -/
def dismissError (sync : Synchronizer α) : Synchronizer α :=
  if sync.disposed then sync else { sync with snapshot := sync.snapshot.dismissError }

/-- Adds a reply after the others. -/
def addReply (sync : Synchronizer α) (reply : Reply α) : Synchronizer α :=
  { sync with transport := sync.transport.addReply reply }

/-- Sets the reply when there is no other. -/
def setLastResort (sync : Synchronizer α) (reply : Reply α) : Synchronizer α :=
  { sync with transport := { sync.transport with lastResort := reply } }

/-- Ends everything: cancels the cycle on its way, disarms the timer, and stops
watching the location. -/
def dispose (sync : Synchronizer α) (now : Nat) : Synchronizer α :=
  if sync.disposed then sync
  else
    { sync with
      disposed := true
      controller := sync.controller.dispose
      scheduler := sync.scheduler.stop
      snapshot := sync.snapshot.dispose }.emit now .disposed none none

/-- Somebody else holds the synchronizer too. -/
def hold (sync : Synchronizer α) : Synchronizer α := { sync with holders := sync.holders + 1 }

/-- Somebody lets go of the synchronizer.  The last one to do so ends everything. -/
def release (sync : Synchronizer α) (now : Nat) : Synchronizer α :=
  let sync := { sync with holders := sync.holders - 1 }
  if sync.holders = 0 then sync.dispose now else sync

end Synchronizer

end QuerySync
