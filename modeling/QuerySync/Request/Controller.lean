import QuerySync.Request.Transport

/-!
# Supersession of requests

Of the requests of one consumer only the latest may deliver.  Each request takes a
fresh generation and cancels the one before it.  Whether what a fetch gave may be
delivered is decided when it is there, by its generation and never by the order in
which fetches end, so a slow request cannot overwrite a newer one.

Generations are numbered from one in the order in which they are issued.  At most one
is active: the latest, until it delivers or is cancelled.
-/

namespace QuerySync

/-- Who may deliver. -/
structure Controller where
  /-- The number of generations issued, which is the latest generation. -/
  issued : Nat := 0
  /-- The generation that may deliver. -/
  active : Option Nat := none
  /-- The generations that were cancelled, newest first. -/
  cancelled : List Nat := []
  /-- The number of requests that ended without delivering. -/
  discarded : Nat := 0
  /-- Whether no further request is accepted. -/
  disposed : Bool := false
deriving DecidableEq, Repr

namespace Controller

/-- Cancels the active generation. -/
def cancel (controller : Controller) : Controller :=
  { controller with
    active := none, cancelled := controller.active.toList ++ controller.cancelled }

/-- Issues a generation, and cancels the one before it. -/
def issue (controller : Controller) : Except SyncError (Nat × Controller) :=
  if controller.disposed then .error .disposed
  else
    let generation := controller.issued + 1
    .ok (generation, { controller.cancel with issued := generation, active := some generation })

/-- Cancels the active generation, and accepts no further request. -/
def dispose (controller : Controller) : Controller :=
  if controller.disposed then controller else { controller.cancel with disposed := true }

/-- Whether a generation may deliver. -/
def isCurrent (controller : Controller) (generation : Nat) : Bool :=
  !controller.disposed && controller.active == some generation

/-- Whether a generation was cancelled. -/
def isCancelled (controller : Controller) (generation : Nat) : Bool :=
  controller.cancelled.contains generation

/-- Ends the request of a generation.  Without an error it delivers. -/
def resolve (controller : Controller) (generation : Nat) : Controller × Option SyncError :=
  if controller.isCurrent generation then ({ controller with active := none }, none)
  else
    ({ controller with discarded := controller.discarded + 1 },
      some (if controller.disposed then .disposed else .cancelled))

end Controller

/-- A request whose fetch is on its way. -/
structure Pending (α : Type) where
  /-- Its generation. -/
  generation : Nat
  /-- Its fetch. -/
  flight : Flight α

/-- What there is to deliver: a cancelled request is aborted, whatever its fetch gave. -/
def Pending.outcome? {α : Type} (pending : Pending α) (controller : Controller) (now : Nat) :
    Option (Outcome α) :=
  if controller.isCancelled pending.generation then some (.error .cancelled)
  else pending.flight.landed? now

end QuerySync
