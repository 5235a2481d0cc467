import QuerySync.Fault
import QuerySync.Query

/-!
# The transport of fetches

A `Transport` answers each fetch with the next of a list of replies, and with its
last resort when the list is used up.  A reply has an outcome after a delay, or never
has one.  Every call is on record with its reply.
-/

namespace QuerySync

/-- What a view is bound to. -/
structure Scope where
  /-- The project. -/
  project : Option String := none
  /-- The domain within the project. -/
  domain : Option String := none
deriving DecidableEq, Repr

/-- What a fetch gives: data, or an error. -/
abbrev Outcome (α : Type) := Except FetchError α

/-- How a fetch is answered. -/
inductive Reply (α : Type) where
  /-- With an outcome after a delay. -/
  | after (delay : Nat) (outcome : Outcome α)
  /-- Not at all. -/
  | never

/-- A fetch on its way. -/
inductive Flight (α : Type) where
  /-- It lands at a time, with an outcome. -/
  | lands (time : Nat) (outcome : Outcome α)
  /-- It never lands. -/
  | lost

/-- A fetch on record. -/
structure Call (α : Type) where
  /-- When it was made. -/
  time : Nat
  /-- The generation it was made for. -/
  generation : Nat
  /-- What was asked. -/
  query : Query
  /-- Within what scope. -/
  scope : Scope
  /-- How it is answered. -/
  reply : Reply α

/-- What answers fetches. -/
structure Transport (α : Type) where
  /-- The next replies. -/
  replies : List (Reply α)
  /-- The reply when there is no next one. -/
  lastResort : Reply α
  /-- The calls so far, newest first. -/
  calls : List (Call α) := []

variable {α : Type}

/-- The delay of a reply. -/
def Reply.delay? : Reply α → Option Nat
  | after delay _ => some delay
  | never => none

/-- The fetch that a reply answers, made at a time. -/
def Reply.flight (now : Nat) : Reply α → Flight α
  | after delay outcome => .lands (now + delay) outcome
  | never => .lost

namespace Flight

/-- The outcome of a fetch that has landed. -/
def landed? (now : Nat) : Flight α → Option (Outcome α)
  | lands time outcome => if time ≤ now then some outcome else none
  | lost => none

/-- When a fetch lands. -/
def due? : Flight α → Option Nat
  | lands time _ => some time
  | lost => none

end Flight

namespace Transport

/-- The reply to the next call. -/
def next (transport : Transport α) : Reply α := transport.replies.headD transport.lastResort

/-- Adds a reply after the others. -/
def addReply (transport : Transport α) (reply : Reply α) : Transport α :=
  { transport with replies := transport.replies ++ [reply] }

/-- Makes a fetch. -/
def call (transport : Transport α) (now generation : Nat) (query : Query) (scope : Scope) :
    Transport α × Flight α :=
  let call : Call α := { time := now, generation, query, scope, reply := transport.next }
  ({ transport with replies := transport.replies.drop 1, calls := call :: transport.calls },
    transport.next.flight now)

end Transport

end QuerySync
