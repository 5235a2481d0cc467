import QuerySync.Params

/-!
# The location of a view

A `Store` holds the current parameters and counts the writes that changed them.
A reader remembers the count it has seen, and there is something new for it when
the store has counted on.  Several writes between two looks are one change, and a
write that was undone still counts.
-/

namespace QuerySync

/-- The current parameters, and how often they were changed. -/
structure Store where
  /-- The current parameters. -/
  params : Params
  /-- The number of writes that changed the parameters. -/
  version : Nat := 0
deriving DecidableEq, Repr

namespace Store

/-- A store that holds the parameters of a query text. -/
def ofQuery (query : String) : Store := { params := Params.parse query }

/-- Replaces the parameters.  Writing what is there already is no change. -/
def write (store : Store) (params : Params) : Store :=
  if params = store.params then store else { params, version := store.version + 1 }

/-- Whether there is a change that a reader has not seen. -/
def hasChanged (store : Store) (seen : Nat) : Bool := store.version != seen

@[simp] theorem params_write (store : Store) (params : Params) :
    (store.write params).params = params := by
  unfold write
  split
  next same => exact same.symm
  next => rfl

/-- A write counts exactly when it changes the parameters. -/
theorem version_write (store : Store) (params : Params) :
    (store.write params).version =
      if params = store.params then store.version else store.version + 1 := by
  unfold write
  split <;> rfl

end Store

end QuerySync
