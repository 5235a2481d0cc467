import QuerySync.Proofs.Request.Interleaving

/-!
# Turns of a run

What one step makes of a run and of what runs share (`Requests.Turn`): the run waits, is refused,
takes a generation, starts its fetch, or ends.  A step is one of these (`turn_step`), so nobody has
to look into the stages of a run again.
-/

namespace QuerySync

variable {α : Type}

/-! ## Who has a generation -/

namespace Run

variable {run : Run α}

/-- A run that was not issued has no generation. -/
theorem generation?_of_unissued (unissued : run.stage = .unissued) : run.generation? = none := by
  simp [generation?, unissued]

theorem generation?_of_issued {generation : Nat} (issued : run.stage = .issued generation) :
    run.generation? = some generation := by
  simp [generation?, issued]

theorem generation?_of_fetching {pending : Pending α} (fetching : run.stage = .fetching pending) :
    run.generation? = some pending.generation := by
  simp [generation?, fetching]

end Run

namespace Requests

/-! ## Turns -/

/-- What a step makes of a run and of what runs share. -/
inductive Turn (before : Requests α) (now : Nat) (run : Run α) : Run α → Requests α → Prop where
  | wait (waits : Run.canRun now before run = false) : Turn before now run run before
  | refuse (unissued : run.stage = .unissued) (disposed : before.controller.disposed = true) :
      Turn before now run (before.finish now run none (.error .disposed)).1
        (before.finish now run none (.error .disposed)).2
  | issue {generation : Nat} {controller : Controller} (unissued : run.stage = .unissued)
      (issued : before.controller.issue = .ok (generation, controller)) :
      Turn before now run { run with stage := .issued generation } { before with controller }
  | fetch {generation : Nat} (issued : run.stage = .issued generation)
      (uncancelled : generation ∉ before.controller.cancelled) :
      Turn before now run (before.fetch now run generation).1 (before.fetch now run generation).2
  | resolve {generation : Nat} (held : run.generation? = some generation) (outcome : Outcome α) :
      Turn before now run (before.resolve now run generation outcome).1
        (before.resolve now run generation outcome).2

/-- A run that can go on takes a generation, makes its call, or ends. -/
theorem turn_step (requests : Requests α) (now : Nat) (run : Run α) :
    Turn requests now run (requests.step now run).1 (requests.step now run).2 := by
  unfold step
  cases stage : run.stage with
  | unissued =>
    dsimp only
    cases issued : requests.controller.issue with
    | error error =>
      obtain ⟨disposed, rfl⟩ := Controller.issue_eq_error issued
      exact .refuse stage disposed
    | ok taken => exact .issue stage issued
  | issued generation =>
    dsimp only
    split
    next => exact .resolve (Run.generation?_of_issued stage) _
    next uncancelled =>
      refine .fetch stage fun cancelled => uncancelled ?_
      exact Controller.isCancelled_iff.2 cancelled
  | fetching pending =>
    dsimp only
    cases landed : pending.outcome? requests.controller now with
    | some outcome => exact .resolve (Run.generation?_of_fetching stage) outcome
    | none => exact .wait (by simp [Run.canRun, stage, landed])
  | finished => exact .wait (by simp [Run.canRun, stage])

end Requests

end QuerySync
