import Mathlib.Data.List.Induction
import QuerySync.Proofs.Executor
import QuerySync.Proofs.Request.Controller
import QuerySync.Request.Action

/-!
# Requests in any order

Runs share a controller, and nothing is assumed about who goes on when.  A `Move` is one thing
that can happen: somebody takes a generation, starts a run, cancels or ends everything, or some
run goes on.  A fetch may end at any moment and with any outcome, also after its generation was
cancelled, and a generation may have any number of runs.  A list of moves leads from a fresh
controller to a `Crowd`, and the list says which order was taken.

Whatever the order, only the latest generation delivers, and only if nothing was cancelled after
it was taken (`reached_orderly`).  What carries this is the law of the controller, and that the
generations that delivered are behind it (`Requests.Settled`).
-/

namespace QuerySync

variable {α : Type}

/-- The generation of a run that has one and has not ended. -/
def Run.generation? (run : Run α) : Option Nat :=
  match run.stage with
  | .unissued | .finished => none
  | .issued generation => some generation
  | .fetching pending => some pending.generation

/-- The generation that delivered. -/
def Finish.delivered? (finish : Finish α) : Option Nat :=
  match finish.result with
  | .ok _ => finish.generation
  | .error _ => none

namespace Requests

/-! ## Moves -/

/-- Requests, and the runs that share them. -/
structure Crowd (α : Type) where
  /-- What they share. -/
  requests : Requests α
  /-- The runs, oldest first. -/
  runs : List (Run α) := []

/-- One thing that can happen. -/
inductive Move (α : Type) where
  /-- Takes a generation. -/
  | issue
  /-- Starts a run, which takes a generation of its own. -/
  | run (query : Query) (scope : Scope)
  /-- Starts a run of a generation. -/
  | runIssued (generation : Nat) (query : Query) (scope : Scope)
  /-- Cancels the active generation. -/
  | cancel
  /-- Cancels the active generation, and accepts no further request. -/
  | dispose
  /-- Lets a run do a step. -/
  | step (place now : Nat)
  /-- Ends the fetch of a run with an outcome, whatever its transport was to give. -/
  | land (place now : Nat) (outcome : Outcome α)

namespace Crowd

/-- Changes the controller. -/
def control (crowd : Crowd α) (controller : Controller) : Crowd α :=
  { crowd with requests := { crowd.requests with controller } }

/-- Starts a run. -/
def startRun (crowd : Crowd α) (query : Query) (scope : Scope) (stage : Run.Stage α) : Crowd α :=
  { crowd with runs := crowd.runs ++ [{ index := crowd.runs.length, query, scope, stage }] }

/-- Puts a run back after it did something. -/
def put (crowd : Crowd α) (place : Nat) (done : Run α × Requests α) : Crowd α :=
  { requests := done.2, runs := crowd.runs.set place done.1 }

/-- Makes a move.  A move of a run that is not there, or that has nothing to end, does nothing. -/
def move (crowd : Crowd α) : Move α → Crowd α
  | .issue =>
    match crowd.requests.controller.issue with
    | .error _ => crowd
    | .ok (_, controller) => crowd.control controller
  | .run query scope => crowd.startRun query scope .unissued
  | .runIssued generation query scope => crowd.startRun query scope (.issued generation)
  | .cancel => crowd.control crowd.requests.controller.cancel
  | .dispose => crowd.control crowd.requests.controller.dispose
  | .step place now =>
    match crowd.runs[place]? with
    | none => crowd
    | some run => crowd.put place (crowd.requests.step now run)
  | .land place now outcome =>
    match crowd.runs[place]? with
    | none => crowd
    | some run =>
      match run.generation? with
      | none => crowd
      | some generation => crowd.put place (crowd.requests.resolve now run generation outcome)

/-- The controller. -/
abbrev controller (crowd : Crowd α) : Controller := crowd.requests.controller

end Crowd

/-- What moves make of a fresh controller. -/
def reached (transport : Transport α) (moves : List (Move α)) : Crowd α :=
  moves.foldl Crowd.move { requests := { transport } }

/-- The last move is done to what the others have reached. -/
theorem reached_append (transport : Transport α) (moves : List (Move α)) (move : Move α) :
    reached transport (moves ++ [move]) = (reached transport moves).move move := by
  rw [reached, List.foldl_append]
  rfl

/-! ## What a move changes -/

/-- What one move makes of what runs share. -/
inductive Change (before after : Requests α) : Prop where
  /-- Nothing that matters for who may deliver. -/
  | quiet (same : after.controller = before.controller)
      (finished : after.finished = before.finished)
  /-- A generation is taken. -/
  | issue (generation : Nat) (issued : before.controller.issue = .ok (generation, after.controller))
      (finished : after.finished = before.finished)
  /-- A run ends that gets no generation. -/
  | refuse (finish : Finish α) (disposed : before.controller.disposed = true)
      (result : finish.result = .error .disposed) (unissued : finish.generation = none)
      (same : after.controller = before.controller)
      (finished : after.finished = finish :: before.finished)
  /-- The active generation is cancelled. -/
  | cancel (cancelled : after.controller = before.controller.cancel)
      (finished : after.finished = before.finished)
  /-- Everything is ended. -/
  | dispose (disposed : after.controller = before.controller.dispose)
      (finished : after.finished = before.finished)
  /-- A run of a generation ends. -/
  | resolve (generation : Nat) (outcome : Outcome α) (finish : Finish α)
      (resolved : after.controller = (before.controller.resolve generation).1)
      (result : finish.result =
        (before.controller.resolve generation).2.elim (.ok outcome) .error)
      (issued : finish.generation = some generation)
      (finished : after.finished = finish :: before.finished)

/-- The end of a fetch is a change: its generation delivers or is refused. -/
theorem resolve_change (requests : Requests α) (now : Nat) (run : Run α) (generation : Nat)
    (outcome : Outcome α) :
    Change requests (requests.resolve now run generation outcome).2 :=
  .resolve generation outcome _ rfl rfl rfl rfl

/-- So is the turn of a run. -/
theorem step_change (requests : Requests α) (now : Nat) (run : Run α) :
    Change requests (requests.step now run).2 := by
  unfold step
  split
  next unissued =>
    split
    next error refused =>
      obtain ⟨disposed, rfl⟩ := Controller.issue_eq_error refused
      exact .refuse _ disposed rfl rfl rfl rfl
    next generation controller issued => exact .issue generation issued rfl
  next generation =>
    split
    next => exact resolve_change ..
    next => exact .quiet rfl rfl
  next pending =>
    split
    next => exact resolve_change ..
    next => exact .quiet rfl rfl
  next => exact .quiet rfl rfl

/-- So is every move. -/
theorem move_change (crowd : Crowd α) (move : Move α) :
    Change crowd.requests (crowd.move move).requests := by
  cases move with
  | issue =>
    simp only [Crowd.move]
    split
    next => exact .quiet rfl rfl
    next generation controller issued => exact .issue generation issued rfl
  | run query scope => exact .quiet rfl rfl
  | runIssued generation query scope => exact .quiet rfl rfl
  | cancel => exact .cancel rfl rfl
  | dispose => exact .dispose rfl rfl
  | step place now =>
    simp only [Crowd.move]
    split
    next => exact .quiet rfl rfl
    next run => exact step_change ..
  | land place now outcome =>
    simp only [Crowd.move]
    split
    next => exact .quiet rfl rfl
    next run =>
      split
      next => exact .quiet rfl rfl
      next generation => exact resolve_change ..

/-! ## What holds after any moves -/

/-- The controller keeps its law, and the generations that delivered are behind it, each later
than those before. -/
structure Settled (requests : Requests α) : Prop where
  /-- The controller keeps its law. -/
  coherent : requests.controller.Coherent
  /-- Later deliveries are of later generations. -/
  ordered : (requests.finished.filterMap Finish.delivered?).Pairwise (· > ·)
  /-- What delivered does so no more. -/
  behind : ∀ generation ∈ requests.finished.filterMap Finish.delivered?,
    requests.controller.Stale generation

/-- Before any move nothing has ended. -/
theorem settled_initial (transport : Transport α) : Settled { transport } where
  coherent := Controller.coherent_initial
  ordered := List.Pairwise.nil
  behind := nofun

variable {before after : Requests α}

/-- A run that ends has its end put on record: it delivers the current generation, or is refused. -/
theorem Settled.resolve (settled : before.Settled) {generation : Nat} {outcome : Outcome α}
    {finish : Finish α} (resolved : after.controller = (before.controller.resolve generation).1)
    (result : finish.result = (before.controller.resolve generation).2.elim (.ok outcome) .error)
    (issued : finish.generation = some generation)
    (finished : after.finished = finish :: before.finished) : after.Settled := by
  have coherent := resolved ▸ settled.coherent.resolve generation
  have behind : ∀ earlier ∈ before.finished.filterMap Finish.delivered?,
      after.controller.Stale earlier :=
    fun earlier member => resolved ▸ (settled.behind earlier member).resolve generation
  cases current : before.controller.isCurrent generation with
  | true =>
    rw [Controller.resolve_of_isCurrent current] at resolved result
    have delivered : finish.delivered? = some generation := by
      rw [Finish.delivered?, result]
      exact issued
    have latest := settled.coherent.latest (Controller.isCurrent_iff.1 current).2
    refine ⟨coherent, ?_, ?_⟩
    · rw [finished, List.filterMap_cons_some delivered, List.pairwise_cons]
      refine ⟨fun earlier member => ?_, settled.ordered⟩
      have stale := settled.behind earlier member
      refine Nat.lt_of_le_of_ne (latest ▸ stale.issued) ?_
      rintro rfl
      exact Bool.eq_false_iff.1 stale.superseded current
    · rw [finished, List.filterMap_cons_some delivered, List.forall_mem_cons]
      refine ⟨?_, behind⟩
      rw [resolved]
      exact Controller.stale_of_active_ne (Nat.le_of_eq latest) nofun
  | false =>
    rw [Controller.resolve_of_not_isCurrent current] at result
    have dropped : finish.delivered? = none := by
      rw [Finish.delivered?, result]
      rfl
    rw [← List.filterMap_cons_none dropped, ← finished] at behind
    refine ⟨coherent, ?_, behind⟩
    rw [finished, List.filterMap_cons_none dropped]
    exact settled.ordered

/-- Every change keeps the record of ends. -/
theorem Settled.change (settled : before.Settled) (change : Change before after) :
    after.Settled := by
  obtain ⟨coherent, ordered, behind⟩ := settled
  cases change with
  | quiet same finished =>
    rw [← finished] at ordered behind
    exact ⟨same ▸ coherent, ordered, same ▸ behind⟩
  | issue generation issued finished =>
    rw [← finished] at ordered behind
    exact ⟨coherent.issue issued, ordered,
      fun earlier member => (behind earlier member).issue issued⟩
  | refuse finish disposed result unissued same finished =>
    have dropped : finish.delivered? = none := by
      rw [Finish.delivered?, result]
    rw [← List.filterMap_cons_none dropped, ← finished] at ordered behind
    exact ⟨same ▸ coherent, ordered, same ▸ behind⟩
  | cancel cancelled finished =>
    rw [← finished] at ordered behind
    exact ⟨cancelled ▸ coherent.cancel, ordered,
      fun earlier member => cancelled ▸ (behind earlier member).cancel⟩
  | dispose disposed finished =>
    rw [← finished] at ordered behind
    exact ⟨disposed ▸ coherent.dispose, ordered,
      fun earlier member => disposed ▸ (behind earlier member).dispose⟩
  | resolve generation outcome finish resolved result issued finished =>
    exact Settled.resolve ⟨coherent, ordered, behind⟩ resolved result issued finished

/-- So the record is kept after any moves. -/
theorem settled_reached (transport : Transport α) (moves : List (Move α)) :
    (reached transport moves).requests.Settled := by
  induction moves using List.reverseRecOn with
  | nil => exact settled_initial transport
  | append_singleton moves move settled =>
    rw [reached_append]
    exact settled.change (move_change _ move)

/-! ## Where a generation comes from -/

/-- A move takes a generation. -/
def Issues (crowd : Crowd α) (move : Move α) (generation : Nat) : Prop :=
  crowd.controller.issue = .ok (generation, (crowd.move move).controller)

/-- One of some moves took a generation. -/
def Issued (transport : Transport α) (moves : List (Move α)) (generation : Nat) : Prop :=
  ∃ earlier issuing since, moves = earlier ++ issuing :: since ∧
    Issues (reached transport earlier) issuing generation

/-- One of some moves took a generation, and no move after it cancelled or ended anything. -/
def Undisturbed (transport : Transport α) (moves : List (Move α)) (generation : Nat) : Prop :=
  ∃ earlier issuing since, moves = earlier ++ issuing :: since ∧
    Issues (reached transport earlier) issuing generation ∧
    Move.cancel ∉ since ∧ Move.dispose ∉ since

/-- Generations that were issued stay so. -/
theorem Change.issued_le (change : Change before after) :
    before.controller.issued ≤ after.controller.issued := by
  cases change with
  | quiet same | refuse _ _ _ _ same => simp [same]
  | issue generation issued =>
    obtain ⟨-, rfl, next⟩ := Controller.issue_eq_ok_iff.1 issued
    rw [next]
    exact Nat.le_succ _
  | cancel cancelled => simp [cancelled]
  | dispose disposed => simp [disposed]
  | resolve generation outcome finish resolved => simp [resolved]

/-- A stale generation stays stale. -/
theorem Change.stale (change : Change before after) {generation : Nat}
    (stale : before.controller.Stale generation) : after.controller.Stale generation := by
  cases change with
  | quiet same => exact same ▸ stale
  | issue latest issued => exact stale.issue issued
  | refuse finish disposed result unissued same => exact same ▸ stale
  | cancel cancelled => exact cancelled ▸ stale.cancel
  | dispose disposed => exact disposed ▸ stale.dispose
  | resolve other outcome finish resolved => exact resolved ▸ stale.resolve other

/-- Who is active after a change was so before, or was taken just now. -/
theorem Change.active (coherent : before.controller.Coherent) (change : Change before after)
    {generation : Nat} (active : after.controller.active = some generation) :
    before.controller.active = some generation ∨
      before.controller.issue = .ok (generation, after.controller) := by
  cases change with
  | quiet same => exact .inl (same ▸ active)
  | issue latest issued =>
    obtain ⟨-, -, next⟩ := Controller.issue_eq_ok_iff.1 issued
    rw [next] at active
    cases active
    exact .inr issued
  | refuse finish disposed result unissued same => exact .inl (same ▸ active)
  | cancel cancelled =>
    rw [cancelled] at active
    exact nomatch active
  | dispose disposed =>
    rw [disposed, coherent.active_dispose] at active
    exact nomatch active
  | resolve other outcome finish resolved =>
    cases current : before.controller.isCurrent other with
    | true =>
      rw [resolved, Controller.resolve_of_isCurrent current] at active
      exact nomatch active
    | false =>
      rw [resolved, Controller.resolve_of_not_isCurrent current] at active
      exact .inl active

/-- The generations that were issued are those up to the latest. -/
theorem Issued.le {transport : Transport α} {moves : List (Move α)} {generation : Nat}
    (issued : Issued transport moves generation) :
    generation ≤ (reached transport moves).controller.issued := by
  obtain ⟨earlier, issuing, since, rfl, issues⟩ := issued
  induction since using List.reverseRecOn with
  | nil =>
    obtain ⟨-, -, next⟩ := Controller.issue_eq_ok_iff.1 issues
    rw [reached_append]
    exact Nat.le_of_eq (congrArg Controller.issued next).symm
  | append_singleton since move induction =>
    rw [← List.cons_append, ← List.append_assoc, reached_append]
    exact Nat.le_trans induction (move_change _ move).issued_le

/-- A generation that is active was not disturbed since it was issued. -/
theorem undisturbed_of_active {transport : Transport α} {moves : List (Move α)} {generation : Nat}
    (active : (reached transport moves).controller.active = some generation) :
    Undisturbed transport moves generation := by
  induction moves using List.reverseRecOn with
  | nil => exact nomatch active
  | append_singleton moves move induction =>
    have coherent := (settled_reached transport moves).coherent
    rw [reached_append] at active
    have noCancel : Move.cancel ≠ move := by
      rintro rfl
      exact nomatch active
    have noDispose : Move.dispose ≠ move := by
      rintro rfl
      exact nomatch coherent.active_dispose.symm.trans active
    rcases (move_change _ move).active coherent active with before | issues
    · obtain ⟨earlier, issuing, since, rfl, issues, uncancelled, undisposed⟩ := induction before
      refine ⟨earlier, issuing, since ++ [move], by simp, issues, ?_, ?_⟩
      · simp [uncancelled, noCancel]
      · simp [undisposed, noDispose]
    · exact ⟨moves, move, [], rfl, issues, nofun, nofun⟩

/-- After any further moves, what was stale is. -/
theorem stale_reached_append {transport : Transport α} {moves : List (Move α)} {generation : Nat}
    (stale : (reached transport moves).controller.Stale generation) (since : List (Move α)) :
    (reached transport (moves ++ since)).controller.Stale generation := by
  induction since using List.reverseRecOn with
  | nil => rwa [List.append_nil]
  | append_singleton since move induction =>
    rw [← List.append_assoc, reached_append]
    exact (move_change _ move).stale induction

/-! ## Ends of runs -/

/-- A move ends a run. -/
def Ends (crowd : Crowd α) (move : Move α) (finish : Finish α) : Prop :=
  (crowd.move move).requests.finished = finish :: crowd.requests.finished

/-- A run that ends was refused a generation, or its generation was resolved. -/
theorem Change.ended (change : Change before after) {finish : Finish α}
    (ended : after.finished = finish :: before.finished) :
    before.controller.disposed = true ∧ finish.result = .error .disposed ∨
      ∃ generation outcome, finish.generation = some generation ∧
        finish.result = (before.controller.resolve generation).2.elim (.ok outcome) .error := by
  cases change with
  | quiet _ finished | issue _ _ finished | cancel _ finished | dispose _ finished =>
    exact absurd (ended.symm.trans finished) (List.cons_ne_self _ _)
  | refuse _ disposed result _ _ finished =>
    cases ended.symm.trans finished
    exact .inl ⟨disposed, result⟩
  | resolve generation outcome _ _ result issued finished =>
    cases ended.symm.trans finished
    exact .inr ⟨generation, outcome, issued, result⟩

/-- Only the active generation delivers. -/
theorem Change.delivers (change : Change before after) {finish : Finish α} {outcome : Outcome α}
    (ended : after.finished = finish :: before.finished) (delivered : finish.result = .ok outcome) :
    ∃ generation, finish.generation = some generation ∧
      before.controller.disposed = false ∧ before.controller.active = some generation := by
  rcases change.ended ended with ⟨-, refused⟩ | ⟨generation, landed, issued, result⟩
  · exact nomatch delivered.symm.trans refused
  · refine ⟨generation, issued, Controller.isCurrent_iff.1 ?_⟩
    refine Bool.of_not_eq_false fun superseded => ?_
    rw [Controller.resolve_of_not_isCurrent superseded] at result
    exact nomatch delivered.symm.trans result

/-- Who does not deliver is told whether everything is over. -/
theorem Change.refuses (change : Change before after) {finish : Finish α} {error : SyncError}
    (ended : after.finished = finish :: before.finished) (refused : finish.result = .error error) :
    error = if before.controller.disposed then .disposed else .cancelled := by
  rcases change.ended ended with ⟨disposed, result⟩ | ⟨generation, landed, -, result⟩
  · cases refused.symm.trans result
    rw [if_pos disposed]
  · cases current : before.controller.isCurrent generation with
    | true =>
      rw [Controller.resolve_of_isCurrent current] at result
      exact nomatch refused.symm.trans result
    | false =>
      rw [Controller.resolve_of_not_isCurrent current] at result
      cases refused.symm.trans result
      rfl

/-- The end on record is that of the run and of its generation. -/
theorem ends_resolve {requests : Requests α} {now : Nat} {run : Run α} {generation : Nat}
    {outcome : Outcome α} {finish : Finish α}
    (ended : (requests.resolve now run generation outcome).2.finished =
      finish :: requests.finished) :
    finish.run = run.index ∧ finish.generation = some generation := by
  cases ended
  exact ⟨rfl, rfl⟩

/-- This goes for the turn in which a run ends, too. -/
theorem ends_step {requests : Requests α} {now : Nat} {run : Run α} {finish : Finish α}
    (ended : (requests.step now run).2.finished = finish :: requests.finished) :
    finish.run = run.index ∧ finish.generation = run.generation? := by
  unfold step at ended
  unfold Run.generation?
  split at ended
  next stage =>
    rw [stage]
    split at ended
    next =>
      cases ended
      exact ⟨rfl, rfl⟩
    next => exact absurd ended.symm (List.cons_ne_self _ _)
  next stage =>
    rw [stage]
    split at ended
    next => exact ends_resolve ended
    next => exact absurd ended.symm (List.cons_ne_self _ _)
  next stage =>
    rw [stage]
    split at ended
    next => exact ends_resolve ended
    next => exact absurd ended.symm (List.cons_ne_self _ _)
  next => exact absurd ended.symm (List.cons_ne_self _ _)

/-- What ends is a run of the generation that is on record. -/
theorem Ends.exists_run {crowd : Crowd α} {move : Move α} {finish : Finish α}
    (ends : Ends crowd move finish) :
    ∃ run ∈ crowd.runs, finish.run = run.index ∧ finish.generation = run.generation? := by
  have idle : crowd.requests.finished ≠ finish :: crowd.requests.finished :=
    (List.cons_ne_self _ _).symm
  cases move with
  | issue =>
    simp only [Ends, Crowd.move] at ends
    split at ends
    next => exact absurd ends idle
    next => exact absurd ends idle
  | run | runIssued | cancel | dispose => exact absurd ends idle
  | step place now =>
    simp only [Ends, Crowd.move] at ends
    split at ends
    next => exact absurd ends idle
    next run found => exact ⟨run, List.mem_of_getElem? found, ends_step ends⟩
  | land place now outcome =>
    simp only [Ends, Crowd.move] at ends
    split at ends
    next => exact absurd ends idle
    next run found =>
      split at ends
      next => exact absurd ends idle
      next generation held =>
        obtain ⟨index, issued⟩ := ends_resolve ends
        exact ⟨run, List.mem_of_getElem? found, index, issued.trans held.symm⟩

/-! ## The law of delivery -/

/-- What is sure after some moves, whatever they were. -/
structure Orderly (transport : Transport α) (moves : List (Move α)) : Prop where
  /-- Who delivers next is a run of the latest generation, nothing is over, and nobody cancelled
  since the generation was taken. -/
  delivery : ∀ {move finish outcome}, Ends (reached transport moves) move finish →
    finish.result = .ok outcome →
    ∃ generation, finish.generation = some generation ∧
      (reached transport moves).controller.disposed = false ∧
      (∀ other, Issued transport moves other → other ≤ generation) ∧
      Undisturbed transport moves generation
  /-- Who ends next without delivering is told why. -/
  refusal : ∀ {move finish error}, Ends (reached transport moves) move finish →
    finish.result = .error error →
    error = if (reached transport moves).controller.disposed then .disposed else .cancelled
  /-- Who ends next is a run, with the generation it has. -/
  owner : ∀ {move finish}, Ends (reached transport moves) move finish →
    ∃ run ∈ (reached transport moves).runs,
      finish.run = run.index ∧ finish.generation = run.generation?
  /-- Each delivery so far was of a later generation than those before. -/
  increasing :
    ((reached transport moves).requests.finished.filterMap Finish.delivered?).Pairwise (· > ·)
  /-- A generation that may not deliver never may again. -/
  forever : ∀ {generation}, Issued transport moves generation →
    (reached transport moves).controller.isCurrent generation = false → ∀ since,
    (reached transport (moves ++ since)).controller.isCurrent generation = false

/-- In whatever order things happen, deliveries are orderly. -/
theorem reached_orderly (transport : Transport α) (moves : List (Move α)) :
    Orderly transport moves := by
  have settled := settled_reached transport moves
  constructor
  · intro move finish outcome ends delivered
    obtain ⟨generation, owned, running, active⟩ :=
      (move_change _ move).delivers ends delivered
    refine ⟨generation, owned, running, fun other issued => ?_, undisturbed_of_active active⟩
    rw [settled.coherent.latest active]
    exact issued.le
  · exact fun ends refused => (move_change _ _).refuses ends refused
  · exact fun ends => ends.exists_run
  · exact settled.ordered
  · intro generation issued superseded since
    exact (stale_reached_append ⟨issued.le, superseded⟩ since).superseded

/-- A fetch that ignores its cancellation lands after the newer one, and the newer generation is
tried again. -/
example (query : Query) (scope : Scope) :
    (reached (α := Nat) { replies := [], lastResort := .never } [.run query scope, .step 0 0,
      .step 0 0, .run query scope, .step 1 0, .step 1 0, .land 1 5 (.ok 2), .land 0 9 (.ok 1),
      .runIssued 2 query scope, .step 2 9, .land 2 9 (.ok 3)]).requests.finished.map
        (fun finish => (finish.generation, finish.result)) =
      [(some 2, .error .cancelled), (some 1, .error .cancelled), (some 2, .ok (.ok 2))] := by
  cbv

/-! ## Runs on the executor -/

/-- Moves lead to the requests and the runs. -/
def Follows (transport : Transport α) (requests : Requests α) (runs : List (Run α)) : Prop :=
  ∃ moves, reached transport moves = { requests, runs }

variable {transport : Transport α}

/-- A move leads to what can be reached by moves. -/
theorem Follows.move {requests : Requests α} {runs : List (Run α)}
    (follows : Follows transport requests runs) (move : Move α) :
    Follows transport (Crowd.move { requests, runs } move).requests
      (Crowd.move { requests, runs } move).runs := by
  obtain ⟨moves, reaches⟩ := follows
  exact ⟨moves ++ [move], by rw [reached_append, reaches]⟩

/-- So does a turn that the executor gives. -/
theorem keeps_follows : Run.program.Keeps (Follows transport) := by
  intro now requests older run newer next after spawned follows _ turn
  obtain ⟨rfl, rfl, rfl⟩ : next = (requests.step now run).1 ∧ after = (requests.step now run).2 ∧
      spawned = [] := by
    cases turn
    exact ⟨rfl, rfl, rfl⟩
  simpa [Crowd.move, Crowd.put] using follows.move (.step older.length now)

/-- And what is done to the controller from outside. -/
theorem Follows.control {bench : Bench α} (follows : Follows transport bench.state bench.tasks)
    (move : Move α) {controller : Controller}
    (moved : Crowd.move { requests := bench.state, runs := bench.tasks } move =
      Crowd.control { requests := bench.state, runs := bench.tasks } controller) :
    Follows transport (control bench controller).state (control bench controller).tasks := by
  have led := follows.move move
  rw [moved] at led
  rw [Requests.control, Executor.tasks_act, List.append_nil]
  exact led

theorem follows_step (bench : Bench α) (follows : Follows transport bench.state bench.tasks) :
    Follows transport (bench.step Run.program).state (bench.step Run.program).tasks :=
  Executor.step_keeps keeps_follows follows

/-- So does every action on the executor. -/
theorem follows_perform {bench : Bench α} (follows : Follows transport bench.state bench.tasks)
    (action : Action) :
    Follows transport (perform bench action).state (perform bench action).tasks := by
  cases action with
  | issue =>
    simp only [perform]
    split
    next => exact follows
    next generation controller issued =>
      exact follows.control .issue (by simp only [Crowd.move, issued])
  | run query scope => exact follows.move (.run query scope)
  | runIssued generation query scope => exact follows.move (.runIssued generation query scope)
  | cancel => exact follows.control .cancel rfl
  | dispose => exact follows.control .dispose rfl
  | settle => exact Executor.settle_induction follows_step follows
  | advance duration =>
    exact Executor.advance_induction follows_step (fun _ _ follows => follows) duration follows

/-- Whatever the executor does with requests is some order of moves. -/
theorem exists_moves (transport : Transport α) (actions : List Action) :
    let bench := actions.foldl perform { state := { transport } }
    ∃ moves, reached transport moves = { requests := bench.state, runs := bench.tasks } := by
  induction actions using List.reverseRecOn with
  | nil => exact ⟨[], rfl⟩
  | append_singleton actions action follows =>
    rw [List.foldl_append]
    exact follows_perform follows action

end Requests

end QuerySync
