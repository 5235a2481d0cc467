import QuerySync.Proofs.Executor.Settling
import QuerySync.Proofs.Request.Turns

/-!
# No request is lost

Each generation that was taken is at one place: a run of it has ended, or is under way, or it
waits to be run.  A run that ends has delivered or is counted as discarded.  So the counters of
the controller and the outcomes that were delivered add up to what is outstanding
(`reachable_conserved`).  This needs that nobody runs a generation twice, and `Requests.Reachable`
keeps a list of those that may still be run.

Nothing hangs either.  What is outstanding is active or was cancelled (`Balanced.alive`), and a run
whose generation was cancelled can go on, also if its fetch never lands.  So when the queue is empty
the one run that may be left is that of the active generation.  The queue gets empty, since a run
has three steps at most.
-/

namespace QuerySync

variable {α : Type}

/-- Whether a run has ended. -/
def Run.isFinished (run : Run α) : Bool :=
  match run.stage with
  | .finished => true
  | .unissued | .issued _ | .fetching _ => false

namespace Requests

/-- The generations of runs that have not ended. -/
def underway (runs : List (Run α)) : List Nat := runs.filterMap Run.generation?

/-- The generations of runs that have ended, newest first. -/
def ended (requests : Requests α) : List Nat := requests.finished.filterMap (·.generation)

/-- The number of outcomes that were delivered. -/
def commits (requests : Requests α) : Nat := requests.finished.countP (·.result.isOk)

/-- What can become of fresh requests if each generation is run once at most.  The list has the
generations that were taken from outside and not run yet. -/
inductive Reachable (transport : Transport α) : Bench α → List Nat → Prop where
  | start : Reachable transport { state := { transport } } []
  | issue {bench : Bench α} {unused : List Nat} {generation : Nat} {controller : Controller}
      (reachable : Reachable transport bench unused)
      (issued : bench.state.controller.issue = .ok (generation, controller)) :
      Reachable transport (perform bench .issue) (generation :: unused)
  | run {bench : Bench α} {unused : List Nat} (reachable : Reachable transport bench unused)
      (query : Query) (scope : Scope) :
      Reachable transport (perform bench (.run query scope)) unused
  | runIssued {bench : Bench α} {unused : List Nat} {generation : Nat}
      (reachable : Reachable transport bench unused) (isUnused : generation ∈ unused)
      (query : Query) (scope : Scope) :
      Reachable transport (perform bench (.runIssued generation query scope))
        (unused.erase generation)
  | cancel {bench : Bench α} {unused : List Nat} (reachable : Reachable transport bench unused) :
      Reachable transport (perform bench .cancel) unused
  | dispose {bench : Bench α} {unused : List Nat} (reachable : Reachable transport bench unused) :
      Reachable transport (perform bench .dispose) unused
  /-- The first run of the queue has its turn. -/
  | step {bench : Bench α} {unused : List Nat} (reachable : Reachable transport bench unused) :
      Reachable transport (bench.step Run.program) unused
  /-- The clock moves. -/
  | moveTo {bench : Bench α} {unused : List Nat} (reachable : Reachable transport bench unused)
      (time : Nat) : Reachable transport (bench.moveTo Run.program time) unused

/-- The generations that were taken are those of runs that ended and those that are outstanding,
and what is outstanding is active or was cancelled. -/
structure Balanced (requests : Requests α) (outstanding : List Nat) : Prop where
  coherent : requests.controller.Coherent
  places : (requests.ended ++ outstanding).Perm (List.range' 1 requests.controller.issued)
  alive : ∀ generation ∈ outstanding,
    requests.controller.active = some generation ∨ generation ∈ requests.controller.cancelled
  ends : requests.ended.length = requests.commits + requests.controller.discarded

variable {before after : Requests α} {run next : Run α} {now : Nat}
  {outstanding others : List Nat} {transport : Transport α} {bench : Bench α} {unused : List Nat}

/-! ## The balance -/

namespace Balanced

/-- The order of the generations that have not ended does not count. -/
theorem perm (balanced : before.Balanced outstanding) (same : outstanding.Perm others) :
    before.Balanced others where
  coherent := balanced.coherent
  places := (List.Perm.append_left _ same.symm).trans balanced.places
  alive := fun generation member => balanced.alive generation (same.symm.subset member)
  ends := balanced.ends

/-- No generation ends twice, and none ends that has not ended. -/
theorem nodup (balanced : before.Balanced outstanding) : (before.ended ++ outstanding).Nodup :=
  balanced.places.nodup_iff.2 List.nodup_range'

/-- Before anything happens nothing is issued, and nothing has ended. -/
theorem initial (transport : Transport α) : Balanced { transport } [] where
  coherent := Controller.coherent_initial
  places := List.Perm.refl []
  alive := nofun
  ends := rfl

/-- Nothing that is outstanding survives a cancellation. -/
theorem mem_cancelled (balanced : before.Balanced outstanding) :
    ∀ generation ∈ outstanding, generation ∈ before.controller.cancel.cancelled := by
  intro generation member
  rcases balanced.alive generation member with isActive | cancelled
  · exact Controller.mem_cancelled_of_active isActive
  · exact Controller.mem_cancelled_cancel cancelled

/-- A generation that is issued has not ended. -/
theorem issue (balanced : before.Balanced outstanding) {generation : Nat}
    {controller : Controller} (issued : before.controller.issue = .ok (generation, controller)) :
    Balanced { before with controller } (generation :: outstanding) := by
  have coherent := balanced.coherent.issue issued
  obtain ⟨-, rfl, rfl⟩ := Controller.issue_eq_ok_iff.1 issued
  refine ⟨coherent, ?_, ?_, balanced.ends⟩
  · show (before.ended ++ (before.controller.issued + 1) :: outstanding).Perm
      (List.range' 1 (before.controller.issued + 1))
    rw [List.range'_1_concat, Nat.add_comm 1]
    exact List.perm_middle.trans
      ((List.Perm.cons _ balanced.places).trans (List.perm_append_singleton _ _).symm)
  · refine List.forall_mem_cons.2 ⟨.inl rfl, fun other member => .inr ?_⟩
    exact balanced.mem_cancelled other member

/-- To cancel a generation does not end it. -/
theorem cancel (balanced : before.Balanced outstanding) :
    Balanced { before with controller := before.controller.cancel } outstanding where
  coherent := balanced.coherent.cancel
  places := balanced.places
  alive := fun generation member => .inr (balanced.mem_cancelled generation member)
  ends := balanced.ends

/-- Neither does the end of the controller. -/
theorem dispose (balanced : before.Balanced outstanding) :
    Balanced { before with controller := before.controller.dispose } outstanding := by
  have coherent := balanced.coherent.dispose
  cases disposed : before.controller.disposed with
  | true =>
    rw [Controller.dispose_of_disposed disposed]
    exact balanced
  | false =>
    rw [Controller.dispose_of_active disposed] at coherent ⊢
    exact { balanced.cancel with coherent }

/-- A run that never had a generation is nobody's concern. -/
theorem refuse (balanced : before.Balanced outstanding) (run : Run α) (now : Nat)
    (error : SyncError) : (before.finish now run none (.error error)).2.Balanced outstanding :=
  { balanced with }

/-- A run that ends delivers or is discarded. -/
theorem resolve {generation : Nat} (balanced : before.Balanced (generation :: outstanding))
    (run : Run α) (now : Nat) (outcome : Outcome α) :
    (before.resolve now run generation outcome).2.Balanced outstanding := by
  have coherent := balanced.coherent.resolve generation
  have places : (generation :: before.ended ++ outstanding).Perm
      (List.range' 1 before.controller.issued) := List.perm_middle.symm.trans balanced.places
  have alive := (List.forall_mem_cons.1 balanced.alive).2
  have ends := balanced.ends
  cases current : before.controller.isCurrent generation with
  | false =>
    rw [Controller.resolve_of_not_isCurrent current] at coherent
    rw [Requests.resolve, Controller.resolve_of_not_isCurrent current]
    exact ⟨coherent, places, alive, congrArg (· + 1) ends⟩
  | true =>
    rw [Controller.resolve_of_isCurrent current] at coherent
    rw [Requests.resolve, Controller.resolve_of_isCurrent current]
    refine ⟨coherent, places, fun other member => .inr ?_, (congrArg (· + 1) ends).trans ?_⟩
    · rcases alive other member with isActive | cancelled
      · cases isActive.symm.trans (Controller.isCurrent_iff.1 current).2
        have distinct := (List.nodup_append.1 balanced.nodup).2.1
        exact absurd member (List.nodup_cons.1 distinct).1
      · exact cancelled
    · show before.commits + before.controller.discarded + 1 = commits _ + _
      rw [Nat.add_right_comm]
      exact congrArg (· + _) (List.countP_cons_of_pos rfl).symm

/-- A run has its turn, whatever else is outstanding. -/
theorem turn (balanced : before.Balanced (run.generation?.toList ++ others))
    (turn : Turn before now run next after) :
    after.Balanced (next.generation?.toList ++ others) := by
  cases turn with
  | wait => exact balanced
  | refuse unissued =>
    rw [Run.generation?_of_unissued unissued] at balanced
    exact balanced.refuse run now .disposed
  | issue unissued issued =>
    rw [Run.generation?_of_unissued unissued] at balanced
    exact balanced.issue issued
  | fetch issued =>
    rw [Run.generation?_of_issued issued] at balanced
    exact { balanced with }
  | resolve held outcome =>
    rw [held] at balanced
    exact balanced.resolve run now outcome

end Balanced

/-! ## What is reached -/

theorem underway_append (runs more : List (Run α)) :
    underway (runs ++ more) = underway runs ++ underway more :=
  List.filterMap_append

/-- One of the runs comes first, and the others stay as they are. -/
theorem outstanding_split (unused : List Nat) (older newer : List (Run α)) (run : Run α) :
    (unused ++ underway (older ++ run :: newer)).Perm
      (run.generation?.toList ++ (unused ++ underway (older ++ newer))) := by
  have first : underway (run :: newer) = run.generation?.toList ++ underway newer := by
    rw [underway, List.filterMap_cons]
    cases run.generation? with
    | none => rfl
    | some generation => rfl
  rw [underway_append, underway_append, first]
  cases run.generation? with
  | none => exact List.Perm.refl _
  | some generation =>
    rw [Option.toList_some, List.singleton_append, List.singleton_append, ← List.append_assoc,
      ← List.append_assoc]
    exact List.perm_middle

/-- A step of a run is one of its turns, and starts no other run. -/
theorem turn_of_step {spawned : List (Run α)}
    (turn : Run.program.step now before run = (next, after, spawned)) :
    Turn before now run next after ∧ spawned = [] := by
  cases turn
  exact ⟨turn_step before now run, rfl⟩

/-- Wherever requests are, the generations that were issued have ended or are somewhere. -/
theorem Reachable.balanced (reachable : Reachable transport bench unused) :
    bench.state.Balanced (unused ++ underway bench.tasks) := by
  induction reachable with
  | start => exact .initial transport
  | issue _ issued balanced =>
    simp only [perform, issued, control, Executor.state_act, Executor.tasks_act, List.append_nil]
    exact balanced.issue issued
  | run _ query scope balanced =>
    simp only [perform, startRun, Executor.state_act, Executor.tasks_act, underway_append]
    show Balanced _ (_ ++ (underway _ ++ []))
    rwa [List.append_nil]
  | @runIssued bench unused generation _ isUnused query scope balanced =>
    simp only [perform, startRun, Executor.state_act, Executor.tasks_act, underway_append]
    refine balanced.perm ?_
    have taken : unused.Perm (generation :: unused.erase generation) :=
      List.perm_cons_erase isUnused
    refine (taken.append_right _).trans ?_
    rw [← List.append_assoc]
    exact (List.perm_append_singleton generation _).symm
  | cancel _ balanced =>
    simp only [perform, control, Executor.state_act, Executor.tasks_act, List.append_nil]
    exact balanced.cancel
  | dispose _ balanced =>
    simp only [perform, control, Executor.state_act, Executor.tasks_act, List.append_nil]
    exact balanced.dispose
  | @step bench unused _ balanced =>
    rcases Executor.step_cases Run.program bench with
      ⟨state, tasks⟩ | ⟨older, run, newer, next, after, spawned, split, able, turn, state, tasks⟩
    · rw [state, tasks]
      exact balanced
    · obtain ⟨turned, rfl⟩ := turn_of_step turn
      rw [split] at balanced
      rw [state, tasks, List.append_nil]
      have moved := (balanced.perm (outstanding_split unused older newer run)).turn turned
      exact moved.perm (outstanding_split unused older newer next).symm
  | moveTo _ time balanced => exact balanced

/-- Every run stands in the queue once. -/
theorem Reachable.queued (reachable : Reachable transport bench unused) : bench.Queued := by
  induction reachable with
  | start => exact ⟨List.nodup_nil, nofun⟩
  | issue _ issued queued =>
    simp only [perform, issued]
    exact queued.act _ _
  | run _ _ _ queued | runIssued _ _ _ _ queued | cancel _ queued | dispose _ queued =>
    exact queued.act _ _
  | step _ queued => exact queued.step
  | moveTo _ time queued => exact queued.moveTo time

/-- A run that is not in the queue has to wait. -/
theorem Reachable.alert (reachable : Reachable transport bench unused) :
    bench.Alert Run.program := by
  induction reachable with
  | start => exact fun place task found => nomatch found
  | issue _ issued =>
    simp only [perform, issued]
    exact Executor.alert_act _ _ _ _
  | run | runIssued | cancel | dispose => exact Executor.alert_act _ _ _ _
  | step _ alert => exact alert.step
  | moveTo _ time => exact Executor.alert_moveTo _ _ _

/-! ## The queue gets empty -/

/-- What is cancelled stays so. -/
theorem Turn.cancelled (turn : Turn before now run next after) :
    ∀ generation ∈ before.controller.cancelled, generation ∈ after.controller.cancelled := by
  intro generation member
  cases turn with
  | wait | refuse | fetch => exact member
  | issue _ issued => exact Controller.mem_cancelled_issue issued member
  | resolve held outcome =>
    show generation ∈ (before.controller.resolve _).1.cancelled
    unfold Controller.resolve
    split <;> exact member

/-- Who can go on is not kept from it by others. -/
theorem Turn.canRun (turn : Turn before now run next after) {other : Run α}
    (able : Run.canRun now before other = true) : Run.canRun now after other = true := by
  unfold Run.canRun at able ⊢
  cases stage : other.stage with
  | unissued | issued => rfl
  | finished =>
    rw [stage] at able
    cases able
  | fetching pending =>
    simp only [stage, Pending.outcome?] at able ⊢
    split
    next => rfl
    next goesOn =>
      have wentOn : ¬ before.controller.isCancelled pending.generation = true := by
        intro cancelled
        refine goesOn (Controller.isCancelled_iff.2 ?_)
        exact turn.cancelled _ (Controller.isCancelled_iff.1 cancelled)
      rwa [if_neg wentOn] at able

/-- A run that has its turn comes nearer to its end. -/
theorem Turn.rank_lt (turn : Turn before now run next after)
    (able : Run.canRun now before run = true) : next.rank < run.rank := by
  cases turn with
  | wait waits => exact absurd able (Bool.eq_false_iff.1 waits)
  | refuse unissued =>
    show 0 < run.rank
    simp [Run.rank, unissued]
  | issue unissued => simp [Run.rank, unissued]
  | fetch issued =>
    show 1 < run.rank
    simp [Run.rank, issued]
  | resolve held outcome =>
    show 0 < run.rank
    cases stage : run.stage with
    | unissued | finished => simp [Run.generation?, stage] at held
    | issued | fetching => simp [Run.rank, stage]

/-- Every turn of a run brings it nearer to its end. -/
theorem tires_program : (Run.program (α := α)).Tires (fun _ _ => True) fun _ _ => Run.rank where
  keeps := fun _ _ _ => trivial
  bounded := fun _ _ _ => Nat.le_refl _
  tires := fun _ able turn => by
    obtain ⟨turned, rfl⟩ := turn_of_step turn
    exact turned.rank_lt able
  others := fun _ _ turn other _ => by
    obtain ⟨turned, -⟩ := turn_of_step turn
    exact ⟨Nat.le_refl _, turned.canRun⟩
  awake := fun _ turn => by
    obtain ⟨-, rfl⟩ := turn_of_step turn
    exact nofun

/-! ## Settled points -/

/-- A run that waits has the active generation. -/
theorem Balanced.active_of_waits (balanced : before.Balanced outstanding)
    (member : ∀ generation, run.generation? = some generation → generation ∈ outstanding)
    (waits : Run.canRun now before run = false) (unfinished : run.isFinished = false) :
    ∃ generation, run.generation? = some generation ∧
      before.controller.active = some generation := by
  unfold Run.canRun at waits
  unfold Run.isFinished at unfinished
  cases stage : run.stage with
  | unissued | issued => simp [stage] at waits
  | finished => simp [stage] at unfinished
  | fetching pending =>
    have held := Run.generation?_of_fetching stage
    refine ⟨pending.generation, held, ?_⟩
    rcases balanced.alive pending.generation (member _ held) with isActive | cancelled
    · exact isActive
    · rw [stage] at waits
      simp [Pending.outcome?, Controller.isCancelled_iff.2 cancelled] at waits

/-- Numbers that differ are not all the same one. -/
theorem length_le_one {generations : List Nat} {active : Option Nat}
    (distinct : generations.Nodup) (same : ∀ generation ∈ generations, active = some generation) :
    generations.length ≤ 1 := by
  rcases generations with _ | ⟨first, _ | ⟨second, others⟩⟩
  · exact Nat.zero_le 1
  · exact Nat.le_refl 1
  · have isFirst := same first List.mem_cons_self
    have isSecond := same second (List.mem_cons_of_mem _ List.mem_cons_self)
    cases isFirst.symm.trans isSecond
    exact absurd List.mem_cons_self (List.nodup_cons.1 distinct).1

/-- To settle is to let runs have their turns. -/
theorem Reachable.settle (reachable : Reachable transport bench unused) :
    Reachable transport (perform bench .settle) unused :=
  Executor.settle_induction (motive := fun bench => Reachable transport bench unused)
    (fun _ reachable => reachable.step) reachable

/-- To let time go by is to let runs have their turns and the clock move. -/
theorem Reachable.advance (reachable : Reachable transport bench unused) (duration : Nat) :
    Reachable transport (perform bench (.advance duration)) unused :=
  Executor.advance_induction (motive := fun bench => Reachable transport bench unused)
    (fun _ reachable => reachable.step) (fun _ time reachable => reachable.moveTo time) duration
    reachable

/-- A run that has not ended has the active generation when nobody can go on. -/
theorem Reachable.active (reachable : Reachable transport bench unused) (quiet : bench.ready = [])
    (member : run ∈ bench.tasks) (unfinished : run.isFinished = false) :
    ∃ generation, run.generation? = some generation ∧
      bench.state.controller.active = some generation := by
  refine reachable.balanced.active_of_waits ?_
    (reachable.alert.canRun_eq_false quiet member) unfinished
  intro generation held
  exact List.mem_append_right _ (List.mem_filterMap.2 ⟨run, member, held⟩)

/-- At a settled point one run has not ended at most: the one that fetches for the active
generation. -/
theorem Reachable.length_unfinished_le_one (reachable : Reachable transport bench unused)
    (quiet : bench.ready = []) : bench.tasks.countP (!·.isFinished) ≤ 1 := by
  have distinct : (underway bench.tasks).Nodup := by
    have apart := (List.nodup_append.1 reachable.balanced.nodup).2.1
    exact (List.nodup_append.1 apart).2.1
  have same : ∀ generation ∈ underway bench.tasks,
      bench.state.controller.active = some generation := by
    intro generation isUnderway
    obtain ⟨run, member, held⟩ := List.mem_filterMap.1 isUnderway
    have unfinished : run.isFinished = false := by
      cases stage : run.stage with
      | finished => simp [Run.generation?, stage] at held
      | unissued | issued | fetching => simp [Run.isFinished, stage]
    obtain ⟨active, isHeld, isActive⟩ := reachable.active quiet member unfinished
    cases held.symm.trans isHeld
    exact isActive
  calc bench.tasks.countP (!·.isFinished)
      ≤ bench.tasks.countP (·.generation?.isSome) := by
        refine List.countP_mono_left fun run member unfinished => ?_
        obtain ⟨generation, held, -⟩ := reachable.active quiet member (by simpa using unfinished)
        rw [held]
        rfl
    _ = (underway bench.tasks).length := List.length_filterMap_eq_countP.symm
    _ ≤ 1 := length_le_one distinct same

/-! ## The law of conservation -/

/-- However requests overlap, each generation that was taken has delivered, is counted as
discarded, waits to be run or is under way.  When the queue is empty, which it is after settling,
nothing is under way but the active generation, in one run, and nothing at all after the end. -/
theorem reachable_conserved (reachable : Reachable transport bench unused) :
    let requests := bench.state
    requests.controller.issued = requests.commits + requests.controller.discarded +
        (unused.length + (underway bench.tasks).length) ∧
      Reachable transport (perform bench .settle) unused ∧
      (perform bench .settle).ready = [] ∧
      (bench.ready = [] →
        (∀ run ∈ bench.tasks, run.isFinished = false → ∃ generation,
          run.generation? = some generation ∧ requests.controller.active = some generation) ∧
        bench.tasks.countP (!·.isFinished) ≤ 1 ∧
        (requests.controller.disposed = true → ∀ run ∈ bench.tasks, run.isFinished = true)) := by
  intro requests
  have balanced := reachable.balanced
  refine ⟨?_, reachable.settle, ?_, fun quiet => ⟨?_, ?_, ?_⟩⟩
  · have count := balanced.places.length_eq
    rw [List.length_append, List.length_append, List.length_range', balanced.ends] at count
    exact count.symm
  · exact Executor.ready_settle tires_program reachable.queued trivial
  · exact fun run member unfinished => reachable.active quiet member unfinished
  · exact reachable.length_unfinished_le_one quiet
  · intro disposed run member
    refine Bool.of_not_eq_false fun unfinished => ?_
    obtain ⟨generation, -, isActive⟩ := reachable.active quiet member unfinished
    cases (balanced.coherent.disposed disposed).symm.trans isActive

/-- A generation is taken and not run, the fetch of the next one never lands and is superseded, the
third one delivers, and the fourth is under way. -/
theorem reachable_conserved_overlapping :
    let transport : Transport Nat := { replies := [.never, .after 5 (.ok 7)], lastResort := .never }
    let taken := perform { state := { transport } } .issue
    let superseded := perform (perform (perform taken (.run {} {})) .settle) (.run {} {})
    let bench := perform (perform (perform superseded (.advance 5)) (.run {} {})) .settle
    Reachable transport bench [1] ∧ bench.ready = [] ∧
      (bench.state.controller.issued, bench.state.commits, bench.state.controller.discarded,
        underway bench.tasks) = (4, 1, 1, [4]) ∧
      bench.tasks.countP (!·.isFinished) ≤ 1 := by
  intro transport taken superseded bench
  have evaluated : (bench.ready, bench.state.controller.issued, bench.state.commits,
      bench.state.controller.discarded, underway bench.tasks) = ([], 4, 1, 1, [4]) := by
    decide
  obtain ⟨quiet, counts⟩ := Prod.mk.inj evaluated
  have isTaken : Reachable transport taken [1] := Reachable.start.issue rfl
  have isSuperseded : Reachable transport superseded [1] := (isTaken.run {} {}).settle.run {} {}
  have reachable : Reachable transport bench [1] := ((isSuperseded.advance 5).run {} {}).settle
  obtain ⟨-, -, -, settled⟩ := reachable_conserved reachable
  exact ⟨reachable, quiet, counts, (settled quiet).2.1⟩

end Requests

end QuerySync
