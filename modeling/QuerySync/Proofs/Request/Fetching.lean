import QuerySync.Proofs.Request.Turns

/-!
# For whom a fetch is made

A run decides by its generation alone whether it fetches: it does unless the generation was
cancelled.  Who may deliver is decided by the controller.  The two agree as long as a generation
has not delivered.  Each generation that was taken is active, was cancelled or has delivered
(`Requests.Placed`), so a fetch is made for the active one, or for one that has delivered and is
run again (`fetches_current_or_delivered`).

A generation that has delivered is never cancelled any more.  So a run of it fetches at any time,
also while a newer generation is active and after the end of the controller
(`delivered_fetches_after_dispose`), though what it fetches is dropped.
-/

namespace QuerySync.Requests

variable {α : Type}

/-- The generations that delivered, newest first. -/
def delivered (requests : Requests α) : List Nat := requests.finished.filterMap Finish.delivered?

namespace Crowd

/-- Whether a move is possible: a run may be started of a generation that was taken. -/
def allows (crowd : Crowd α) : Move α → Bool
  | .runIssued generation _ _ => 0 < generation && generation ≤ crowd.controller.issued
  | .issue | .run _ _ | .cancel | .dispose | .step _ _ | .land _ _ _ => true

/-- Whether moves are possible, one after the other. -/
def allowsAll : Crowd α → List (Move α) → Bool
  | _, [] => true
  | crowd, move :: moves => crowd.allows move && (crowd.move move).allowsAll moves

end Crowd

/-- A move makes a fetch. -/
def Fetches (crowd : Crowd α) (move : Move α) (call : Call α) : Prop :=
  (crowd.move move).requests.transport.calls = call :: crowd.requests.transport.calls

/-! ## Fetches are of runs -/

theorem Fetches.exists_run {crowd : Crowd α} {move : Move α} {call : Call α}
    (fetches : Fetches crowd move call) :
    ∃ run ∈ crowd.runs, run.stage = .issued call.generation ∧
      call.generation ∉ crowd.controller.cancelled := by
  have idle : crowd.requests.transport.calls ≠ call :: crowd.requests.transport.calls :=
    (List.cons_ne_self _ _).symm
  unfold Fetches at fetches
  cases move with
  | issue =>
    simp only [Crowd.move] at fetches
    split at fetches
    next => exact absurd fetches idle
    next => exact absurd fetches idle
  | run | runIssued | cancel | dispose => exact absurd fetches idle
  | land place now outcome =>
    simp only [Crowd.move] at fetches
    split at fetches
    next => exact absurd fetches idle
    next =>
      split at fetches
      next => exact absurd fetches idle
      next => exact absurd fetches idle
  | step place now =>
    simp only [Crowd.move] at fetches
    split at fetches
    next => exact absurd fetches idle
    next run found =>
      simp only [Crowd.put] at fetches
      have turn := turn_step crowd.requests now run
      generalize (crowd.requests.step now run).1 = next,
        (crowd.requests.step now run).2 = after at fetches turn
      cases turn with
      | wait | refuse | issue | resolve => exact absurd fetches idle
      | fetch issued uncancelled =>
        cases fetches
        exact ⟨run, List.mem_of_getElem? found, issued, uncancelled⟩

/-! ## Generations that were taken -/

namespace Crowd

/-- A run has a generation that was taken, if it has one. -/
def Knows (crowd : Crowd α) (run : Run α) : Prop :=
  ∀ generation, run.generation? = some generation →
    0 < generation ∧ generation ≤ crowd.controller.issued

/-- A generation that was issued stays so. -/
theorem Knows.later {crowd after : Crowd α} {run : Run α} (knows : crowd.Knows run)
    (later : crowd.controller.issued ≤ after.controller.issued) : after.Knows run := by
  intro generation has
  obtain ⟨positive, bounded⟩ := knows generation has
  exact ⟨positive, Nat.le_trans bounded later⟩

/-- A turn gives a run no other generation than one that it takes. -/
theorem Knows.turn {crowd : Crowd α} {place now : Nat} {run next : Run α} {after : Requests α}
    (knows : crowd.Knows run) (turn : Turn crowd.requests now run next after) :
    (crowd.put place (next, after)).Knows next := by
  intro generation has
  cases turn with
  | wait => exact knows generation has
  | refuse | resolve => cases has
  | issue unissued issued =>
    obtain ⟨-, rfl, rfl⟩ := Controller.issue_eq_ok_iff.1 issued
    cases has
    exact ⟨Nat.succ_pos _, Nat.le_refl _⟩
  | fetch issued =>
    cases has
    exact knows _ (Run.generation?_of_issued issued)

/-- A move that is allowed leaves every run with a generation that was issued. -/
theorem knows_move {crowd : Crowd α} {move : Move α} (allowed : crowd.allows move = true)
    (known : ∀ run ∈ crowd.runs, crowd.Knows run) :
    ∀ run ∈ (crowd.move move).runs, (crowd.move move).Knows run := by
  suffices changed : ∀ run ∈ (crowd.move move).runs,
      run ∈ crowd.runs ∨ (crowd.move move).Knows run by
    intro run member
    rcases changed run member with isOld | knows
    · exact (known run isOld).later (move_change crowd move).issued_le
    · exact knows
  intro run member
  cases move with
  | issue =>
    simp only [Crowd.move] at member
    split at member
    next => exact .inl member
    next => exact .inl member
  | cancel | dispose => exact .inl member
  | run query scope =>
    refine (List.mem_append.1 member).imp id fun isNew => ?_
    cases List.mem_singleton.1 isNew
    intro generation has
    cases has
  | runIssued generation query scope =>
    refine (List.mem_append.1 member).imp id fun isNew => ?_
    cases List.mem_singleton.1 isNew
    intro generation has
    cases has
    have taken : 0 < generation ∧ generation ≤ crowd.controller.issued := by
      simpa [allows] using allowed
    exact taken
  | step place now =>
    cases found : crowd.runs[place]? with
    | none =>
      simp only [Crowd.move, found] at member
      exact .inl member
    | some turned =>
      simp only [Crowd.move, found] at member ⊢
      refine (List.mem_or_eq_of_mem_set member).imp id ?_
      rintro rfl
      exact (known turned (List.mem_of_getElem? found)).turn (turn_step _ _ _)
  | land place now outcome =>
    cases found : crowd.runs[place]? with
    | none =>
      simp only [Crowd.move, found] at member
      exact .inl member
    | some turned =>
      cases held : turned.generation? with
      | none =>
        simp only [Crowd.move, found, held] at member
        exact .inl member
      | some generation =>
        simp only [Crowd.move, found, held] at member ⊢
        refine (List.mem_or_eq_of_mem_set member).imp id ?_
        rintro rfl
        exact (known turned (List.mem_of_getElem? found)).turn (.resolve held outcome)

/-- So does any list of moves that are allowed one after the other. -/
theorem knows_foldl {crowd : Crowd α} {moves : List (Move α)}
    (allowed : crowd.allowsAll moves = true) (known : ∀ run ∈ crowd.runs, crowd.Knows run) :
    ∀ run ∈ (moves.foldl Crowd.move crowd).runs, (moves.foldl Crowd.move crowd).Knows run := by
  induction moves generalizing crowd with
  | nil => exact known
  | cons move moves induction =>
    obtain ⟨first, others⟩ := Bool.and_eq_true_iff.1 allowed
    exact induction others (knows_move first known)

end Crowd

/-! ## Generations at their places -/

/-- Each generation that was taken is active, was cancelled or has delivered. -/
def Placed (requests : Requests α) : Prop :=
  ∀ generation, 0 < generation → generation ≤ requests.controller.issued →
    requests.controller.active = some generation ∨ generation ∈ requests.controller.cancelled ∨
      generation ∈ requests.delivered

variable {before after : Requests α}

theorem delivered_cons {finish : Finish α} (finished : after.finished = finish :: before.finished) :
    after.delivered = finish.delivered?.toList ++ before.delivered := by
  rw [delivered, finished, List.filterMap_cons]
  cases finish.delivered? with
  | none => rfl
  | some generation => rfl

/-- Whoever was active is cancelled. -/
theorem Placed.cancel (placed : before.Placed)
    (cancelled : after.controller.cancelled = before.controller.cancel.cancelled)
    (finished : after.finished = before.finished) {generation : Nat} (positive : 0 < generation)
    (bounded : generation ≤ before.controller.issued) :
    generation ∈ after.controller.cancelled ∨ generation ∈ after.delivered := by
  rw [cancelled, delivered, finished]
  rcases placed generation positive bounded with isActive | wasCancelled | delivered
  · exact .inl (Controller.mem_cancelled_of_active isActive)
  · exact .inl (Controller.mem_cancelled_cancel wasCancelled)
  · exact .inr delivered

/-- What is delivered keeps its place in the order of calls. -/
theorem Placed.change (placed : before.Placed) (change : Change before after) : after.Placed := by
  intro generation positive bounded
  cases change with
  | quiet same finished =>
    rw [same, delivered, finished]
    rw [same] at bounded
    exact placed generation positive bounded
  | issue latest issued finished =>
    obtain ⟨-, rfl, next⟩ := Controller.issue_eq_ok_iff.1 issued
    rw [next] at bounded
    rcases Nat.le_succ_iff.1 bounded with earlier | rfl
    · exact .inr (placed.cancel (by rw [next]) finished positive earlier)
    · left
      rw [next]
  | refuse finish disposed result unissued same finished =>
    have dropped : finish.delivered? = none := by
      rw [Finish.delivered?, result]
    rw [same, delivered_cons finished, dropped]
    rw [same] at bounded
    exact placed generation positive bounded
  | cancel cancelled finished =>
    rw [cancelled] at bounded
    exact .inr (placed.cancel (by rw [cancelled]) finished positive bounded)
  | dispose disposed finished =>
    rw [disposed, Controller.issued_dispose] at bounded
    cases isOver : before.controller.disposed with
    | true =>
      rw [disposed, Controller.dispose_of_disposed isOver, delivered, finished]
      exact placed generation positive bounded
    | false =>
      rw [Controller.dispose_of_active isOver] at disposed
      exact .inr (placed.cancel (by rw [disposed]) finished positive bounded)
  | resolve other outcome finish resolved result issued finished =>
    rw [resolved, Controller.issued_resolve] at bounded
    rw [delivered_cons finished]
    cases current : before.controller.isCurrent other with
    | false =>
      rw [resolved, Controller.resolve_of_not_isCurrent current]
      rcases placed generation positive bounded with isActive | cancelled | delivered
      · exact .inl isActive
      · exact .inr (.inl cancelled)
      · exact .inr (.inr (List.mem_append_right _ delivered))
    | true =>
      rw [Controller.resolve_of_isCurrent current] at result
      have delivers : finish.delivered? = some other := by
        rw [Finish.delivered?, result]
        exact issued
      rw [resolved, Controller.resolve_of_isCurrent current, delivers]
      rcases placed generation positive bounded with isActive | cancelled | delivered
      · cases isActive.symm.trans (Controller.isCurrent_iff.1 current).2
        exact .inr (.inr List.mem_cons_self)
      · exact .inr (.inl cancelled)
      · exact .inr (.inr (List.mem_append_right _ delivered))

/-- It does so after any moves. -/
theorem placed_reached (transport : Transport α) (moves : List (Move α)) :
    (reached transport moves).requests.Placed := by
  induction moves using List.reverseRecOn with
  | nil =>
    intro generation positive bounded
    exact absurd positive (Nat.not_lt_of_le bounded)
  | append_singleton moves move placed =>
    rw [reached_append]
    exact placed.change (move_change _ move)

/-! ## The law of fetches -/

/-- In whatever order things happen, a fetch is made by a run of the generation that is active, or
of one that has delivered already and may not deliver again.  It is never made for one that was
cancelled. -/
theorem fetches_current_or_delivered (transport : Transport α) (moves : List (Move α))
    (allowed : Crowd.allowsAll { requests := { transport } } moves = true) {move : Move α}
    {call : Call α} (fetches : Fetches (reached transport moves) move call) :
    let crowd := reached transport moves
    (∃ run ∈ crowd.runs, run.generation? = some call.generation) ∧
      call.generation ∉ crowd.controller.cancelled ∧
      (crowd.controller.disposed = false ∧ crowd.controller.active = some call.generation ↔
        call.generation ∉ crowd.requests.delivered) := by
  intro crowd
  have settled := settled_reached transport moves
  have known : ∀ run ∈ crowd.runs, crowd.Knows run :=
    Crowd.knows_foldl allowed (List.forall_mem_nil _)
  obtain ⟨run, isRun, issued, uncancelled⟩ := fetches.exists_run
  have held := Run.generation?_of_issued issued
  refine ⟨⟨run, isRun, held⟩, uncancelled, ?_⟩
  constructor
  · rintro current wasDelivered
    have stale := settled.behind call.generation wasDelivered
    exact Bool.eq_false_iff.1 stale.superseded (Controller.isCurrent_iff.2 current)
  · intro undelivered
    obtain ⟨positive, bounded⟩ := known run isRun call.generation held
    rcases placed_reached transport moves call.generation positive bounded with
      isActive | wasCancelled | wasDelivered
    · refine ⟨Bool.eq_false_iff.2 fun disposed => ?_, isActive⟩
      cases (settled.coherent.disposed disposed).symm.trans isActive
    · exact absurd wasCancelled uncancelled
    · exact absurd wasDelivered undelivered

/-- Two generations are taken from outside.  The run of the older one ends without a fetch, and the
newer one fetches. -/
theorem fetches_current_or_delivered_superseding :
    let transport : Transport Nat := { replies := [], lastResort := .never }
    let moves : List (Move Nat) :=
      [.issue, .issue, .runIssued 1 {} {}, .runIssued 2 {} {}, .step 0 0]
    let call : Call Nat := { time := 0, generation := 2, query := {}, scope := {}, reply := .never }
    Crowd.allowsAll { requests := { transport } } moves = true ∧
      Fetches (reached transport moves) (.step 1 0) call ∧
      (reached transport moves).requests.finished.map (·.generation) = [some 1] ∧
      2 ∉ (reached transport moves).requests.delivered ∧
      (reached transport moves).controller.disposed = false ∧
      (reached transport moves).controller.active = some 2 := by
  intro transport moves call
  have allowed : Crowd.allowsAll { requests := { transport } } moves = true := by decide
  have fetches : Fetches (reached transport moves) (.step 1 0) call := rfl
  have undelivered : 2 ∉ (reached transport moves).requests.delivered := by decide
  obtain ⟨-, -, isCurrent⟩ := fetches_current_or_delivered transport moves allowed fetches
  exact ⟨allowed, fetches, rfl, undelivered, isCurrent.2 undelivered⟩

/-- A generation delivers, and everything is ended.  A run of that generation fetches all the
same. -/
theorem delivered_fetches_after_dispose :
    let transport : Transport Nat := { replies := [], lastResort := .after 0 (.ok 7) }
    let moves : List (Move Nat) :=
      [.issue, .runIssued 1 {} {}, .step 0 0, .step 0 0, .dispose, .runIssued 1 {} {}]
    let call : Call Nat :=
      { time := 0, generation := 1, query := {}, scope := {}, reply := .after 0 (.ok 7) }
    Crowd.allowsAll { requests := { transport } } moves = true ∧
      Fetches (reached transport moves) (.step 1 0) call ∧
      (reached transport moves).requests.delivered = [1] ∧
      (reached transport moves).controller.disposed = true ∧
      (reached transport moves).controller.active = none := by
  refine ⟨?_, rfl, ?_, ?_, ?_⟩
  · decide
  · decide
  · decide
  · decide

end QuerySync.Requests
