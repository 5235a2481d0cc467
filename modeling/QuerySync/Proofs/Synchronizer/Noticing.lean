import QuerySync.Proofs.Synchronizer.Disposed
import QuerySync.Proofs.Synchronizer.Edits
import QuerySync.Proofs.Synchronizer.Owners

/-!
# Edits that are noticed

An edit of a tidy location changes the query, or it does nothing at all (`edit_fetches_iff`).
There is no edit that only respells the location, and so none that fetches the same page again.
Edits leave the location tidy, so this goes on for as long as nobody writes untidy parameters to
it.

An edit that changes the query is not lost.  The watcher is behind then, next the cycle that it
starts, and next the call is made.  Whatever else is done in between, at any moment one of these
holds (`Due`), and nobody is behind when the queue is empty.
-/

namespace QuerySync.Synchronizer

variable {α : Type} {view : View} {sync after : Synchronizer α} {now version : Nat}
  {bench later : Bench α} {before : List (Call α)} {tasks older newer : List (Task α)}
  {task next : Task α}

/-! ## Changes that are due -/

/-- Whether a task has yet to look at a location that was changed a number of times. -/
def Task.behind (version : Nat) : Task α → Bool
  | .watcher seen => seen < version
  | .cycle _ (.unstarted _) => true
  | .cycle _ (.fetching _) | .cycle _ (.finished _) | .timer _ | .ended => false

/-- A change of the location is on record, and was fetched for after the calls before it, or
somebody is behind. -/
structure Due (before : List (Call α)) (version : Nat) (sync : Synchronizer α)
    (tasks : List (Task α)) : Prop where
  /-- The synchronizer goes on. -/
  active : sync.disposed = false
  /-- So does its controller. -/
  running : sync.controller.disposed = false
  /-- Its owner holds it. -/
  owned : sync.Owned tasks
  /-- The change is counted. -/
  counted : version ≤ sync.store.version
  /-- If there is no call yet, somebody is behind. -/
  awaited : ∃ newer, sync.transport.calls = newer ++ before ∧
    (newer = [] → ∃ task ∈ tasks, task.behind version = true)

/-- Whoever is behind can go on. -/
theorem canRun_of_behind (counted : version ≤ sync.store.version)
    (behind : task.behind version = true) : canRun now sync task = true := by
  cases task with
  | watcher seen =>
    have unseen : seen < version := of_decide_eq_true behind
    have changed : sync.store.version ≠ seen := by omega
    simp [canRun, Store.hasChanged, changed]
  | cycle caller cycle =>
    cases cycle with
    | unstarted cause => rfl
    | fetching | finished => exact absurd behind Bool.false_ne_true
  | timer | ended => exact absurd behind Bool.false_ne_true

/-- A task that is behind starts a cycle, or begins it. -/
theorem stepTask_of_behind (active : sync.disposed = false)
    (running : sync.controller.disposed = false) (behind : task.behind version = true) :
    (∃ call, (stepTask now sync task).2.1.transport.calls = call :: sync.transport.calls) ∨
      ∃ other ∈ (stepTask now sync task).2.2, other.behind version = true := by
  cases task with
  | watcher seen =>
    refine .inr ⟨.cycle none (.unstarted .paramsChanged), ?_, rfl⟩
    simp [stepTask, active]
  | cycle caller cycle =>
    cases cycle with
    | unstarted cause =>
      cases issued : sync.controller.issue with
      | error error =>
        have closed := (Controller.issue_eq_error issued).1
        exact absurd (running.symm.trans closed) Bool.false_ne_true
      | ok taken =>
        obtain ⟨call, _, -, -, begins⟩ := begin_of_issue (Prod.eta taken ▸ issued) now cause
        refine .inl ⟨call, ?_⟩
        simp only [stepTask, stepCycle, advanceCycle, active, begins]
        cases caller <;> rfl
    | fetching | finished => exact absurd behind Bool.false_ne_true
  | timer | ended => exact absurd behind Bool.false_ne_true

/-- A change stays due, as long as nobody who is behind gets away without a call. -/
theorem Due.goesOn {rest : List (Task α)} (due : Due before version sync tasks)
    (goesOn : sync.GoesOn after) (owned : after.Owned rest)
    (stays : after.transport.calls = sync.transport.calls →
      ∀ task ∈ tasks, task.behind version = true → ∃ other ∈ rest, other.behind version = true) :
    Due before version after rest := by
  obtain ⟨latest, calls, awaited⟩ := due.awaited
  obtain ⟨added, more⟩ := goesOn.calls
  refine ⟨goesOn.disposed.trans due.active, goesOn.closed.trans due.running, owned,
    Nat.le_trans due.counted goesOn.version, added ++ latest, ?_, fun none => ?_⟩
  · rw [more, calls, List.append_assoc]
  · obtain ⟨rfl, noneBefore⟩ := List.append_eq_nil_iff.1 none
    obtain ⟨task, member, behind⟩ := awaited noneBefore
    exact stays more task member behind

/-- No turn of a task loses a change that is due. -/
theorem keeps_due (before : List (Call α)) (version : Nat) :
    (program : Program (Synchronizer α) (Task α)).Keeps (Due before version) := by
  intro now sync older task newer next after spawned due _ turn
  obtain ⟨rfl, rfl, rfl⟩ := stepTask_of_step turn
  obtain ⟨goesOn, owned⟩ := due.owned.stepTask
  refine due.goesOn goesOn owned fun uncalled other member behind => ?_
  by_cases same : other = task
  · subst same
    rcases stepTask_of_behind due.active due.running behind with
      ⟨call, called⟩ | ⟨new, isNew, behind⟩
    · exact absurd (called.symm.trans uncalled) (List.cons_ne_self _ _)
    · exact ⟨new, List.mem_append_right _ isNew, behind⟩
  · exact ⟨other, mem_replace member same, behind⟩

theorem Due.step (bench : Bench α) (due : Due before version bench.state bench.tasks) :
    Due before version (bench.step program).state (bench.step program).tasks :=
  Executor.step_keeps (keeps_due before version) due

/-- A change from outside loses none either, if the synchronizer goes on. -/
theorem Due.act (due : Due before version bench.state bench.tasks) {spawned : List (Task α)}
    (goesOn : bench.state.GoesOn after)
    (holders : after.holders = bench.state.holders + spawned.countP Task.isCall) :
    Due before version (bench.act program after spawned).state
      (bench.act program after spawned).tasks :=
  due.goesOn goesOn (due.owned.act holders) fun _ other member behind =>
    ⟨other, List.mem_append_left _ member, behind⟩

/-- So no action loses one but those that end the synchronizer or let go of it. -/
theorem Due.perform (due : Due before version bench.state bench.tasks) {action : Action α}
    (goesOn : action.goesOn = true) :
    Due before version (perform bench action).state (perform bench action).tasks :=
  perform_goesOn_induction Due.step (fun _ _ due => due) (fun _ _ => due.act) goesOn due

/-- And no run of such actions does. -/
theorem Due.reachesBy (due : Due before version bench.state bench.tasks)
    (reaches : ReachesBy (·.goesOn = true) bench later) :
    Due before version later.state later.tasks := by
  induction reaches with
  | refl => exact due
  | perform _ _ goesOn due => exact due.perform goesOn
  | step _ due => exact due.step
  | moveTo _ _ due => exact due

/-- When nobody can go on, nobody is behind. -/
theorem Due.called (due : Due before version sync tasks)
    (waits : ∀ task ∈ tasks, canRun now sync task = false) :
    ∃ call newer, sync.transport.calls = call :: newer ++ before := by
  obtain ⟨latest, calls, awaited⟩ := due.awaited
  cases latest with
  | cons call newer => exact ⟨call, newer, calls⟩
  | nil =>
    obtain ⟨task, member, behind⟩ := awaited rfl
    exact absurd (canRun_of_behind due.counted behind) (Bool.eq_false_iff.1 (waits task member))

/-- A synchronizer that settles has made the call that was due, for the query of its location. -/
theorem Due.settle {scope : Scope} {liveness : Liveness α} {query : String}
    {replies : List (Reply α)} {lastResort : Reply α}
    (due : Due before version bench.state bench.tasks)
    (created : create view scope liveness query { replies, lastResort } = .ok sync)
    (reachable : Reachable sync bench) :
    ∃ call newer, (bench.settle program).state.transport.calls = call :: newer ++ before ∧
      call.query = view.decode bench.state.store.params := by
  have settled : Due before version (bench.settle program).state (bench.settle program).tasks :=
    due.perform (rfl : Action.settle.goesOn = true)
  have reached : Reachable sync (bench.settle program) := reachable.perform .settle
  have waits : ∀ task ∈ (bench.settle program).tasks,
      canRun (bench.settle program).now (bench.settle program).state task = false :=
    fun _ => reached.alert.canRun_eq_false (ready_settle reachable)
  obtain ⟨call, newer, calls⟩ := settled.called waits
  refine ⟨call, newer, calls, ?_⟩
  have sound := reached.upheld created settled.active
  have latest : call ∈ (bench.settle program).state.transport.calls.head? := by
    rw [calls]
    rfl
  rw [sound.consistent.query call latest, (sound.agreement settled.active waits).query,
    (later_settle bench).store]

/-! ## Runs that stay tidy -/

/-- An action of somebody who goes on to hold the synchronizer, and writes nothing untidy. -/
def Action.Tidies (view : View) (action : Action α) : Prop :=
  action ≠ .drop ∧ ∀ params, action = .write params → view.Tidy params

/-- An action that writes nothing untidy leaves a tidy location tidy. -/
theorem tidy_perform (valid : view.Valid)
    (isView : bench.state.disposed = false → bench.state.view = view)
    (tidy : view.Tidy bench.state.store.params) {action : Action α}
    (tidies : action.Tidies view) :
    view.Tidy (perform bench action).state.store.params := by
  have step (bench : Bench α) (tidy : view.Tidy bench.state.store.params) :
      view.Tidy (bench.step program).state.store.params :=
    (later_step bench).store ▸ tidy
  cases action with
  | mutate edit =>
    simp only [perform, mutate]
    split
    next => exact tidy
    next query after mutates =>
      split at mutates
      next => cases mutates
      next active =>
        cases mutates
        show view.Tidy (Store.write _ _).params
        rw [Store.params_write, isView (Bool.eq_false_iff.2 active)]
        exact View.tidy_perform valid _ edit
  | write params =>
    show view.Tidy (Store.write _ _).params
    rw [Store.params_write]
    exact tidies.2 params rfl
  | refresh =>
    simp only [perform]
    split
    next => exact tidy
    next => exact tidy
  | syncNow | addReply | setLastResort => exact tidy
  | dismissError => exact (later_dismissError bench.state).store ▸ tidy
  | dispose => exact (later_dispose bench.state bench.now).store ▸ tidy
  | drop => exact absurd rfl tidies.1
  | settle => exact Executor.settle_induction step tidy
  | advance duration =>
    exact Executor.advance_induction step (fun _ _ tidy => tidy) duration tidy

/-! ## Edits -/

/-- What an edit does to a synchronizer and its tasks. -/
structure Noticed (view : View) (edit : Edit) (bench after : Bench α) : Prop where
  /-- The location shows what the edit makes of its query, unless the synchronizer is over. -/
  shown : bench.state.disposed = false →
    view.decode after.state.store.params =
      view.apply (view.decode bench.state.store.params) edit
  /-- The location is tidy. -/
  tidy : view.Tidy after.state.store.params
  /-- Nothing at all happens exactly if the query stays. -/
  untouched : after = bench ↔
    view.decode after.state.store.params = view.decode bench.state.store.params
  /-- Otherwise the location counts a change, and the watcher, who has not seen it, is woken. -/
  woken : view.decode after.state.store.params ≠ view.decode bench.state.store.params →
    after.state.store.version = bench.state.store.version + 1 ∧
    ∃ place seen, after.tasks[place]? = some (.watcher seen) ∧
      after.state.store.hasChanged seen = true ∧ place ∈ after.ready
  /-- And however the synchronizer goes on, if it settles while its owner holds it, the query of
  the location was fetched after that. -/
  fetched : view.decode after.state.store.params ≠ view.decode bench.state.store.params →
    ∀ last, ReachesBy (·.goesOn = true) after last →
      ∃ call newer,
        (last.settle program).state.transport.calls =
          call :: newer ++ bench.state.transport.calls ∧
        call.query = view.decode last.state.store.params

/-- An edit that does nothing has to keep the query, and no more. -/
theorem Noticed.of_untouched {edit : Edit} (same : later = bench)
    (shown : bench.state.disposed = false →
      view.apply (view.decode bench.state.store.params) edit =
        view.decode bench.state.store.params)
    (tidy : view.Tidy bench.state.store.params) : Noticed view edit bench later := by
  subst same
  exact
    { shown := fun active => (shown active).symm
      tidy
      untouched := iff_of_true rfl rfl
      woken := fun different => absurd rfl different
      fetched := fun different => absurd rfl different }

/-- Edits of a synchronizer that is over do nothing. -/
theorem perform_mutate_of_disposed (disposed : bench.state.disposed = true) (edit : Edit) :
    perform bench (.mutate edit) = bench := by
  simp only [perform, mutate, disposed, if_true]

/-- Other edits write to the location. -/
theorem perform_mutate_of_active (active : bench.state.disposed = false) (edit : Edit) :
    perform bench (.mutate edit) = change bench
      (bench.state.write (bench.state.view.perform bench.state.store.params edit)) := by
  simp only [perform, mutate_of_active active]

/-- Writing what is there already is nothing. -/
theorem change_write_self (alert : bench.Alert program) :
    change bench (bench.state.write bench.state.store.params) = bench := by
  have same : bench.state.write bench.state.store.params = bench.state := by
    rw [write, Store.write, if_pos rfl]
  rw [same]
  exact alert.act_self

section
variable {params : Params} (sound : Sound view bench.state bench.tasks)
  (different : params ≠ bench.state.store.params)
include sound different

/-- The watcher has not seen a change that was just written. -/
theorem woken_write :
    ∃ place seen, (change bench (bench.state.write params)).tasks[place]? = some (.watcher seen) ∧
      (change bench (bench.state.write params)).state.store.hasChanged seen = true ∧
      place ∈ (change bench (bench.state.write params)).ready := by
  obtain ⟨seen, watches, old⟩ := sound.watched.watcher
  obtain ⟨place, found⟩ := List.getElem?_of_mem (List.mem_append_left [] watches)
  have unseen : (bench.state.write params).store.hasChanged seen = true := by
    have later : (bench.state.store.write params).version = bench.state.store.version + 1 := by
      rw [Store.version_write, if_neg different]
    refine bne_iff_ne.2 ?_
    show (bench.state.store.write params).version ≠ seen
    omega
  have able : canRun bench.now (bench.state.write params) (.watcher seen) = true := by
    rw [canRun, unseen, Bool.or_true]
  exact ⟨place, seen, found, unseen, Executor.alert_act program _ _ _ place _ found able⟩

/-- A change of the location makes a call due after those that were made. -/
theorem due_write (active : bench.state.disposed = false)
    (owned : bench.state.Owned bench.tasks) :
    Due bench.state.transport.calls (bench.state.store.version + 1)
      (change bench (bench.state.write params)).state
      (change bench (bench.state.write params)).tasks := by
  obtain ⟨seen, watches, old⟩ := sound.watched.watcher
  refine ⟨active, sound.consistent.running, owned.act rfl, ?_, [], rfl, fun _ => ?_⟩
  · show _ ≤ (bench.state.store.write params).version
    rw [Store.version_write, if_neg different]
  · exact ⟨.watcher seen, List.mem_append_left [] watches,
      decide_eq_true (Nat.lt_succ_of_le old)⟩

end

/-- What an edit does to a synchronizer with a tidy location, wherever it is. -/
theorem noticed_mutate {scope : Scope} {liveness : Liveness α} {query : String}
    {replies : List (Reply α)} {lastResort : Reply α} (valid : view.Valid)
    (created : create view scope liveness query { replies, lastResort } = .ok sync)
    (reachable : Reachable sync bench) (owned : bench.state.Owned bench.tasks)
    (tidy : view.Tidy bench.state.store.params) (edit : Edit) :
    Noticed view edit bench (perform bench (.mutate edit)) := by
  cases disposed : bench.state.disposed with
  | true =>
    refine .of_untouched (perform_mutate_of_disposed disposed edit) (fun active => ?_) tidy
    exact absurd (disposed.symm.trans active) Bool.false_ne_true.symm
  | false =>
    have reached : Reachable sync (perform bench (.mutate edit)) := reachable.perform _
    have sound := reachable.upheld created disposed
    have performs := perform_mutate_of_active disposed edit
    rw [sound.view] at performs
    by_cases same : view.perform bench.state.store.params edit = bench.state.store.params
    · refine .of_untouched ?_ (fun _ => (View.perform_eq_self_iff valid tidy edit).1 same) tidy
      rw [performs, same]
      exact change_write_self reachable.alert
    · have written : (perform bench (.mutate edit)).state.store =
          bench.state.store.write (view.perform bench.state.store.params edit) := by
        rw [performs]
        rfl
      have shown : view.decode (perform bench (.mutate edit)).state.store.params =
          view.apply (view.decode bench.state.store.params) edit := by
        rw [written, Store.params_write]
        exact View.decode_perform valid _ edit
      have changed : view.decode (perform bench (.mutate edit)).state.store.params ≠
          view.decode bench.state.store.params := by
        rw [shown]
        exact mt (View.perform_eq_self_iff valid tidy edit).2 same
      refine
        { shown := fun _ => shown
          tidy := ?_
          untouched := ?_
          woken := fun _ => ⟨?_, ?_⟩
          fetched := fun _ last reaches => ?_ }
      · rw [written, Store.params_write]
        exact View.tidy_perform valid _ edit
      · refine iff_of_false (fun untouched => changed ?_) changed
        rw [untouched]
      · rw [written, Store.version_write, if_neg same]
      · rw [performs]
        exact woken_write sound same
      · have due := performs ▸ due_write sound same disposed owned
        exact (due.reachesBy reaches).settle created (reached.trans reaches.reaches)

/-! ## Runs -/

section
variable {scope : Scope} {liveness : Liveness α} {query : String} {replies : List (Reply α)}
  {lastResort : Reply α}

/-- A tidy location stays tidy along a run that writes nothing untidy. -/
theorem ReachesBy.tidy (valid : view.Valid)
    (created : create view scope liveness query { replies, lastResort } = .ok sync)
    (reachable : Reachable sync bench) (tidy : view.Tidy bench.state.store.params)
    (reaches : ReachesBy (Action.Tidies view) bench later) :
    view.Tidy later.state.store.params := by
  induction reaches with
  | refl => exact tidy
  | @perform between reaches _ tidies tidy =>
    have reached : Reachable sync between := reachable.trans reaches.reaches
    have isView (active : between.state.disposed = false) : between.state.view = view :=
      (reached.upheld created active).view
    exact tidy_perform valid isView tidy tidies
  | @step between _ tidy => exact (later_step between).store ▸ tidy
  | moveTo _ _ tidy => exact tidy

end

/-- An edit changes tidy parameters exactly when it changes the query that they show, and leaves
them tidy.  So once the location of a synchronizer is tidy it stays so, as long as nothing untidy is
written to it, and all along an edit either does nothing at all or changes the query, and then the
query is fetched. -/
theorem edit_fetches_iff (valid : view.Valid) :
    (∀ params, view.Tidy params → ∀ edit,
      (view.perform params edit = params ↔
        view.apply (view.decode params) edit = view.decode params) ∧
      view.Tidy (view.perform params edit)) ∧
    ∀ {scope : Scope} {liveness : Liveness α} {query : String} {replies : List (Reply α)}
      {lastResort : Reply α} {sync : Synchronizer α},
      create view scope liveness query { replies, lastResort } = .ok sync →
      ∀ bench, ReachesBy (· ≠ .drop) sync.start bench → view.Tidy bench.state.store.params →
      ∀ later, ReachesBy (Action.Tidies view) bench later →
        view.Tidy later.state.store.params ∧
          ∀ edit, Noticed view edit later (perform later (.mutate edit)) := by
  constructor
  · intro params tidy edit
    exact ⟨View.perform_eq_self_iff valid tidy edit, View.tidy_perform valid params edit⟩
  · intro scope liveness query replies lastResort sync created bench first tidy later reaches
    have reachable : Reachable sync bench := first.reaches
    have stays := ReachesBy.tidy valid created reachable tidy reaches
    have held := first.trans (reaches.mono fun _ tidies => tidies.1)
    refine ⟨stays, fun edit => ?_⟩
    exact noticed_mutate valid created (reachable.trans reaches.reaches)
      (held.owned (owned_start created)) stays edit

/-- In a view without a sort, edits that only look as if they changed something, and one that does.
The first fetch is on its way all along. -/
theorem edit_fetches_iff_without_sort :
    ∃ (view : View) (sync : Synchronizer Nat),
      view = { name := "runs", filterKeys := ["status"] } ∧ view.Valid ∧
      create view {} Liveness.never "" { replies := [], lastResort := .never } = .ok sync ∧
      let bench := [.settle, .mutate (.setSearch "red")].foldl perform sync.start
      bench.state.store.params = KeyMap.ofList [("q", "red")] ∧
      view.Tidy bench.state.store.params ∧
      (∀ edit ∈ [Edit.setSearch "red", .setDirection true, .previousPage, .setPageSize 7,
        .setFilter "owner" ["me"], .setFilter "status" []],
        perform bench (.mutate edit) = bench) ∧
      ∃ call newer,
        ((perform bench (.mutate .nextPage)).settle program).state.transport.calls =
          call :: newer ++ bench.state.transport.calls ∧
        call.query = { search := some "red", pageIndex := 1, pageSize := 25 } := by
  obtain ⟨view, isView⟩ : ∃ view : View, view = { name := "runs", filterKeys := ["status"] } :=
    ⟨_, rfl⟩
  obtain ⟨sync, created, active, params⟩ : ∃ sync : Synchronizer Nat,
      create view {} Liveness.never "" { replies := [], lastResort := .never } = .ok sync ∧
      let bench := [.settle, .mutate (.setSearch "red")].foldl perform sync.start
      bench.state.disposed = false ∧
        bench.state.store.params = KeyMap.ofList [("q", "red")] := by
    subst isView
    exact ⟨_, rfl, by decide, by decide⟩
  have valid : view.Valid := by
    subst isView
    decide
  generalize isBench : [.settle, .mutate (.setSearch "red")].foldl perform sync.start = bench
    at active params
  have reaches : ReachesBy (· ≠ .drop) sync.start bench :=
    isBench ▸ ReachesBy.refl.foldl (by simp)
  have tidy : view.Tidy bench.state.store.params := by
    rw [params]
    subst isView
    decide
  have noticed (edit : Edit) : Noticed view edit bench (perform bench (.mutate edit)) :=
    ((edit_fetches_iff valid).2 created bench reaches tidy bench .refl).2 edit
  refine ⟨view, sync, isView, valid, created, ?_⟩
  rw [isBench]
  refine ⟨params, tidy, fun edit member => (noticed edit).untouched.2 ?_, ?_⟩
  · rw [(noticed edit).shown active, params]
    subst isView
    revert edit
    decide
  · have shown := (noticed .nextPage).shown active
    have different : view.decode (perform bench (.mutate .nextPage)).state.store.params ≠
        view.decode bench.state.store.params := by
      rw [shown, params]
      subst isView
      decide
    obtain ⟨call, newer, calls, isQuery⟩ := (noticed .nextPage).fetched different _ .refl
    refine ⟨call, newer, calls, isQuery.trans ?_⟩
    rw [shown, params]
    subst isView
    decide

end QuerySync.Synchronizer
