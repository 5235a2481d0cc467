import QuerySync.Proofs.View.Edits
import QuerySync.Synchronizer

/-!
# The location as a store of the query

A synchronizer keeps its query in the location alone, so each edit goes from parameters to a
query and back.  Nothing is lost on the way: a list of edits done to the location gives what
the same list gives when it is done to the query, and the query that each call returns is the
one that the location shows then (`mutateAll_faithful`).
-/

namespace QuerySync.Synchronizer

open View

variable {α : Type}

/-- Does edits one after the other, and gives for each the query that it returned and the
synchronizer that it left. -/
def mutateAll (sync : Synchronizer α) :
    List Edit → Except SyncError (List (Query × Synchronizer α))
  | [] => .ok []
  | edit :: edits => do
    let (query, next) ← sync.mutate edit
    let later ← next.mutateAll edits
    return (query, next) :: later

/-- An edit shows the edited query, and writes the edited parameters. -/
theorem mutate_of_active {sync : Synchronizer α} (active : sync.disposed = false) (edit : Edit) :
    sync.mutate edit =
      .ok (sync.view.apply (sync.view.decode sync.store.params) edit,
        sync.write (sync.view.perform sync.store.params edit)) := by
  rw [mutate, active]
  rfl

/-- Edits are done one after the other, each to what the one before left. -/
theorem mutateAll_cons {sync : Synchronizer α} (active : sync.disposed = false) {edit : Edit}
    {edits : List Edit} {later : List (Query × Synchronizer α)}
    (rest : (sync.write (sync.view.perform sync.store.params edit)).mutateAll edits = .ok later) :
    sync.mutateAll (edit :: edits) =
      .ok ((sync.view.apply (sync.view.decode sync.store.params) edit,
        sync.write (sync.view.perform sync.store.params edit)) :: later) := by
  simp only [mutateAll, mutate_of_active active, bind, Except.bind, rest]
  rfl

@[simp] theorem view_write (sync : Synchronizer α) (params : Params) :
    (sync.write params).view = sync.view := rfl

@[simp] theorem params_store_write (sync : Synchronizer α) (params : Params) :
    (sync.write params).store.params = params :=
  Store.params_write sync.store params

/-! ## Two runs in step -/

/-- What a list of edits leaves behind: the parameters follow the edits of the location, the
queries that are returned follow the edits of the query, and the two never part. -/
structure Faithful (sync : Synchronizer α) (edits : List Edit)
    (trail : List (Query × Synchronizer α)) : Prop where
  /-- Each edit is done to the parameters that the one before left. -/
  params : sync.store.params :: trail.map (fun done => done.2.store.params) =
    edits.scanl sync.view.perform sync.store.params
  /-- The queries are those of the same edits done to the first query. -/
  queries : sync.view.decode sync.store.params :: trail.map (fun done => done.1) =
    edits.scanl sync.view.apply (sync.view.decode sync.store.params)
  /-- A query that is returned is what the location shows then. -/
  shown : ∀ done ∈ trail, done.1 = sync.view.decode done.2.store.params
  /-- Nobody else's parameter changes. -/
  foreign : ∀ done ∈ trail, ∀ key, sync.view.owns key = false →
    done.2.store.params.get? key = sync.store.params.get? key

/-- A run of edits is faithful, by induction over the edits. -/
theorem faithful_mutateAll {sync : Synchronizer α} (valid : sync.view.Valid)
    (active : sync.disposed = false) (edits : List Edit) :
    ∃ trail, sync.mutateAll edits = .ok trail ∧ sync.Faithful edits trail := by
  induction edits generalizing sync with
  | nil => exact ⟨[], rfl, by simp, by simp, by simp, by simp⟩
  | cons edit edits induction =>
    have next := @induction (sync.write (sync.view.perform sync.store.params edit)) valid active
    obtain ⟨later, run, faithful⟩ := next
    obtain ⟨params, queries, shown, foreign⟩ := faithful
    simp only [view_write, params_store_write] at params queries shown foreign
    have firstShown := decode_perform valid sync.store.params edit
    rw [firstShown] at queries
    refine ⟨_, mutateAll_cons active run, ?_, ?_, ?_, ?_⟩
    · rw [List.map_cons, params_store_write, params, List.scanl_cons]
    · rw [List.map_cons, queries, List.scanl_cons]
    · intro done member
      rcases List.mem_cons.1 member with rfl | inLater
      · rw [params_store_write]
        exact firstShown.symm
      · exact shown done inLater
    · intro done member key notOwned
      have firstForeign := get?_perform_of_not_owns valid notOwned sync.store.params edit
      rcases List.mem_cons.1 member with rfl | inLater
      · rw [params_store_write]
        exact firstForeign
      · exact (foreign done inLater key notOwned).trans firstForeign

/-- No edit of a list is refused, the location and the query stay in step all along, and the last
location shows what the edits make of the first query. -/
theorem mutateAll_faithful {sync : Synchronizer α} (valid : sync.view.Valid)
    (active : sync.disposed = false) (edits : List Edit) :
    (∃ trail, sync.mutateAll edits = .ok trail ∧ sync.Faithful edits trail) ∧
      sync.view.decode (edits.foldl sync.view.perform sync.store.params) =
        edits.foldl sync.view.apply (sync.view.decode sync.store.params) :=
  ⟨faithful_mutateAll valid active edits,
    decode_foldl_perform valid sync.store.params edits⟩

/-- Edits that turn a default direction, that are ignored, and that go past the last page, done
to a location with oddly spelled parameters. -/
theorem mutateAll_faithful_executions :
    ∃ sync fresh : Synchronizer Nat,
      create (preset "executions" .execution) {} Liveness.never "" ⟨[], .never, []⟩ = .ok fresh ∧
      sync = fresh.write (KeyMap.ofList [("descending", "no"), ("page", " 4294967295"),
        ("sort_by", " "), ("status", "a,,b"), ("utm", "x")]) ∧
      sync.view.Valid ∧ sync.disposed = false ∧
      (∃ trail, sync.mutateAll [.sortBy "created_at", .setFilter "owner" ["me"], .sortBy "  ",
        .setPageSize 7, .goToPage 4294967295, .nextPage] = .ok trail ∧
        sync.Faithful [.sortBy "created_at", .setFilter "owner" ["me"], .sortBy "  ",
          .setPageSize 7, .goToPage 4294967295, .nextPage] trail) ∧
      sync.view.decode ([Edit.sortBy "created_at", .setFilter "owner" ["me"], .sortBy "  ",
        .setPageSize 7, .goToPage 4294967295, .nextPage].foldl sync.view.perform
          sync.store.params) =
        { sortField := some "created_at", descending := false
          filters := KeyMap.ofList [("status", ["a", "b"])]
          pageIndex := 4294967294, pageSize := 25 } := by
  refine ⟨_, _, rfl, rfl, by decide, rfl, ?_⟩
  refine And.imp_right (fun shown => shown.trans ?_) (mutateAll_faithful ?_ rfl _)
  · decide
  · rw [params_store_write]
    decide

end QuerySync.Synchronizer
