import QuerySync.Proofs.View.Parts
import QuerySync.Proofs.View.Reencoding

/-!
# Parameters of others

A location may have parameters that are not the view's.  A view does not see them, and does not
touch them (`View.foreign_untouched`).

Both follow from laws about two sets of parameters that agree on what the view owns: they show the
same query (`decode_congr`), and a query is written onto them with the same texts
(`get?_encode_congr`).
-/

namespace QuerySync

theorem KeyMap.get?_insertAll_congr {α : Type} {m n : KeyMap α} {key : String}
    (same : m.get? key = n.get? key) (entries : List (String × α)) :
    (m.insertAll entries).get? key = (n.insertAll entries).get? key := by
  induction entries generalizing m n with
  | nil => exact same
  | cons entry rest induction =>
    refine induction ?_
    rw [get?_insert, get?_insert, same]

namespace View

variable {view : View} {params other : Params} {key : String}

theorem keeping_congr {name : String} (same : params.get? name = other.get? name)
    (unchanged : Bool) (text : String) :
    keeping params unchanged name text = keeping other unchanged name text := by
  rw [keeping, keeping, same]

section
variable (agree : ∀ key, view.owns key = true → params.get? key = other.get? key)
include agree

/-- A query is read from what the view owns. -/
theorem decode_congr : view.decode params = view.decode other :=
  Query.ext_part fun _ =>
    part_decode_congr fun name member => agree name (owns_of_mem_namesOf member)

/-- What the view owns is written as it would be next to other parameters. -/
theorem get?_encode_congr (valid : view.Valid) (query : Query) (owned : view.owns key = true) :
    (view.encode query params).get? key = (view.encode query other).get? key := by
  have shown := decode_congr agree
  have same := agree key owned
  rcases owns_iff.1 owned with reserved | isFilter
  · simp only [ParamName.reserved, List.mem_cons, List.not_mem_nil, or_false] at reserved
    rcases reserved with rfl | rfl | rfl | rfl | rfl
    · rw [get?_encode_search valid, get?_encode_search valid]
    · rw [get?_encode_sortBy valid, get?_encode_sortBy valid]
    · rw [get?_encode_descending valid, get?_encode_descending valid]
    · rw [get?_encode_page valid, get?_encode_page valid, shown, keeping_congr same]
    · rw [get?_encode_pageSize valid, get?_encode_pageSize valid, shown, keeping_congr same]
  · rw [get?_encode_filter valid query _ isFilter, get?_encode_filter valid query _ isFilter, shown]
    simp only [keeping_congr same]

end

/-- Whatever others set in a location, a view shows the same query, and writes a query in the same
way.  What others have there stays, and the view adds nothing to it. -/
theorem foreign_untouched (valid : view.Valid) (params : Params) (query : Query)
    (others : List (String × String)) (foreign : ∀ entry ∈ others, view.owns entry.1 = false) :
    view.decode (params.insertAll others) = view.decode params ∧
      view.encode query (params.insertAll others) = (view.encode query params).insertAll others ∧
      ∀ key, view.owns key = false → (view.encode query params).get? key = params.get? key := by
  have absent {key : String} (owned : view.owns key = true) : ∀ entry ∈ others, entry.1 ≠ key :=
    fun entry member same => Bool.eq_false_iff.1 (foreign entry member) (same ▸ owned)
  have agree : ∀ key, view.owns key = true → (params.insertAll others).get? key = params.get? key :=
    fun key owned => KeyMap.get?_insertAll_of_forall_ne (absent owned) params
  refine ⟨decode_congr agree, ?_, fun key => get?_encode_of_not_owns valid query params⟩
  ext1 key
  cases owned : view.owns key with
  | true =>
    rw [KeyMap.get?_insertAll_of_forall_ne (absent owned)]
    exact get?_encode_congr agree valid query owned
  | false =>
    rw [get?_encode_of_not_owns valid query _ owned]
    exact KeyMap.get?_insertAll_congr (get?_encode_of_not_owns valid query params owned).symm others

/-- Names that almost are those of the view, one of them set twice, and an empty one. -/
theorem foreign_untouched_near_misses :
    let view := preset "executions" .execution
    let params := KeyMap.ofList [("Page", "x"), ("page", " 2"), ("status", "running,,queued")]
    let others := [("Page", "7"), ("status ", "failed"), ("Q", "a"), ("", "?"), ("page=", "3"),
      ("Q", "b"), ("descending\t", "false")]
    let query : Query := { sortField := some "created_at", descending := true
                           filters := KeyMap.ofList [("status", ["running", "queued"])]
                           pageIndex := 2, pageSize := 25 }
    view.Valid ∧ (∀ entry ∈ others, view.owns entry.1 = false) ∧
      view.decode (params.insertAll others) = view.decode params ∧
      (view.decode params).pageIndex = 1 ∧
      view.encode query (params.insertAll others) =
        (view.encode query params).insertAll others ∧
      view.encode query params =
        KeyMap.ofList [("Page", "x"), ("page", "3"), ("status", "running,,queued")] ∧
      (view.encode query params).get? "Page" = params.get? "Page" := by
  intro view params others query
  have valid : view.Valid := by decide
  have foreign : ∀ entry ∈ others, view.owns entry.1 = false := by decide
  have near : view.owns "Page" = false := by decide
  obtain ⟨unseen, untouched, stays⟩ := foreign_untouched valid params query others foreign
  refine ⟨valid, foreign, unseen, ?_, untouched, ?_, stays "Page" near⟩
  · decide
  · decide

end View

end QuerySync
