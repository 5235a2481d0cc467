import QuerySync.Proofs.View.Edits
import QuerySync.Proofs.View.Frame
import QuerySync.Proofs.View.Reencoding

/-!
# Turning the sort of a location

Sorting on the field that a location sorts on already turns the direction, and doing so twice gives
the location back as it was, but for the page and for what says nothing (`View.sort_turns`).  This
is about the parameters themselves, old spellings included.

The view does not write a direction that is the default one of its field, nor its own field without
a direction, so of the two directions of that field one leaves no trace.  Nothing is lost on the way
all the same.  What is written of a sort depends on the sort alone, and the turned sort in between
leaves every other field as it is.
-/

namespace QuerySync.View

variable {view : View} {params : Params} {field : String}

theorem decode_perform_sortBy_again (valid : view.Valid)
    (sorted : (view.decode params).sortField = some field) :
    view.decode (view.perform params (.sortBy field)) =
      { view.decode params with
        descending := !(view.decode params).descending
        pageIndex := 0 } :=
  (decode_perform valid params _).trans
    (apply_sortBy_again valid (decode_canonical valid params) sorted)

theorem decode_perform_sortBy_else (valid : view.Valid) (visible : Text.isBlank field = false)
    (different : (view.decode params).sortField ≠ some field) :
    view.decode (view.perform params (.sortBy field)) =
      { view.decode params with sortField := some field, descending := false, pageIndex := 0 } :=
  (decode_perform valid params _).trans
    (apply_sortBy_else valid (decode_canonical valid params) visible different)

/-- Turning the sort twice is going to the first page. -/
theorem perform_sortBy_twice (valid : view.Valid)
    (sorted : (view.decode params).sortField = some field) :
    view.perform (view.perform params (.sortBy field)) (.sortBy field) =
      view.encode { view.decode params with pageIndex := 0 } params := by
  have canonical := decode_canonical valid params
  have turned := decode_perform_sortBy_again valid sorted
  have turnedBack : view.apply (view.decode (view.perform params (.sortBy field))) (.sortBy field) =
      { view.decode params with pageIndex := 0 } := by
    have again := apply_sortBy_again valid (decode_canonical valid _)
      ((congrArg Query.sortField turned).trans sorted)
    rw [again, turned, Bool.not_not]
  have between : view.normalize (view.apply (view.decode params) (.sortBy field)) =
      { view.decode params with
        descending := !(view.decode params).descending
        pageIndex := 0 } := by
    rw [normalize_of_canonical valid (apply_canonical valid _ _),
      apply_sortBy_again valid canonical sorted]
  have first : view.normalize { view.decode params with pageIndex := 0 } =
      { view.decode params with pageIndex := 0 } := by
    rw [← turnedBack]
    exact normalize_of_canonical valid (apply_canonical valid _ _)
  calc view.perform (view.perform params (.sortBy field)) (.sortBy field)
      = view.encode { view.decode params with pageIndex := 0 }
          (view.encode (view.apply (view.decode params) (.sortBy field)) params) := by
        rw [perform, turnedBack, perform]
    _ = view.encode { view.decode params with pageIndex := 0 } params := by
        refine encode_encode_of_spares valid ?_
        rw [between, first]
        exact ⟨fun _ => id, fun _ => rfl, id⟩

/-- A location that sorts on a field turns its direction when it is sorted on that field, and comes
back when it is so again.  Sorted on any other field that can be seen, it sorts on that one
ascending, also where the view sorts on it descending by default. -/
theorem sort_turns (valid : view.Valid) (params : Params) :
    let shown := view.decode params
    (∀ field, shown.sortField = some field →
      view.decode (view.perform params (.sortBy field)) =
        { shown with sortField := some field, descending := !shown.descending, pageIndex := 0 } ∧
      view.perform (view.perform params (.sortBy field)) (.sortBy field) =
        view.encode { shown with pageIndex := 0 } params) ∧
    ∀ field, Text.isBlank field = false → shown.sortField ≠ some field →
      view.decode (view.perform params (.sortBy field)) =
        { shown with sortField := some field, descending := false, pageIndex := 0 } := by
  intro shown
  refine ⟨fun field sorted => ⟨?_, perform_sortBy_twice valid sorted⟩,
    fun field visible different => decode_perform_sortBy_else valid visible different⟩
  rw [decode_perform_sortBy_again valid sorted, ← sorted]

/-- A view that sorts on a field descending by default, and a location that turns it without naming
the field.  Turned once, the sort leaves no trace, and turned again it is named.  The filter keeps
its odd spelling.  From another field the view comes to its own one ascending. -/
theorem sort_turns_default_field :
    let view := preset "executions" .execution
    let params := KeyMap.ofList [("descending", "false"), ("page", "+03"),
      ("status", "running,,queued"), ("utm", " x")]
    let other := KeyMap.ofList [("sort_by", "name"), ("descending", "true")]
    view.Valid ∧ (view.decode params).sortField = some "created_at" ∧
      view.decode (view.perform params (.sortBy "created_at")) =
        { view.decode params with
          sortField := some "created_at", descending := true, pageIndex := 0 } ∧
      view.perform params (.sortBy "created_at") =
        KeyMap.ofList [("status", "running,,queued"), ("utm", " x")] ∧
      view.perform (view.perform params (.sortBy "created_at")) (.sortBy "created_at") =
        KeyMap.ofList [("descending", "false"), ("sort_by", "created_at"),
          ("status", "running,,queued"), ("utm", " x")] ∧
      (view.decode other).sortField ≠ some "created_at" ∧
      view.decode (view.perform other (.sortBy "created_at")) =
        { view.decode other with
          sortField := some "created_at", descending := false, pageIndex := 0 } := by
  intro view params other
  have valid : view.Valid := by decide
  have sorted : (view.decode params).sortField = some "created_at" := by decide
  have direction : (!(view.decode params).descending) = true := by decide
  have different : (view.decode other).sortField ≠ some "created_at" := by decide
  obtain ⟨turned, back⟩ := (sort_turns valid params).1 "created_at" sorted
  rw [direction] at turned
  have elsewhere := (sort_turns valid other).2 "created_at" (by decide) different
  refine ⟨valid, sorted, turned, ?_, back.trans ?_, different, elsewhere⟩
  · decide
  · decide

end QuerySync.View
