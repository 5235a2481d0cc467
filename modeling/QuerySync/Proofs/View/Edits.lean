import QuerySync.Proofs.View.Reencoding

/-!
# Edits of a location

An edit of a location shows what the edit of its query gives (`decode_perform`), and so do any
number of edits (`decode_foldl_perform`).  No edit touches a parameter of anybody else
(`get?_perform_of_not_owns`).

An edit leaves a location tidy, and the next one changes such a location exactly when it changes
the query (`perform_eq_self_iff`).
-/

namespace QuerySync.View

variable {view : View}

/-- Performing an edit on parameters is applying it to the query they show. -/
theorem decode_perform (valid : view.Valid) (params : Params) (edit : Edit) :
    view.decode (view.perform params edit) = view.apply (view.decode params) edit :=
  decode_encode_of_canonical valid (apply_canonical valid _ edit) params

/-- An edit leaves the parameters of others alone. -/
theorem get?_perform_of_not_owns (valid : view.Valid) {key : String}
    (foreign : view.owns key = false) (params : Params) (edit : Edit) :
    (view.perform params edit).get? key = params.get? key :=
  get?_encode_of_not_owns valid _ params foreign

/-- Any number of edits, by `decode_perform` at each. -/
theorem decode_foldl_perform (valid : view.Valid) (params : Params) (edits : List Edit) :
    view.decode (edits.foldl view.perform params) =
      edits.foldl view.apply (view.decode params) := by
  induction edits generalizing params with
  | nil => rfl
  | cons edit edits induction =>
    rw [List.foldl_cons, induction, decode_perform valid, List.foldl_cons]

/-! ## Tidy locations -/

theorem tidy_perform (valid : view.Valid) (params : Params) (edit : Edit) :
    view.Tidy (view.perform params edit) :=
  tidy_encode valid _ params

/-- An edit leaves a tidy location as it is exactly when it leaves the query as it is. -/
theorem perform_eq_self_iff (valid : view.Valid) {params : Params} (tidy : view.Tidy params)
    (edit : Edit) :
    view.perform params edit = params ↔
      view.apply (view.decode params) edit = view.decode params := by
  constructor
  · intro same
    rw [← decode_perform valid, same]
  · intro same
    rw [perform, same]
    exact tidy

end QuerySync.View
