import QuerySync.Proofs.View.Edits
import QuerySync.Proofs.View.Parts
import QuerySync.Proofs.View.Reencoding

/-!
# Edits of different parts

Two edits of different parts may be done in either order, and the location is the same in the end,
with the same texts (`View.perform_comm`).

The query is the same since each edit leaves the part of the other, and sees its own part as it was
(`apply_comm`).  That goes for the texts too, as nothing is left of the location in between
(`perform_perform`).  A field that the second edit does not change is either one that the first edit
set, and then it stands there as the second edit wants it, or one that the first edit left, and then
its old text is still there.
-/

namespace QuerySync.View

variable {view : View} {query : Query} {first second : Edit}

/-! ## The query -/

/-- The order of two edits does not matter for the page: both go back to the first one, unless
they are ignored. -/
theorem pageIndex_apply_comm (valid : view.Valid) (canonical : view.Canonical query)
    (firstStays : ¬ first.Addresses .page) (secondStays : ¬ second.Addresses .page) :
    (view.apply (view.apply query first) second).pageIndex =
      (view.apply (view.apply query second) first).pageIndex := by
  by_cases firstIgnored : view.Ignores first
  · rw [apply_of_ignores valid canonical firstIgnored,
      apply_of_ignores valid (apply_canonical valid _ _) firstIgnored]
  by_cases secondIgnored : view.Ignores second
  · rw [apply_of_ignores valid canonical secondIgnored,
      apply_of_ignores valid (apply_canonical valid _ _) secondIgnored]
  rw [pageIndex_apply valid (Edit.resetsPage_of_not_addresses secondStays) secondIgnored,
    pageIndex_apply valid (Edit.resetsPage_of_not_addresses firstStays) firstIgnored]

section
variable (valid : view.Valid) (firstStays : ¬ first.Addresses .page)
  (secondStays : ¬ second.Addresses .page)
  (independent : ∀ part, first.Addresses part → ¬ second.Addresses part)
include valid firstStays secondStays independent

/-- Edits of different parts of a query commute. -/
theorem apply_comm (canonical : view.Canonical query) :
    view.apply (view.apply query first) second = view.apply (view.apply query second) first := by
  have afterFirst := apply_canonical valid query first
  have afterSecond := apply_canonical valid query second
  refine Query.ext_part fun part => ?_
  by_cases isPage : part = .page
  · rw [isPage]
    exact pageIndex_apply_comm valid canonical firstStays secondStays
  by_cases addressed : first.Addresses part
  · have leaves := independent part addressed
    rw [part_apply_of_not_addresses valid afterFirst leaves isPage]
    refine part_apply_congr valid canonical afterSecond ?_ isPage
    exact (part_apply_of_not_addresses valid canonical leaves isPage).symm
  · rw [part_apply_of_not_addresses valid afterSecond addressed isPage]
    refine part_apply_congr valid afterFirst canonical ?_ isPage
    exact part_apply_of_not_addresses valid canonical addressed isPage

/-! ## The location -/

/-- A part that two edits leave as it was before was left by the first one. -/
theorem part_apply_of_apply_apply (canonical : view.Canonical query) (part : Query.Part)
    (same : query.part part = (view.apply (view.apply query first) second).part part) :
    (view.apply query first).part part =
      (view.apply (view.apply query first) second).part part := by
  have afterFirst := apply_canonical valid query first
  by_cases isPage : part = .page
  · subst isPage
    by_cases secondIgnored : view.Ignores second
    · rw [apply_of_ignores valid afterFirst secondIgnored]
    by_cases firstIgnored : view.Ignores first
    · rw [apply_of_ignores valid canonical firstIgnored] at same ⊢
      exact same
    · have firstPage : (view.apply query first).pageIndex = 0 :=
        pageIndex_apply valid (Edit.resetsPage_of_not_addresses firstStays) firstIgnored
      have secondPage : (view.apply (view.apply query first) second).pageIndex = 0 :=
        pageIndex_apply valid (Edit.resetsPage_of_not_addresses secondStays) secondIgnored
      exact firstPage.trans secondPage.symm
  by_cases addressed : first.Addresses part
  · exact (part_apply_of_not_addresses valid afterFirst (independent part addressed) isPage).symm
  · rw [part_apply_of_not_addresses valid canonical addressed isPage]
    exact same

/-- Of two edits of different parts, nothing is left of the location in between. -/
theorem perform_perform (params : Params) :
    view.perform (view.perform params first) second =
      view.encode (view.apply (view.apply (view.decode params) first) second) params := by
  have canonical := decode_canonical valid params
  have between := part_apply_of_apply_apply valid firstStays secondStays independent canonical
  rw [perform, decode_perform valid, perform]
  refine encode_encode_of_spares valid ?_
  rw [normalize_of_canonical valid (apply_canonical valid _ _),
    normalize_of_canonical valid (apply_canonical valid _ _)]
  exact ⟨fun key => between (.filter key), between .page, between .pageSize⟩

/-- Two edits of different parts give the same location in either order, to the letter. -/
theorem perform_comm (params : Params) :
    view.perform (view.perform params first) second =
      view.perform (view.perform params second) first := by
  have symmetric : ∀ part, second.Addresses part → ¬ first.Addresses part :=
    fun part addressed isFirst => independent part isFirst addressed
  rw [perform_perform valid firstStays secondStays independent,
    perform_perform valid secondStays firstStays symmetric,
    apply_comm valid firstStays secondStays independent (decode_canonical valid params)]

end

/-- The sort is turned, which leaves no trace of it, and a filter is set to what it is, which keeps
its odd spelling.  The locations in between differ. -/
theorem perform_comm_oddly_spelled :
    let view := preset "executions" .execution
    let params := KeyMap.ofList [("descending", "false"), ("page", "+03"),
      ("status", "running,,queued"), ("utm", " x")]
    let turn := Edit.sortBy "created_at"
    let narrow := Edit.setFilter "status" ["running", " queued"]
    view.Valid ∧ ¬ turn.Addresses .page ∧ ¬ narrow.Addresses .page ∧
      (∀ part, turn.Addresses part → ¬ narrow.Addresses part) ∧
      view.perform (view.perform params turn) narrow =
        view.perform (view.perform params narrow) turn ∧
      view.perform params turn =
        KeyMap.ofList [("status", "running,,queued"), ("utm", " x")] ∧
      view.perform params narrow =
        KeyMap.ofList [("descending", "false"), ("sort_by", "created_at"),
          ("status", "running,,queued"), ("utm", " x")] ∧
      view.perform (view.perform params narrow) turn =
        KeyMap.ofList [("status", "running,,queued"), ("utm", " x")] := by
  intro view params turn narrow
  have valid : view.Valid := by decide
  have turnStays : ¬ turn.Addresses .page := nofun
  have narrowStays : ¬ narrow.Addresses .page := nofun
  have independent : ∀ part, turn.Addresses part → ¬ narrow.Addresses part := by
    rintro _ rfl
    exact nofun
  refine ⟨valid, turnStays, narrowStays, independent,
    perform_comm valid turnStays narrowStays independent params, ?_, ?_, ?_⟩
  · decide
  · decide
  · decide

end QuerySync.View
