import QuerySync.Proofs.Form.RoundTrip
import QuerySync.Proofs.View.RoundTrip

/-!
# Locations are read back

What is written of parameters is read as the same parameters, with or without its question mark
and whatever characters the names and values have, and so a query survives the way through the
text of a location (`location_reads_back`).

Reading drops one question mark at the front.  What is written never begins with one of its own,
so nothing of the first name is lost.
-/

namespace QuerySync

namespace Params

/-- A map is that of its entries. -/
theorem ofList_entries (params : Params) : KeyMap.ofList params.entries = params := by
  ext1 key
  have found := KeyMap.get?_insertAll_entries (.empty : Params) params (fun _ text => text) key
  rw [List.map_id', KeyMap.get?_empty, Option.or_none, Option.map_id'] at found
  exact found

/-- Only a leading question mark is dropped. -/
theorem dropQuestionMark_of_head?_ne {text : String} (unmarked : text.toList.head? ≠ some '?') :
    dropQuestionMark text = text := by
  unfold dropQuestionMark
  split
  next rest marked =>
    rw [marked] at unmarked
    exact absurd rfl unmarked
  next => rfl

theorem dropQuestionMark_append (text : String) : dropQuestionMark ("?" ++ text) = text := by
  have marked : ("?" ++ text).toList = '?' :: text.toList := String.toList_append
  rw [dropQuestionMark, marked]
  exact String.ofList_toList

/-- A location that is written is read back, whatever its names and texts. -/
theorem parse_toQueryString (params : Params) : parse params.toQueryString = params := by
  rw [parse, toQueryString, dropQuestionMark_of_head?_ne (Form.head?_write_ne _), Form.read_write]
  exact ofList_entries params

/-- The leading question mark that is shown with a location is dropped again. -/
theorem parse_display (params : Params) : parse params.display = params := by
  unfold display
  split
  next isEmpty =>
    have none : params.entries = [] := List.isEmpty_iff.1 isEmpty
    have empty : params.toQueryString = "" := by
      rw [toQueryString, none]
      rfl
    rw [← empty]
    exact parse_toQueryString params
  next =>
    rw [parse, dropQuestionMark_append, toQueryString, Form.read_write]
    exact ofList_entries params

end Params

namespace View

/-- Parameters are read back from the query text and from the query part of their location.  So
whatever the location was, a query that is written to it is read back from the text in its normal
form. -/
theorem location_reads_back :
    (∀ params : Params, Params.parse params.toQueryString = params ∧
      Params.parse params.display = params) ∧
    ∀ view : View, view.Valid → ∀ (query : Query) (text : String),
      let written := view.encode query (Params.parse text)
      view.decode (Params.parse written.toQueryString) = view.normalize query := by
  refine ⟨fun params => ⟨Params.parse_toQueryString params, Params.parse_display params⟩, ?_⟩
  intro view valid query text written
  rw [Params.parse_toQueryString]
  calc view.decode written
      = view.decode (view.encode (view.normalize query) (Params.parse text)) := by
        rw [encode_normalize valid]
    _ = view.normalize query :=
        decode_encode_of_canonical valid (normalize_canonical valid query) _

/-- Names and values with separators, with an escape that is none and with signs of two bytes, and
a pair of empty texts.  The location that the query is written to is malformed. -/
theorem location_reads_back_separators :
    let params : Params := KeyMap.ofList [("", ""), ("?a&b", "1=2+3 %4"), ("é", "日")]
    let view := preset "executions" .execution
    let query : Query := { search := some "?x=1&y", pageSize := 30 }
    params.toQueryString = "=&%3Fa%26b=1%3D2%2B3+%254&%C3%A9=%E6%97%A5" ∧
      Params.parse params.toQueryString = params ∧ view.Valid ∧
      view.decode (Params.parse
        (view.encode query (Params.parse "??q=%zz&page=0&&=")).toQueryString) =
        view.normalize query := by
  intro params view query
  have valid : view.Valid := by decide
  obtain ⟨reads, survives⟩ := location_reads_back
  exact ⟨by decide, (reads params).1, valid, survives view valid query _⟩

end View

end QuerySync
