import QuerySync.Proofs.View.Minimal

/-!
# Malformed parameters

Anybody may type anything into a location.  What a view cannot read there counts as absent
(`View.malformed_absent`): one such parameter may be taken out and the location shows the same
query, and if there is nothing else of the view's, it shows what it would show without parameters.

Which texts are malformed is said here by what they look like (`View.Malformed`), and each reader of
a field then has its lemma that such a text has no reading.  The rest of the argument is that every
field is read from the readings of its own parameters alone, so that two locations show the same
query if they differ in unreadable parameters only (`decode_eq_of_saysAlike`).
-/

namespace QuerySync

namespace View

open Text.Numeral (Spells)

/-- A text that the view cannot read as the value of one of its parameters. -/
structure Malformed (view : View) (key text : String) : Prop where
  /-- The parameter is the view's. -/
  owned : view.owns key = true
  /-- A search of white space. -/
  search : key = ParamName.search → Text.isBlank text = true
  /-- A sort field of white space. -/
  sortBy : key = ParamName.sortBy → Text.isBlank text = true
  /-- A direction in other words. -/
  descending : key = ParamName.descending → text ≠ "true" ∧ text ≠ "false"
  /-- A page that is no number, has too many bits, or is zero. -/
  page : key = ParamName.page →
    ∀ number : UInt32, Spells (Text.trim text) number.toNat → number = 0
  /-- A page size that is no number, has too many bits, or is not allowed. -/
  pageSize : key = ParamName.pageSize →
    ∀ size : UInt32, Spells (Text.trim text) size.toNat → size ∉ view.allowedPageSizes
  /-- A filter with white space and commas alone. -/
  filter : view.isFilterKey key = true →
    ∀ part ∈ text.toList.splitOn ',', ∀ c ∈ part, Text.isSpace c = true

/-- A parameter is absent or malformed. -/
def Unsaid (view : View) (params : Params) (key : String) : Prop :=
  ∀ text, params.get? key = some text → view.Malformed key text

/-- Two locations differ in what is absent or malformed alone, as far as the view is concerned. -/
def SaysAlike (view : View) (params other : Params) : Prop :=
  ∀ key, view.owns key = true →
    params.get? key = other.get? key ∨ view.Unsaid params key ∧ view.Unsaid other key

variable {view : View} {params other : Params} {key text : String}

/-- A malformed text is recognised from what is read, since the numbers it might spell are too many
to try. -/
theorem malformed_iff :
    view.Malformed key text ↔ view.owns key = true ∧
      (key = ParamName.search → Text.isBlank text = true) ∧
      (key = ParamName.sortBy → Text.isBlank text = true) ∧
      (key = ParamName.descending → text ≠ "true" ∧ text ≠ "false") ∧
      (key = ParamName.page →
        (Text.Numeral.readUInt32? (Text.trim text)).all (· = 0) = true) ∧
      (key = ParamName.pageSize →
        (Text.Numeral.readUInt32? (Text.trim text)).all (· ∉ view.allowedPageSizes) = true) ∧
      (view.isFilterKey key = true →
        (text.toList.splitOn ',').all (fun part => part.all Text.isSpace) = true) := by
  simp only [Option.all_eq_true, List.all_eq_true, decide_eq_true_iff,
    Text.Numeral.readUInt32?_eq_some_iff]
  constructor
  · rintro ⟨owned, search, sortBy, descending, page, pageSize, filter⟩
    exact ⟨owned, search, sortBy, descending, page, pageSize, filter⟩
  · rintro ⟨owned, search, sortBy, descending, page, pageSize, filter⟩
    exact ⟨owned, search, sortBy, descending, page, pageSize, filter⟩

instance (view : View) (key text : String) : Decidable (view.Malformed key text) :=
  decidable_of_iff _ malformed_iff.symm

/-! ## What has no reading -/

theorem nonblank?_of_isBlank (blank : Text.isBlank text = true) : Text.nonblank? text = none :=
  if_pos blank

theorem direction?_of_malformed (malformed : view.Malformed ParamName.descending text) :
    direction? text = none := by
  obtain ⟨notTrue, notFalse⟩ := malformed.descending rfl
  rw [direction?, if_neg notTrue, if_neg notFalse]

theorem pageIndex?_of_malformed (malformed : view.Malformed ParamName.page text) :
    pageIndex? text = none := by
  cases read : pageIndex? text with
  | none => rfl
  | some index =>
    obtain ⟨number, filtered, -⟩ := Option.map_eq_some_iff.1 read
    obtain ⟨reads, positive⟩ := Option.filter_eq_some_iff.1 filtered
    have zero := malformed.page rfl number (Text.Numeral.readUInt32?_eq_some_iff.1 reads)
    rw [zero] at positive
    exact absurd positive (by decide)

theorem pageSize?_of_malformed (valid : view.Valid)
    (malformed : view.Malformed ParamName.pageSize text) : view.pageSize? text = none := by
  cases read : view.pageSize? text with
  | none => rfl
  | some size =>
    obtain ⟨reads, -⟩ := Option.filter_eq_some_iff.1 read
    have allowed := pageSize?_mem read
    rw [valid.pageSizes_eq] at allowed
    exact absurd allowed
      (malformed.pageSize rfl size (Text.Numeral.readUInt32?_eq_some_iff.1 reads))

theorem tokens_of_malformed (isFilter : view.isFilterKey key = true)
    (malformed : view.Malformed key text) : Text.tokens text = [] := by
  refine List.filter_eq_nil_iff.2 fun token member => ?_
  obtain ⟨part, inText, rfl⟩ := List.mem_map.1 member
  have blank := List.all_eq_true.2 (malformed.filter isFilter part inText)
  rw [Text.trimChars_eq_nil_iff.2 blank]
  decide

/-! ## Reading what is left -/

/-- A parameter that both locations say alike has one reading in both, or none. -/
theorem bind_congr_of_saysAlike {β : Type} {read : String → Option β}
    (alike : view.SaysAlike params other) (owned : view.owns key = true)
    (unread : ∀ text, view.Malformed key text → read text = none) :
    (params.get? key).bind read = (other.get? key).bind read := by
  have none_of_unsaid {location : Params} (unsaid : view.Unsaid location key) :
      (location.get? key).bind read = none :=
    Option.bind_eq_none_iff.2 fun text given => unread text (unsaid text given)
  rcases alike key owned with same | ⟨unsaid, otherUnsaid⟩
  · rw [same]
  · rw [none_of_unsaid unsaid, none_of_unsaid otherUnsaid]

/-- What is absent or malformed makes no difference to what a location shows. -/
theorem decode_eq_of_saysAlike (valid : view.Valid) (alike : view.SaysAlike params other) :
    view.decode params = view.decode other := by
  have owned {name : String} (reserved : name ∈ ParamName.reserved) : view.owns name = true :=
    owns_of_mem_reserved reserved
  have search : textParam? params ParamName.search = textParam? other ParamName.search :=
    bind_congr_of_saysAlike alike (owned (by decide)) fun _ malformed =>
      nonblank?_of_isBlank (malformed.search rfl)
  have sortBy : textParam? params ParamName.sortBy = textParam? other ParamName.sortBy :=
    bind_congr_of_saysAlike alike (owned (by decide)) fun _ malformed =>
      nonblank?_of_isBlank (malformed.sortBy rfl)
  have direction : view.direction params = view.direction other := by
    funext field
    rw [View.direction, View.direction, bind_congr_of_saysAlike alike (owned (by decide))
      fun _ => direction?_of_malformed]
  have filters : view.filtersOf Text.tokens params = view.filtersOf Text.tokens other := by
    ext1 key
    rw [get?_filtersOf, get?_filtersOf]
    split
    next isFilter =>
      refine bind_congr_of_saysAlike alike (owns_iff.2 (.inr isFilter)) fun _ malformed => ?_
      rw [tokens_of_malformed isFilter malformed]
      rfl
    next => rfl
  have page : (params.get? ParamName.page).bind pageIndex? =
      (other.get? ParamName.page).bind pageIndex? :=
    bind_congr_of_saysAlike alike (owned (by decide)) fun _ => pageIndex?_of_malformed
  have pageSize : (params.get? ParamName.pageSize).bind view.pageSize? =
      (other.get? ParamName.pageSize).bind view.pageSize? :=
    bind_congr_of_saysAlike alike (owned (by decide)) fun _ => pageSize?_of_malformed valid
  rw [decode, decode, search, sortBy, direction, filters, page, pageSize]

/-- Taking a malformed parameter out leaves what the others say. -/
theorem saysAlike_erase (malformed : view.Malformed key text)
    (given : params.get? key = some text) : view.SaysAlike params (params.erase key) := by
  intro name _
  rw [KeyMap.get?_erase]
  split
  next same =>
    refine .inr ⟨fun value found => ?_, fun value found => ?_⟩
    · rw [same, given] at found
      exact same ▸ Option.some.inj found ▸ malformed
    · rw [KeyMap.get?_erase, if_pos same] at found
      cases found
  next => exact .inl rfl

/-- Nothing is written onto a location that shows the defaults. -/
theorem encode_eq_filterKeys (valid : view.Valid) (shown : view.decode params = view.defaults) :
    view.encode (view.decode params) params = params.filterKeys fun key => !view.owns key := by
  have normal : view.decode .empty = view.normalize (view.decode params) := by
    rw [normalize_of_canonical valid (decode_canonical valid params), shown, defaults]
  ext1 key
  rw [KeyMap.get?_filterKeys]
  cases owned : view.owns key with
  | false =>
    rw [get?_encode_of_not_owns valid _ params owned]
    rfl
  | true =>
    -- what is written would be in the empty location too, which shows the same
    refine Option.not_isSome_iff_eq_none.1 fun written => ?_
    exact Bool.false_ne_true (contains_of_contains_encode valid normal id owned written)

/-- A parameter that is malformed counts as absent.  If each parameter of the view is, the view
shows its defaults, and writes none of them. -/
theorem malformed_absent (valid : view.Valid) (params : Params) :
    (∀ key text, params.get? key = some text → view.Malformed key text →
      view.decode params = view.decode (params.erase key)) ∧
    ((∀ key text, view.owns key = true → params.get? key = some text → view.Malformed key text) →
      view.decode params = view.defaults ∧
        view.encode (view.decode params) params = params.filterKeys fun key => !view.owns key) := by
  refine ⟨fun key text given malformed => ?_, fun malformed => ?_⟩
  · exact decode_eq_of_saysAlike valid (saysAlike_erase malformed given)
  · have alike : view.SaysAlike params .empty := fun key owned =>
      .inr ⟨fun text given => malformed key text owned given, nofun⟩
    have shown : view.decode params = view.defaults := decode_eq_of_saysAlike valid alike
    exact ⟨shown, encode_eq_filterKeys valid shown⟩

/-- Every parameter malformed at once, next to one of somebody else; and a blank sort field beside
a direction, which is then one of the default field. -/
theorem malformed_absent_everywhere :
    let view := preset "executions" .execution
    let params := KeyMap.ofList [("descending", "True"), ("page", " 4294967296"), ("q", "\u2003"),
      ("rows_per_page", "30"), ("sort_by", ""), ("status", " ,\u00A0,"), ("tab", "graph")]
    let sorted := KeyMap.ofList [("descending", "false"), ("page", "-1"), ("sort_by", "\t")]
    view.Valid ∧
      (sorted.get? "sort_by" = some "\t" ∧ view.Malformed "sort_by" "\t" ∧
        view.decode sorted = view.decode (sorted.erase "sort_by") ∧
        (view.decode sorted).sortField = some "created_at" ∧
        (view.decode sorted).descending = false) ∧
      (∀ key text, view.owns key = true → params.get? key = some text →
        view.Malformed key text) ∧
      view.decode params = view.defaults ∧
      view.encode (view.decode params) params = KeyMap.ofList [("tab", "graph")] := by
  intro view params sorted
  have valid : view.Valid := by decide
  have blank : view.Malformed "sort_by" "\t" := by decide
  have absent : view.decode sorted = view.decode (sorted.erase "sort_by") :=
    (malformed_absent valid sorted).1 "sort_by" "\t" rfl blank
  have entries : ∀ entry ∈ params.entries, view.owns entry.1 = true →
      view.Malformed entry.1 entry.2 := by decide
  have malformed : ∀ key text, view.owns key = true → params.get? key = some text →
      view.Malformed key text :=
    fun key text owned given => entries (key, text) (KeyMap.mem_entries_of_get? given) owned
  obtain ⟨shown, written⟩ := (malformed_absent valid params).2 malformed
  refine ⟨valid, ⟨rfl, blank, absent, ?_, ?_⟩, malformed, shown, written.trans ?_⟩
  · decide
  · decide
  · decide

end View

end QuerySync
