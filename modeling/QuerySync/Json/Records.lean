import QuerySync.Execution.Summary
import QuerySync.Json.Decoder
import QuerySync.Json.Written
import QuerySync.Query
import QuerySync.View

/-!
# Records in JSON

The decoders of views, queries and summaries of executions, and the text of a
summary.  The names of the fields are in the order in which an array holds them.
-/

namespace QuerySync

/-! ## Views -/

/-- A kind of entity. -/
def EntityKind.ofJson? : Json.Decoder EntityKind := .name ofName?

/-- A sort. -/
def SortOrder.ofJson? : Json.Decoder SortOrder := fun value => do
  let fields ← Json.Fields.of? ["field", "descending"] value
  return {
    field := ← fields.required "field" .text
    descending := ← fields.orDefault "descending" .bool false }

/-- A view.  All but the name has a default. -/
def View.ofJson? : Json.Decoder View := fun value => do
  let fields ← Json.Fields.of?
    ["name", "entity", "default_page_size", "allowed_page_sizes", "default_sort", "filter_keys",
      "poll_interval_ms", "in_progress_statuses"] value
  let plain : View := { name := ← fields.required "name" .text }
  return { plain with
    entity := ← fields.orDefault "entity" (.nullable EntityKind.ofJson?) plain.entity
    defaultPageSize := ← fields.orDefault "default_page_size" .word32 plain.defaultPageSize
    allowedPageSizes :=
      ← fields.orDefault "allowed_page_sizes" (.list .word32) plain.allowedPageSizes
    defaultSort := ← fields.orDefault "default_sort" (.nullable SortOrder.ofJson?) plain.defaultSort
    filterKeys := ← fields.orDefault "filter_keys" (.list .text) plain.filterKeys
    pollInterval := ← fields.orDefault "poll_interval_ms" .word64 plain.pollInterval
    inProgressStatuses :=
      ← fields.orDefault "in_progress_statuses" (.list .text) plain.inProgressStatuses }

/-! ## Queries -/

/-- A query. -/
def Query.ofJson? : Json.Decoder Query := fun value => do
  let fields ← Json.Fields.of?
    ["free_text_query", "sort_field", "sort_descending", "filters", "page_index", "page_size"] value
  return {
    search := ← fields.nullable "free_text_query" .text
    sortField := ← fields.nullable "sort_field" .text
    descending := ← fields.required "sort_descending" .bool
    filters := ← fields.required "filters" (.map (.list .text))
    pageIndex := ← fields.required "page_index" .word32
    pageSize := ← fields.required "page_size" .word32 }

/-! ## Summaries of executions -/

/-- A phase. -/
def Phase.ofJson? : Json.Decoder Phase := .name ofName?

namespace ExecutionSummary

/-- A summary. -/
def ofJson? : Json.Decoder ExecutionSummary := fun value => do
  let fields ← Json.Fields.of? ["name", "project", "domain", "phase", "created_at_ms"] value
  return {
    name := ← fields.required "name" .text
    project := ← fields.required "project" .text
    domain := ← fields.required "domain" .text
    phase := ← fields.required "phase" Phase.ofJson?
    createdAt := ← fields.required "created_at_ms" .word128 }

/-- The JSON text of a summary. -/
def toJsonText (summary : ExecutionSummary) : String :=
  Json.writtenObject
    [("name", Json.quoted summary.name), ("project", Json.quoted summary.project),
      ("domain", Json.quoted summary.domain), ("phase", Json.quoted summary.phase.name),
      ("created_at_ms", toString summary.createdAt.toNat)]

end ExecutionSummary

end QuerySync
