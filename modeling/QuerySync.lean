import QuerySync.Dashboard
import QuerySync.Dashboard.Environment
import QuerySync.Entity
import QuerySync.Event
import QuerySync.Execution.Phase
import QuerySync.Execution.Summary
import QuerySync.Executor
import QuerySync.Fault
import QuerySync.Form.Pairs
import QuerySync.Form.Percent
import QuerySync.Json.Decoder
import QuerySync.Json.Records
import QuerySync.Json.Token
import QuerySync.Json.Value
import QuerySync.Json.Written
import QuerySync.KeyMap
import QuerySync.Liveness
import QuerySync.Page
import QuerySync.Params
import QuerySync.Params.Names
import QuerySync.Params.Store
import QuerySync.Poll.Action
import QuerySync.Poll.Period
import QuerySync.Poll.Polling
import QuerySync.Poll.Scheduler
import QuerySync.Proofs.Dashboard
import QuerySync.Proofs.EventLog
import QuerySync.Proofs.Execution.Phase
import QuerySync.Proofs.Executor
import QuerySync.Proofs.Executor.Clock
import QuerySync.Proofs.Executor.Settling
import QuerySync.Proofs.Form.RoundTrip
import QuerySync.Proofs.Liveness
import QuerySync.Proofs.Poll.Deadlines
import QuerySync.Proofs.Poll.Pace
import QuerySync.Proofs.Poll.Period
import QuerySync.Proofs.Poll.Scheduler
import QuerySync.Proofs.Poll.Settling
import QuerySync.Proofs.Poll.Timer
import QuerySync.Proofs.Poll.Turns
import QuerySync.Proofs.Request.Conservation
import QuerySync.Proofs.Request.Controller
import QuerySync.Proofs.Request.Fetching
import QuerySync.Proofs.Request.Interleaving
import QuerySync.Proofs.Request.Turns
import QuerySync.Proofs.Settings
import QuerySync.Proofs.Status
import QuerySync.Proofs.Synchronizer.Accounted
import QuerySync.Proofs.Synchronizer.Agreement
import QuerySync.Proofs.Synchronizer.Changes
import QuerySync.Proofs.Synchronizer.Coherence
import QuerySync.Proofs.Synchronizer.Disposed
import QuerySync.Proofs.Synchronizer.Edits
import QuerySync.Proofs.Synchronizer.Log
import QuerySync.Proofs.Synchronizer.Noticing
import QuerySync.Proofs.Synchronizer.Owners
import QuerySync.Proofs.Synchronizer.Phases
import QuerySync.Proofs.Synchronizer.Runs
import QuerySync.Proofs.Synchronizer.Settling
import QuerySync.Proofs.Synchronizer.Sound
import QuerySync.Proofs.Synchronizer.Steady
import QuerySync.Proofs.Synchronizer.Steps
import QuerySync.Proofs.Synchronizer.Turns
import QuerySync.Proofs.Synchronizer.Visible
import QuerySync.Proofs.View.Assignment
import QuerySync.Proofs.View.Canonical
import QuerySync.Proofs.View.Edits
import QuerySync.Proofs.View.Encoding
import QuerySync.Proofs.View.Foreign
import QuerySync.Proofs.View.Frame
import QuerySync.Proofs.View.Independence
import QuerySync.Proofs.View.LastPage
import QuerySync.Proofs.View.Location
import QuerySync.Proofs.View.Malformed
import QuerySync.Proofs.View.Minimal
import QuerySync.Proofs.View.Parts
import QuerySync.Proofs.View.Reencoding
import QuerySync.Proofs.View.RoundTrip
import QuerySync.Proofs.View.Sorting
import QuerySync.Query
import QuerySync.Request.Action
import QuerySync.Request.Controller
import QuerySync.Request.Run
import QuerySync.Request.Transport
import QuerySync.Settings
import QuerySync.Settings.Entry
import QuerySync.Settings.Value
import QuerySync.Status
import QuerySync.Synchronizer
import QuerySync.Synchronizer.Action
import QuerySync.Synchronizer.Snapshot
import QuerySync.Synchronizer.Tasks
import QuerySync.Text.Alphanumeric
import QuerySync.Text.Blank
import QuerySync.Text.Numeral
import QuerySync.Text.Tokens
import QuerySync.Text.Utf8
import QuerySync.View
import QuerySync.View.Decoding
import QuerySync.View.Edit
import QuerySync.View.Encoding
import QuerySync.View.Problem
