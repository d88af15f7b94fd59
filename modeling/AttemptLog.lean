import AttemptLog.Text.Digits
import AttemptLog.Text.Class
import AttemptLog.Text.Alphanumeric
import AttemptLog.Text.CaseTable
import AttemptLog.Text.Lowercase
import AttemptLog.Text.GraphemeExtend
import AttemptLog.Text.Unprintable
import AttemptLog.Text.Quoted
import AttemptLog.Text.Percent
import AttemptLog.Text.Utf8
import AttemptLog.Text.Base64
import AttemptLog.Spelling
import AttemptLog.Keyed
import AttemptLog.Double
import AttemptLog.Double.Shortest
import AttemptLog.Instant
import AttemptLog.Instant.Text
import AttemptLog.Json.Source
import AttemptLog.Json.Number
import AttemptLog.Json.Skip
import AttemptLog.Json.Value
import AttemptLog.Json.Reader
import AttemptLog.Response
import AttemptLog.Step
import AttemptLog.Step.Reader
import AttemptLog.Failure
import AttemptLog.History
import AttemptLog.Form
import AttemptLog.Program
import AttemptLog.Store
import AttemptLog.Store.Faults
import AttemptLog.Meter
import AttemptLog.Service
import AttemptLog.Web.Request
import AttemptLog.Web.MediaType
import AttemptLog.Web.Credential
import AttemptLog.Web.Route
import AttemptLog.Web.Server
import AttemptLog.Backoff
import AttemptLog.Database.Command
import AttemptLog.Database.Document
import AttemptLog.Database.Store
import AttemptLog.Database.Server
import AttemptLog.Settings.Setting
import AttemptLog.Settings.Toml.Source
import AttemptLog.Settings.Toml.Text
import AttemptLog.Settings.Toml.Number
import AttemptLog.Settings.Toml.Moment
import AttemptLog.Settings.Toml.Table
import AttemptLog.Settings.Toml
import AttemptLog.Settings.Environment
import AttemptLog.Settings.DotEnv
import AttemptLog.Settings.FileTree
import AttemptLog.Settings
import AttemptLog.Settings.Load
import AttemptLog.Proofs.Text.Utf8
import AttemptLog.Proofs.Text.Base64
import AttemptLog.Proofs.Keyed
import AttemptLog.Proofs.Instant.Text
import AttemptLog.Proofs.Json.Text
import AttemptLog.Proofs.Json.Record
import AttemptLog.Proofs.Response
import AttemptLog.Proofs.History.Stored
import AttemptLog.Proofs.History.Flaws
import AttemptLog.Proofs.History.Effect
import AttemptLog.Proofs.History.Version
import AttemptLog.Proofs.History.Closing
import AttemptLog.Proofs.History.Collision
import AttemptLog.Proofs.History.Drafts
import AttemptLog.Proofs.History.Reread
import AttemptLog.Proofs.History.Journal
import AttemptLog.Proofs.History.Described
import AttemptLog.Proofs.History.Autosaves
import AttemptLog.Proofs.Form
import AttemptLog.Proofs.Runs
import AttemptLog.Proofs.Dialogue
import AttemptLog.Proofs.Interleaving
import AttemptLog.Proofs.Restriction
import AttemptLog.Proofs.Trace
import AttemptLog.Proofs.Service.Alone
import AttemptLog.Proofs.Service.Traffic
import AttemptLog.Proofs.Service.Phase
import AttemptLog.Proofs.Service.Moments
import AttemptLog.Proofs.Service.Invariant
import AttemptLog.Proofs.Service.Contents
import AttemptLog.Proofs.Service.Course
import AttemptLog.Proofs.Service.Counts
import AttemptLog.Proofs.Service.Serial
import AttemptLog.Proofs.Service.LastStep
import AttemptLog.Proofs.Service.Permanent
import AttemptLog.Proofs.Service.Orderly
import AttemptLog.Proofs.Service.InTurn
import AttemptLog.Proofs.Service.Apart
import AttemptLog.Proofs.Service.Closed
import AttemptLog.Proofs.Service.CarriedOut
import AttemptLog.Proofs.Service.Saves
import AttemptLog.Proofs.Web.Credential
import AttemptLog.Proofs.Web.Masking
import AttemptLog.Proofs.Web.Served
import AttemptLog.Proofs.Web.Requests
import AttemptLog.Proofs.Web.Traces
import AttemptLog.Proofs.Web.Accepted
import AttemptLog.Proofs.Web.Statuses
import AttemptLog.Proofs.Backoff
import AttemptLog.Proofs.Backoff.Schedule
import AttemptLog.Proofs.Backoff.Overflow
import AttemptLog.Proofs.Database.Retries
import AttemptLog.Proofs.Database.Document
import AttemptLog.Proofs.Database.Cluster
import AttemptLog.Proofs.Database.Standing
import AttemptLog.Proofs.Database.Bodies
import AttemptLog.Proofs.Database.Tables
import AttemptLog.Proofs.Database.Clash
import AttemptLog.Proofs.Database.ExactlyOnce
import AttemptLog.Proofs.Database.Ledger
import AttemptLog.Proofs.Database.Served
import AttemptLog.Proofs.Database.Stale
import AttemptLog.Proofs.Database.Client
import AttemptLog.Proofs.Database.Site
import AttemptLog.Proofs.Database.Undisturbed
import AttemptLog.Proofs.Database.Isolation
import AttemptLog.Proofs.Database.Mirror
import AttemptLog.Proofs.Settings.Tree
import AttemptLog.Proofs.Settings.Toml
import AttemptLog.Proofs.Settings.Variables
import AttemptLog.Proofs.Settings.Layers
/-!
A service that keeps what users answer to questions: for each attempt a log of numbered steps, with at most one draft
at its end that the next step replaces.

Layers, lowest first, which is also the order of the imports:
- `Text`, `Keyed`, `Double`, `Instant`, `Json`: characters, ordered maps, numbers, moments and their texts;
- `Response`, `Step`, `History`, `Form`: a response, the log of one attempt with what may be done to it, and the forms
  that ask for it;
- `Program`, `Store`, `Meter`, `Service`: calls of the service as programs that put questions to a store, and the
  store that keeps all logs in memory;
- `Web`: the same calls as requests and responses of HTTP;
- `Backoff`, `Database`: the store that keeps the logs in a database with transactions, and how it tries again;
- `Settings`: where the configuration is read from.

`Proofs` follows the same order. A result about one log is under `Proofs.History`, about calls that run side by side
under `Proofs.Service` and `Proofs.Web`, about a database that may fail at any command under `Proofs.Database`.

Main results:
- `History.drafts_leave_no_trace`, `History.ofSteps_or_first_flaw`, `History.operations_safe`: one log;
- `Traffic.serializable`, `Traffic.real_steps_permanent`, `Traffic.closed_for_good`,
  `Web.Visits.orderly_and_unfailing`: calls in any interleaving;
- `Database.exactly_once`, `Database.no_write_skew`, `Database.interchangeable`: the database;
- `Settings.load_layered`, `Web.counts_guarded`, `Web.path_masked`: configuration, and what is shown to whom.
-/
