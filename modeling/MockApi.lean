import MockApi.Cache.Basic
import MockApi.Cache.Flight
import MockApi.Calendar.Date
import MockApi.Calendar.Instant
import MockApi.CommandLine
import MockApi.Composition
import MockApi.Decimal.Binary64
import MockApi.Decimal.Reading
import MockApi.Decimal.Shortest
import MockApi.Definition.Basic
import MockApi.Definition.Codec
import MockApi.Definition.Outline
import MockApi.Failure
import MockApi.FieldPath
import MockApi.FileTree
import MockApi.Files
import MockApi.Format
import MockApi.Generator.Basic
import MockApi.Generator.Number
import MockApi.Generator.Person
import MockApi.Generator.Phrase
import MockApi.Generator.Registry
import MockApi.Generator.Time
import MockApi.Http.Head
import MockApi.Http.Message
import MockApi.Http.Uri
import MockApi.Json.Basic
import MockApi.Json.Overlay
import MockApi.Json.Parser
import MockApi.Json.Printer
import MockApi.Keyed
import MockApi.Main
import MockApi.Method
import MockApi.Outline
import MockApi.Path
import MockApi.Power
import MockApi.Proofs.Cache.Sequential
import MockApi.Proofs.Cache.Session
import MockApi.Proofs.Draw.Bounds
import MockApi.Proofs.Draw.Outcome
import MockApi.Proofs.Flight.Progress
import MockApi.Proofs.Flight.SharedResolution
import MockApi.Proofs.Generator.Output
import MockApi.Proofs.Keyed
import MockApi.Proofs.Resolution.Diagnosis
import MockApi.Proofs.Resolution.Interference
import MockApi.Proofs.Resolution.Locality
import MockApi.Proofs.Resolution.Steps
import MockApi.Proofs.Resolution.Unfolding
import MockApi.Proofs.Resolution.Unversioned
import MockApi.Proofs.Resolution.Walks
import MockApi.Proofs.Route.Declared
import MockApi.Proofs.Route.Lookup
import MockApi.Proofs.Route.NormalForm
import MockApi.Proofs.Route.TrailingBlanks
import MockApi.Proofs.Sameness
import MockApi.Proofs.Server.Counts
import MockApi.Proofs.Server.Restart
import MockApi.Proofs.Server.Runs
import MockApi.Proofs.Server.Transparency
import MockApi.Proofs.Settings.Defects
import MockApi.Proofs.Settings.Reports
import MockApi.Proofs.Store.Change
import MockApi.Proofs.Store.Intake
import MockApi.Proofs.Store.Touch
import MockApi.Proofs.Store.Versions
import MockApi.Proofs.Synthesis.Conformance
import MockApi.Proofs.Watcher.Bursts
import MockApi.Random
import MockApi.Resolution.Resolve
import MockApi.Resolution.Tree
import MockApi.Route
import MockApi.Server.Basic
import MockApi.Server.Dispatch
import MockApi.Server.Handler
import MockApi.Server.Metrics
import MockApi.Server.RateLimiter
import MockApi.Server.Reload
import MockApi.Server.Router
import MockApi.Settings.Basic
import MockApi.Settings.Coercion
import MockApi.Settings.DefinitionFolder
import MockApi.Settings.Loading
import MockApi.Settings.MainFile
import MockApi.Settings.Validation
import MockApi.Store
import MockApi.Synthesis
import MockApi.Text.Blank
import MockApi.Text.Bytes
import MockApi.Text.Digits
import MockApi.Text.Percent
import MockApi.Text.Split
import MockApi.Text.Utf8
import MockApi.Toml.Document
import MockApi.Toml.Scalar
import MockApi.Toml.Table
import MockApi.Watcher
import MockApi.Words.Contact
import MockApi.Words.FirstName
import MockApi.Words.LastName
import MockApi.Words.Latin
import MockApi.Words.Place
import MockApi.Words.Table
import MockApi.Yaml.Basic
import MockApi.Yaml.Document
import MockApi.Yaml.Flow
import MockApi.Proofs.Server.Reachable
import MockApi.Proofs.Draw.Verdict
import MockApi.Proofs.Generator.Refusal
import MockApi.Proofs.Synthesis.Refusal
import MockApi.Proofs.Definition.RoundTrip
import MockApi.Proofs.Settings.RoundTrip
import MockApi.Proofs.Envelope.Filling
import MockApi.Proofs.Resolution.Dependencies
import MockApi.Proofs.Resolution.WiderLimits
import MockApi.Proofs.Server.Buckets
import MockApi.Proofs.Server.Isolation
import MockApi.Proofs.Resolution.Calls
import MockApi.Proofs.Text.Digits
import MockApi.Proofs.Calendar.DayNumber
import MockApi.Proofs.Calendar.Timestamp
import MockApi.Proofs.Generator.Timestamps
import MockApi.Proofs.Calendar.DateText
import MockApi.Proofs.Calendar.Order
import MockApi.Proofs.Generator.Acceptance
import MockApi.Proofs.Generator.Dates
import MockApi.Proofs.Generator.Filler
import MockApi.Proofs.Generator.Ranges
import MockApi.Proofs.Generator.Template
import MockApi.Proofs.Synthesis.Prefix
import MockApi.Proofs.Store.Consistency
import MockApi.Proofs.FieldPath.Rendering
import MockApi.Proofs.Generator.Definite
import MockApi.Proofs.Resolution.Interchange
import MockApi.Proofs.Resolution.KeptVersions
import MockApi.Proofs.Store.Headroom
import MockApi.Proofs.Synthesis.Blame
