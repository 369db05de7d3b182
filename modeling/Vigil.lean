import Vigil.Calendar.Date
import Vigil.Calendar.Instant
import Vigil.Calendar.Rfc3339
import Vigil.Cli.Arguments
import Vigil.Cli.Run
import Vigil.Clock.Basic
import Vigil.Clock.Ticker
import Vigil.Config.Basic
import Vigil.Config.Load
import Vigil.Context
import Vigil.Error
import Vigil.Fault.Basic
import Vigil.Fault.Buffer
import Vigil.Fault.Capture
import Vigil.Fault.Log
import Vigil.Fault.Report
import Vigil.Fault.Signal
import Vigil.Files.OsError
import Vigil.Files.Path
import Vigil.Files.Tree
import Vigil.Health.Executor
import Vigil.Health.Monitor
import Vigil.Health.Probe
import Vigil.Health.Queue
import Vigil.Host.Basic
import Vigil.Host.Operations
import Vigil.Host.Time
import Vigil.Interceptor
import Vigil.Json
import Vigil.Main
import Vigil.Marker.Basic
import Vigil.Marker.Store
import Vigil.Marker.Text
import Vigil.Notice
import Vigil.Number.Binary64
import Vigil.Number.Digits
import Vigil.Number.Shortest
import Vigil.Platform.Basic
import Vigil.Platform.Hook
import Vigil.Reporter
import Vigil.Session.Basic
import Vigil.Session.Crash
import Vigil.Session.Health
import Vigil.Session.Tasks
import Vigil.Status
import Vigil.Table
import Vigil.Task.Basic
import Vigil.Task.Registry
import Vigil.Task.Snapshot
import Vigil.Task.Statistics
import Vigil.Task.Sweeper
import Vigil.Task.Tracked
import Vigil.Text.Blank
import Vigil.Text.Lines
import Vigil.Text.Printable
import Vigil.Text.Quoted
import Vigil.Text.Utf8
import Vigil.Toml.Basic
import Vigil.Toml.Document
import Vigil.Toml.Draft
import Vigil.Toml.Number
import Vigil.Toml.Reader
import Vigil.Toml.Text
import Vigil.Toml.Value
import Vigil.Proofs.Fault.Truncation
import Vigil.Proofs.Run
import Vigil.Proofs.Task.Run
import Vigil.Proofs.Task.Lifecycle
import Vigil.Proofs.Health.History
import Vigil.Proofs.Health.Flight
import Vigil.Proofs.Files.Change
import Vigil.Proofs.Files.Operation
import Vigil.Proofs.Reporter.Evidence
import Vigil.Proofs.Reporter.Lifecycle
import Vigil.Proofs.Reporter.Sessions
import Vigil.Proofs.Health.Wait
import Vigil.Proofs.Health.Isolation
import Vigil.Proofs.Text.Utf8
import Vigil.Proofs.Fault.Cut
import Vigil.Proofs.Fault.Split
import Vigil.Proofs.Fault.Readable
import Vigil.Proofs.Platform.Hook
import Vigil.Proofs.Platform.Routing
import Vigil.Proofs.Reporter.Refusal
import Vigil.Proofs.Reporter.Panics
import Vigil.Proofs.Reporter.Journal
import Vigil.Proofs.Task.Sweeps
import Vigil.Proofs.Reporter.Signals
import Vigil.Proofs.Task.Sweeper
import Vigil.Proofs.Host.Run
import Vigil.Proofs.Host.Time
import Vigil.Proofs.Host.Abandoned
import Vigil.Proofs.Context.Run
import Vigil.Proofs.Context.Services
import Vigil.Proofs.Number.Digits
import Vigil.Proofs.Calendar.Date
import Vigil.Proofs.Calendar.Rfc3339
import Vigil.Proofs.Text.Lines
import Vigil.Proofs.Marker.Text
import Vigil.Proofs.Host.Turns
import Vigil.Proofs.Host.Attempts
import Vigil.Proofs.Host.Orderly
import Vigil.Proofs.Health.Interference
import Vigil.Proofs.Health.Severity
import Vigil.Proofs.Task.Statistics
import Vigil.Proofs.Files.Barred
import Vigil.Proofs.Files.Spared
import Vigil.Proofs.Files.Plain
import Vigil.Proofs.Reporter.Use
import Vigil.Proofs.Marker.Presence
import Vigil.Proofs.Config.Paths
import Vigil.Proofs.Health.Queue
import Vigil.Proofs.Health.Cadence
import Vigil.Proofs.Host.Retention
import Vigil.Proofs.Reporter.Threads
import Vigil.Proofs.Fault.Append
import Vigil.Proofs.Task.Snapshot
import Vigil.Proofs.Task.Requests
import Vigil.Proofs.Host.Locks
import Vigil.Proofs.Reporter.Culprit
import Vigil.Proofs.Health.NeverAnswered
import Vigil.Proofs.Marker.Grammar
import Vigil.Proofs.Calendar.Header
import Vigil.Proofs.Context.Clock
import Vigil.Proofs.Fault.Buffer
