import Signalgrid.Archive
import Signalgrid.Audit
import Signalgrid.CommandLine.Arguments
import Signalgrid.CommandLine.Grammar
import Signalgrid.CommandLine.Report
import Signalgrid.Control.Cell
import Signalgrid.Control.Controller
import Signalgrid.Control.Rules
import Signalgrid.Control.Signal
import Signalgrid.Control.Traffic
import Signalgrid.ControlRoom
import Signalgrid.Decimal.Shortest
import Signalgrid.Decimal.Stepwise
import Signalgrid.Decimal.Text
import Signalgrid.Failover.Heartbeat
import Signalgrid.Failover.Watch
import Signalgrid.Gateway.Reply
import Signalgrid.Gateway.Request
import Signalgrid.Grid
import Signalgrid.Json.Basic
import Signalgrid.Json.Decode
import Signalgrid.Json.Reader
import Signalgrid.Json.Token
import Signalgrid.Json.Writer
import Signalgrid.Main
import Signalgrid.Net.Frame
import Signalgrid.Net.Link
import Signalgrid.Proofs.Archive.Routing
import Signalgrid.Proofs.Control.Cells
import Signalgrid.Proofs.Control.Coupling
import Signalgrid.Proofs.Control.Forecast
import Signalgrid.Proofs.Control.Operations
import Signalgrid.Proofs.Control.Passes
import Signalgrid.Proofs.Control.Ticks
import Signalgrid.Proofs.Control.Visits
import Signalgrid.Proofs.Control.WaveWindow
import Signalgrid.Proofs.Time.Moments
import Signalgrid.Record.Basic
import Signalgrid.Sensor.Line
import Signalgrid.Sensor.Reading
import Signalgrid.Sensor.Snapshot
import Signalgrid.Service
import Signalgrid.Settings.Basic
import Signalgrid.Settings.Decode
import Signalgrid.Settings.File
import Signalgrid.Settings.Validate
import Signalgrid.Store.Basic
import Signalgrid.Store.Host
import Signalgrid.Store.Log
import Signalgrid.Store.Query
import Signalgrid.Store.Remote
import Signalgrid.Store.Tables
import Signalgrid.Store.Wire
import Signalgrid.Telemetry.Counters
import Signalgrid.Telemetry.Endpoint
import Signalgrid.Text.Blank
import Signalgrid.Text.Quoted
import Signalgrid.Text.Unprintable
import Signalgrid.Text.Utf8
import Signalgrid.Time.Date
import Signalgrid.Time.Instant
import Signalgrid.Time.Reader
import Signalgrid.Time.Span
import Signalgrid.Time.Text
import Signalgrid.Toml.Quoted
import Signalgrid.Toml.Reader
import Signalgrid.Toml.Scalar
import Signalgrid.Toml.Step
import Signalgrid.Toml.Table
import Signalgrid.Proofs.Control.Isolation
import Signalgrid.Proofs.Failover.Outages
import Signalgrid.Proofs.Sensor.Latest
import Signalgrid.Proofs.Json.Writer
import Signalgrid.Proofs.Net.Frames
import Signalgrid.Proofs.Json.Reader
import Signalgrid.Proofs.Control.Undisturbed
import Signalgrid.Proofs.Record.Chains
import Signalgrid.Proofs.Store.Contents
import Signalgrid.Proofs.Control.Replay
import Signalgrid.Proofs.Control.Plans
import Signalgrid.Proofs.Control.History
import Signalgrid.Proofs.Control.Interleaving
import Signalgrid.Proofs.Control.Counts
import Signalgrid.Proofs.Control.Readings
import Signalgrid.Proofs.Control.Extensions
import Signalgrid.Proofs.Control.Holds
import Signalgrid.Proofs.Control.Relay
import Signalgrid.Proofs.Sensor.Overruns
import Signalgrid.Proofs.Sensor.Places
import Signalgrid.Proofs.Settings.Checks
import Signalgrid.Proofs.Settings.Names
import Signalgrid.Proofs.Json.Roundtrip
import Signalgrid.Proofs.Time.Dates
import Signalgrid.Proofs.Time.Texts
import Signalgrid.Proofs.Record.Texts
import Signalgrid.Proofs.Json.Canonical
import Signalgrid.Proofs.Json.Codecs
import Signalgrid.Proofs.Record.Codecs
import Signalgrid.Proofs.Store.Codecs
import Signalgrid.Proofs.Gateway.Codecs
import Signalgrid.Proofs.Store.Transparency
import Signalgrid.Proofs.Store.Agreement
import Signalgrid.Proofs.Time.SortKeys
import Signalgrid.Proofs.Store.Histories
import Signalgrid.Proofs.Gateway.Conversation
import Signalgrid.Proofs.Net.Lines
import Signalgrid.Proofs.Store.Hosting
import Signalgrid.Proofs.Archive.Accounts
import Signalgrid.Proofs.Control.Tallies
import Signalgrid.Proofs.Net.Splitting
import Signalgrid.Proofs.Control.Sweeps
import Signalgrid.Proofs.Control.Routes
import Signalgrid.Proofs.Sensor.Faithful
import Signalgrid.Proofs.Net.Delivery
import Signalgrid.Proofs.Control.Views
import Signalgrid.Proofs.Control.Detections
import Signalgrid.Proofs.Gateway.Sources
import Signalgrid.Proofs.Sensor.Speeds
import Signalgrid.Proofs.Control.Verdicts
import Signalgrid.Proofs.Settings.Documented
import Signalgrid.Proofs.Control.Startup
import Signalgrid.Proofs.Time.Deadlines
import Signalgrid.Proofs.Control.CatchUp
import Signalgrid.Proofs.Sensor.Topics
