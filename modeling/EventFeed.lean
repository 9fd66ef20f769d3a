import EventFeed.Broadcast
import EventFeed.Connection.Address
import EventFeed.Connection.Backoff
import EventFeed.Connection.Client
import EventFeed.Connection.Config
import EventFeed.Connection.Fault
import EventFeed.Connection.Input
import EventFeed.Connection.Keepalive
import EventFeed.Connection.Report
import EventFeed.Connection.State
import EventFeed.Connection.Topics
import EventFeed.Connection.Turn
import EventFeed.Decimal.Binary64
import EventFeed.Decimal.Layout
import EventFeed.Decimal.Shortest
import EventFeed.Follow
import EventFeed.Follow.Options
import EventFeed.Frame.Control
import EventFeed.Frame.Event
import EventFeed.Json.Basic
import EventFeed.Json.Merge
import EventFeed.Json.Number
import EventFeed.Json.Printer
import EventFeed.Json.Quoted
import EventFeed.Json.ReadError
import EventFeed.Json.Reader
import EventFeed.Json.Shape
import EventFeed.Main
import EventFeed.Notification.Alert
import EventFeed.Notification.Center
import EventFeed.Notification.Log
import EventFeed.Notification.Record
import EventFeed.Notification.Rules
import EventFeed.Notification.Session
import EventFeed.Notification.Severity
import EventFeed.Proofs.Broadcast
import EventFeed.Proofs.Connection.Backoff
import EventFeed.Proofs.Connection.Bearer
import EventFeed.Proofs.Connection.Discretion
import EventFeed.Proofs.Connection.Encoding
import EventFeed.Proofs.Connection.Membership
import EventFeed.Proofs.Connection.Outcome
import EventFeed.Proofs.Connection.Pings
import EventFeed.Proofs.Connection.Reaction
import EventFeed.Proofs.Connection.Reception
import EventFeed.Proofs.Connection.Requests
import EventFeed.Proofs.Connection.Rest
import EventFeed.Proofs.Connection.Retries
import EventFeed.Proofs.Connection.ServerView
import EventFeed.Proofs.Connection.Silence
import EventFeed.Proofs.Connection.Tenure
import EventFeed.Proofs.Connection.Timing
import EventFeed.Proofs.Connection.Trace
import EventFeed.Proofs.Connection.Transitions
import EventFeed.Proofs.Connection.Undelivered
import EventFeed.Proofs.Frame.Decoding
import EventFeed.Proofs.Frame.Fields
import EventFeed.Proofs.Frame.RoundTrip
import EventFeed.Proofs.Frame.Writing
import EventFeed.Proofs.Json.Contents
import EventFeed.Proofs.Json.Grammar
import EventFeed.Proofs.Json.Integers
import EventFeed.Proofs.Json.Literals
import EventFeed.Proofs.Json.Members
import EventFeed.Proofs.Json.Merging
import EventFeed.Proofs.Json.Nulls
import EventFeed.Proofs.Json.Paths
import EventFeed.Proofs.Json.Places
import EventFeed.Proofs.Json.Printing
import EventFeed.Proofs.Json.Reading
import EventFeed.Proofs.Json.Shapes
import EventFeed.Proofs.Json.Spelling
import EventFeed.Proofs.Notification.Binding
import EventFeed.Proofs.Notification.Coverage
import EventFeed.Proofs.Notification.Ingest
import EventFeed.Proofs.Notification.Newest
import EventFeed.Proofs.Notification.Notices
import EventFeed.Proofs.Notification.Origins
import EventFeed.Proofs.Notification.Overlap
import EventFeed.Proofs.Notification.Severities
import EventFeed.Proofs.Notification.Subjects
import EventFeed.Proofs.Notification.Upkeep
import EventFeed.Proofs.Routing.Identity
import EventFeed.Proofs.Routing.Selection
import EventFeed.Proofs.Routing.Subscribers
import EventFeed.Proofs.Scenario.Batches
import EventFeed.Proofs.Scenario.Bench
import EventFeed.Proofs.Scenario.Clock
import EventFeed.Proofs.Scenario.Delivery
import EventFeed.Proofs.Scenario.Outbox
import EventFeed.Proofs.Scenario.Perform
import EventFeed.Proofs.Scenario.Schedule
import EventFeed.Proofs.Settings.Environment
import EventFeed.Proofs.Settings.Fields
import EventFeed.Proofs.Settings.Layers
import EventFeed.Proofs.Settings.RoundTrip
import EventFeed.Proofs.Settings.Sections
import EventFeed.Proofs.Telemetry.Recall
import EventFeed.Proofs.Telemetry.Retention
import EventFeed.Proofs.Telemetry.Since
import EventFeed.Proofs.Text.Ends
import EventFeed.Proofs.Text.Numerals
import EventFeed.Proofs.Time.Ordering
import EventFeed.Proofs.Time.Spelling
import EventFeed.Routing.Category
import EventFeed.Routing.Filter
import EventFeed.Routing.Router
import EventFeed.Scenario.Pipeline
import EventFeed.Scenario.Scene
import EventFeed.Scenario.Transport
import EventFeed.Settings.Basic
import EventFeed.Settings.Load
import EventFeed.Settings.Overrides
import EventFeed.Telemetry.Config
import EventFeed.Telemetry.Directive
import EventFeed.Telemetry.Entry
import EventFeed.Telemetry.Level
import EventFeed.Telemetry.Memory
import EventFeed.Telemetry.Output
import EventFeed.Text.Alphanumeric
import EventFeed.Text.Blank
import EventFeed.Text.Pattern
import EventFeed.Text.Pattern.CharClass
import EventFeed.Text.Pattern.Mode
import EventFeed.Text.Pattern.Symbol
import EventFeed.Text.Printable
import EventFeed.Text.Quoted
import EventFeed.Text.Ranges
import EventFeed.Text.Word
import EventFeed.Time.Duration
import EventFeed.Time.Instant
import EventFeed.Watch
