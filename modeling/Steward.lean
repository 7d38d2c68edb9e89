import Steward.Abort
import Steward.Agent.Call
import Steward.Agent.Handler
import Steward.Agent.Lifecycle
import Steward.Agent.Rehearsal
import Steward.Agent.Reporting
import Steward.Agent.Serving
import Steward.Agent.Session
import Steward.Bus.Board
import Steward.Bus.Memory
import Steward.Bus.Responder
import Steward.Calendar.Date
import Steward.Calendar.Instant
import Steward.Calendar.Written
import Steward.CommandLine.Conclusion
import Steward.CommandLine.Help
import Steward.CommandLine.Invocation
import Steward.CommandLine.Reader
import Steward.CommandLine.Rehearsal
import Steward.Config.Agent
import Steward.Config.Document
import Steward.Config.Expansion
import Steward.Guard
import Steward.Host.Call
import Steward.Host.Document
import Steward.Host.Linux
import Steward.Host.Rehearsal
import Steward.Inventory.Facts
import Steward.Inventory.Journal
import Steward.Inventory.Package
import Steward.Inventory.Service
import Steward.Json.Access
import Steward.Json.Printer
import Steward.Json.Reader
import Steward.Json.Value
import Steward.Main
import Steward.Message.Arguments
import Steward.Message.Command
import Steward.Message.Job
import Steward.Message.Reply
import Steward.Message.TaskPayload
import Steward.Plan
import Steward.Proofs.Calendar.Instant
import Steward.Proofs.Schedule.Attribution
import Steward.Proofs.Schedule.CalendarEnd
import Steward.Proofs.Schedule.Calls
import Steward.Proofs.Schedule.Course
import Steward.Proofs.Schedule.Facility
import Steward.Proofs.Schedule.Fate
import Steward.Proofs.Schedule.Lateness
import Steward.Proofs.Schedule.Ledger
import Steward.Proofs.Schedule.Occurrence
import Steward.Proofs.Schedule.Once
import Steward.Proofs.Schedule.Overlap
import Steward.Proofs.Schedule.Punctuality
import Steward.Proofs.Schedule.Sequence
import Steward.Proofs.Schedule.Shift
import Steward.Proofs.Schedule.Store
import Steward.Proofs.Schedule.Tick
import Steward.Proofs.Schedule.TickEffect
import Steward.Proofs.Text.ByteOrder
import Steward.Schedule.Document
import Steward.Schedule.Facility
import Steward.Schedule.Firing
import Steward.Schedule.Invocation
import Steward.Schedule.Payload
import Steward.Schedule.Record
import Steward.Schedule.Rehearsal
import Steward.Schedule.Runner
import Steward.Schedule.Service
import Steward.Schedule.Store
import Steward.Schedule.Task
import Steward.Schedule.Weekdays
import Steward.Shell.Arithmetic
import Steward.Shell.Braces
import Steward.Shell.Builtins
import Steward.Shell.Conditions
import Steward.Shell.Document
import Steward.Shell.Expr
import Steward.Shell.Fault
import Steward.Shell.Fields
import Steward.Shell.Files
import Steward.Shell.Filters
import Steward.Shell.Pattern
import Steward.Shell.Printing
import Steward.Shell.Reader
import Steward.Shell.Regex
import Steward.Shell.Run
import Steward.Shell.Starting
import Steward.Shell.State
import Steward.Shell.Syntax
import Steward.Shell.Tools
import Steward.Supervision.Launch
import Steward.Supervision.Script
import Steward.Supervision.Table
import Steward.Text.Blank
import Steward.Text.CodeTable
import Steward.Text.Decimal
import Steward.Text.Hex
import Steward.Text.Line
import Steward.Text.Mark
import Steward.Text.Numeral
import Steward.Text.Path
import Steward.Text.Quoted
import Steward.Text.Unassigned
import Steward.Text.Utf8
import Steward.Update.Descriptor
import Steward.Update.Digest
import Steward.Update.Version
import Steward.Web.Address
import Steward.Web.Controller
import Steward.Web.Domain.Composition
import Steward.Web.Domain.Direction
import Steward.Web.Domain.Folding
import Steward.Web.Domain.Joining
import Steward.Web.Domain.Name
import Steward.Web.Domain.Punycode
import Steward.Web.Escape
import Steward.Web.Host
import Steward.Web.Route
import Steward.Web.Status
import Steward.Web.Url
import Steward.Wire.Document
import Steward.Wire.Reader
import Steward.Wire.Record
import Steward.Wire.Shown
import Steward.Wire.Value
import Steward.Yaml.Cursor
import Steward.Yaml.Document
import Steward.Yaml.Scalar
import Steward.Yaml.Tag
import Steward.Yaml.Token
import Steward.Proofs.Schedule.Rest
import Steward.Proofs.Agent.Acts
import Steward.Proofs.Agent.Reply
import Steward.Proofs.Agent.SingleFlight
import Steward.Proofs.Calendar.Date
import Steward.Proofs.Calendar.Written
import Steward.Proofs.Json.ReadBack
import Steward.Schedule.Row
import Steward.Schedule.Session
import Steward.Schedule.Tables
import Steward.Proofs.Schedule.Row
import Steward.Proofs.Schedule.Register
import Steward.Proofs.Schedule.Tables
import Steward.Proofs.Trace
import Steward.Proofs.Update.Precedence
import Steward.Proofs.Agent.Updating
import Steward.Proofs.Agent.Ending
import Steward.Proofs.Wire.Grammar
import Steward.Proofs.Wire.Writing
import Steward.Proofs.Wire.Parts
import Steward.Proofs.Message.Layout
import Steward.Proofs.Message.Transfer
import Steward.Proofs.Message.Evolution
import Steward.Bus.Traffic
import Steward.Bus.Switchboard
import Steward.Proofs.Schedule.Earliest
import Steward.Proofs.Schedule.Cleanup
import Steward.Proofs.Bus.Listeners
import Steward.Proofs.Bus.Delivery
import Steward.Proofs.Agent.Dispatch
import Steward.Proofs.Schedule.History
import Steward.Proofs.Text.Utf8
import Steward.Proofs.CommandLine.Words
import Steward.Proofs.CommandLine.SelfInvocation
import Steward.Proofs.Schedule.Enabling
import Steward.Proofs.Calendar.Existing
import Steward.Proofs.Schedule.Validation
import Steward.Proofs.Text.Cutting
import Steward.Proofs.Config.Reference
import Steward.Proofs.Config.Acceptance
import Steward.Proofs.Config.Summary
import Steward.Proofs.Host.Installing
import Steward.Proofs.Text.Lines
import Steward.Proofs.Inventory.LineByLine
import Steward.Proofs.Beside
import Steward.Proofs.Web.Destination
import Steward.Proofs.Agent.Checks
import Steward.Proofs.Host.ChecksSight
import Steward.Proofs.Agent.CheckRuns
