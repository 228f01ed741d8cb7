import Interop.Abort
import Interop.Bench
import Interop.Body
import Interop.Body.Scripted
import Interop.Catalog
import Interop.Catalog.ThinClient
import Interop.Clockwork
import Interop.Command.Template
import Interop.CommandLine
import Interop.Config
import Interop.Descriptor
import Interop.Descriptor.Json
import Interop.Descriptor.Order
import Interop.Disk
import Interop.Disk.Journal
import Interop.Execution
import Interop.Failure
import Interop.Json
import Interop.Json.Lenient
import Interop.Lifecycle.Controller
import Interop.Lifecycle.Event
import Interop.Lifecycle.Handle
import Interop.Lifecycle.Operation
import Interop.Lifecycle.Settings
import Interop.Main
import Interop.Matrix
import Interop.Matrix.Expansion
import Interop.Matrix.Json
import Interop.Outcome
import Interop.Params
import Interop.Pool
import Interop.Program
import Interop.Proofs.Command.Pieces
import Interop.Proofs.Command.Rendering
import Interop.Proofs.Descriptor.Arrangement
import Interop.Proofs.Descriptor.Decoding
import Interop.Proofs.Descriptor.Feasibility
import Interop.Proofs.Descriptor.Placement
import Interop.Proofs.Disk.Journal
import Interop.Proofs.Execution.Accounts
import Interop.Proofs.Execution.Heeding
import Interop.Proofs.Execution.Launching
import Interop.Proofs.Execution.Provisioning
import Interop.Proofs.Execution.Regardless
import Interop.Proofs.Execution.Reserving
import Interop.Proofs.Execution.Returns
import Interop.Proofs.Execution.Sharing
import Interop.Proofs.Execution.Starting
import Interop.Proofs.Execution.Stock
import Interop.Proofs.Execution.Stopping
import Interop.Proofs.Execution.Strides
import Interop.Proofs.Execution.Verdicts
import Interop.Proofs.Execution.Waiting
import Interop.Proofs.Execution.Warnings
import Interop.Proofs.Json.Readability
import Interop.Proofs.Lifecycle.Atomicity
import Interop.Proofs.Lifecycle.Careers
import Interop.Proofs.Lifecycle.Closing
import Interop.Proofs.Lifecycle.Commons
import Interop.Proofs.Lifecycle.Course
import Interop.Proofs.Lifecycle.Custody
import Interop.Proofs.Lifecycle.Drive
import Interop.Proofs.Lifecycle.Duty
import Interop.Proofs.Lifecycle.Forcing
import Interop.Proofs.Lifecycle.History
import Interop.Proofs.Lifecycle.Ledger
import Interop.Proofs.Lifecycle.Legs
import Interop.Proofs.Lifecycle.Precedence
import Interop.Proofs.Lifecycle.Readiness
import Interop.Proofs.Lifecycle.Resolution
import Interop.Proofs.Lifecycle.Results
import Interop.Proofs.Lifecycle.Sequence
import Interop.Proofs.Lifecycle.Tally
import Interop.Proofs.Lifecycle.Teardown
import Interop.Proofs.Loopback.Agreement
import Interop.Proofs.Loopback.Handshake
import Interop.Proofs.Loopback.Listening
import Interop.Proofs.Matrix.Counting
import Interop.Proofs.Matrix.Enumeration
import Interop.Proofs.Matrix.Identifiers
import Interop.Proofs.Matrix.Naming
import Interop.Proofs.Matrix.Odometer
import Interop.Proofs.Pool.Balance
import Interop.Proofs.Pool.Tenancy
import Interop.Proofs.Pool.Wakeup
import Interop.Proofs.Report.Layout
import Interop.Proofs.Report.Lossless
import Interop.Proofs.Report.WriteOnce
import Interop.Proofs.Service.Endpoints
import Interop.Proofs.Service.Following
import Interop.Proofs.Service.Life
import Interop.Proofs.Service.Pids
import Interop.Proofs.Service.Ports
import Interop.Proofs.Shell.Arithmetic
import Interop.Proofs.Shell.Hosting
import Interop.Proofs.Shell.Journaling
import Interop.Proofs.Shell.Patterns
import Interop.Proofs.Shell.Search
import Interop.Proofs.Suite.Aborting
import Interop.Proofs.Suite.Admission
import Interop.Proofs.Suite.Chronicle
import Interop.Proofs.Suite.Determinism
import Interop.Proofs.Suite.Ending
import Interop.Proofs.Suite.FailFast
import Interop.Proofs.Suite.Parallelism
import Interop.Proofs.Suite.Passing
import Interop.Proofs.Suite.Slots
import Interop.Proofs.Suite.Turns
import Interop.Proofs.Text.Lines
import Interop.Proofs.Text.Trimming
import Interop.Proofs.Text.Utf8
import Interop.Proofs.Version.Parsing
import Interop.Proofs.Version.Token
import Interop.Rehearsal.Cause
import Interop.Rehearsal.Declaration
import Interop.Rehearsal.Launcher
import Interop.Report
import Interop.Reporter
import Interop.Service.Child
import Interop.Service.Commanded
import Interop.Service.Fleet
import Interop.Service.Loopback
import Interop.Service.Network
import Interop.Service.Scripted
import Interop.Shell.Arithmetic
import Interop.Shell.Builtin
import Interop.Shell.Condition
import Interop.Shell.Evaluation
import Interop.Shell.Expansion
import Interop.Shell.Format.Decimal
import Interop.Shell.Format.Escape
import Interop.Shell.Format.Printf
import Interop.Shell.Format.Quoting
import Interop.Shell.Glob
import Interop.Shell.Host
import Interop.Shell.Program.Basic
import Interop.Shell.Program.Files
import Interop.Shell.Program.Numbers
import Interop.Shell.Program.Processes
import Interop.Shell.Program.Search
import Interop.Shell.Program.Text
import Interop.Shell.Regex
import Interop.Shell.Script
import Interop.Shell.Script.Reader
import Interop.Shell.Script.Source
import Interop.Shell.Script.Words
import Interop.Shell.Signal
import Interop.Shell.State
import Interop.Shell.Stream
import Interop.Span
import Interop.Span.Parser
import Interop.Span.Seconds
import Interop.Suite
import Interop.Suite.Runner
import Interop.Text.Blank
import Interop.Text.Octets
import Interop.Text.Printable
import Interop.Text.Quoted
import Interop.Text.Utf8
import Interop.Text.Words
import Interop.Version
