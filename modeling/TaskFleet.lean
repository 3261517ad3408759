import TaskFleet.Agent.Basic
import TaskFleet.Agent.Source
import TaskFleet.CommandLine.Arguments
import TaskFleet.CommandLine.Help
import TaskFleet.CommandLine.Run
import TaskFleet.Config.Basic
import TaskFleet.Config.Log
import TaskFleet.Config.Text
import TaskFleet.Daemon
import TaskFleet.Dict
import TaskFleet.Duration
import TaskFleet.ErrorReport
import TaskFleet.Execution.Annotation
import TaskFleet.Execution.Basic
import TaskFleet.Execution.Codec
import TaskFleet.Execution.Echo
import TaskFleet.Execution.Plan
import TaskFleet.Execution.Processes
import TaskFleet.Execution.Program
import TaskFleet.Execution.Substrate
import TaskFleet.Execution.Supervisor
import TaskFleet.FileSystem.Basic
import TaskFleet.FileSystem.Directory
import TaskFleet.FileSystem.Tree
import TaskFleet.Json.Basic
import TaskFleet.Json.Decode
import TaskFleet.Json.Reader
import TaskFleet.Json.Writer
import TaskFleet.Ledger.Basic
import TaskFleet.Ledger.Resync
import TaskFleet.Ledger.Utilization
import TaskFleet.Lifecycle.Calls
import TaskFleet.Lifecycle.Cancel
import TaskFleet.Lifecycle.Dependencies
import TaskFleet.Lifecycle.Fleet
import TaskFleet.Lifecycle.Host
import TaskFleet.Lifecycle.Pass
import TaskFleet.Lifecycle.Settings
import TaskFleet.Main
import TaskFleet.Manifest
import TaskFleet.Placement.Schedule
import TaskFleet.Placement.Strategy
import TaskFleet.Resource.Kind
import TaskFleet.Resource.Quantity
import TaskFleet.Resource.QuantityText
import TaskFleet.Resource.Set
import TaskFleet.Spool.Basic
import TaskFleet.Store.Error
import TaskFleet.Store.File
import TaskFleet.Store.State
import TaskFleet.Store.Tasks
import TaskFleet.Task.Basic
import TaskFleet.Task.Codec
import TaskFleet.Task.Id
import TaskFleet.Task.Phase
import TaskFleet.Task.Spec
import TaskFleet.Task.Status
import TaskFleet.Text.Alphanumeric
import TaskFleet.Text.Blank
import TaskFleet.Text.Decimal
import TaskFleet.Text.Pattern
import TaskFleet.Text.Quoted
import TaskFleet.Text.Split
import TaskFleet.Text.Unprintable
import TaskFleet.Text.Utf8
import TaskFleet.Toml.Basic
import TaskFleet.Toml.Reader
import TaskFleet.Toml.Scalar
import TaskFleet.Toml.Writer
import TaskFleet.Proofs.Text.Measures
import TaskFleet.Proofs.Json.Reading
import TaskFleet.Proofs.Json.Fields
import TaskFleet.Proofs.Json.Yields
import TaskFleet.Proofs.Task.Written
import TaskFleet.Proofs.Store.Tasks
import TaskFleet.Proofs.Lifecycle.Revision
import TaskFleet.Proofs.Lifecycle.Moves
import TaskFleet.Proofs.Lifecycle.Calls
import TaskFleet.Proofs.Lifecycle.Leads
import TaskFleet.Proofs.Lifecycle.Passes
import TaskFleet.Proofs.Lifecycle.Runs
import TaskFleet.Proofs.Lifecycle.Restore
import TaskFleet.Proofs.Lifecycle.Conservation
import TaskFleet.Proofs.Ledger.Capacity
import TaskFleet.Proofs.Ledger.Reservations
import TaskFleet.Proofs.Lifecycle.StateMachine
import TaskFleet.Proofs.Lifecycle.Calm
import TaskFleet.Proofs.Lifecycle.Deadline
import TaskFleet.Proofs.Lifecycle.Tenure
import TaskFleet.Proofs.Lifecycle.Executions
import TaskFleet.Proofs.Lifecycle.Sweep
import TaskFleet.Proofs.Task.Received
import TaskFleet.Proofs.Store.Readable
import TaskFleet.Proofs.Lifecycle.Restart
import TaskFleet.Proofs.Lifecycle.Frame
import TaskFleet.Proofs.Lifecycle.Cancellation
import TaskFleet.Proofs.Lifecycle.Admission
import TaskFleet.Proofs.Lifecycle.Deadlock
import TaskFleet.Proofs.Store.Versions
import TaskFleet.Proofs.Store.Mirrors
import TaskFleet.Proofs.Lifecycle.Twins
import TaskFleet.Proofs.Lifecycle.Workers
import TaskFleet.Proofs.Lifecycle.Interchange
import TaskFleet.Proofs.Ledger.Feasibility
import TaskFleet.Proofs.Placement.Placing
import TaskFleet.Proofs.Store.Keys
import TaskFleet.Proofs.FileSystem.Directories
import TaskFleet.Proofs.Text.Lines
import TaskFleet.Proofs.Spool.Markers
import TaskFleet.Proofs.Lifecycle.Elapsed
import TaskFleet.Proofs.Lifecycle.Outcomes
import TaskFleet.Proofs.Lifecycle.Repetition
import TaskFleet.Proofs.Ledger.Observed
import TaskFleet.Proofs.Lifecycle.Resyncs
import TaskFleet.Proofs.Store.Agents
import TaskFleet.Proofs.Lifecycle.Hosting
import TaskFleet.Proofs.Lifecycle.Requests
import TaskFleet.Proofs.Execution.Supervision
import TaskFleet.Proofs.Resource.Exactness
import TaskFleet.Proofs.Text.RoundTrips
import TaskFleet.Proofs.Spool.Imports
import TaskFleet.Proofs.Ledger.ListedZeros
import TaskFleet.Proofs.Placement.Ties
import TaskFleet.Proofs.Execution.Output
import TaskFleet.Proofs.Lifecycle.Progress
import TaskFleet.Proofs.Config.Checked
import TaskFleet.Proofs.Lifecycle.Startup
import TaskFleet.Proofs.Text.Decoding
import TaskFleet.Proofs.Execution.Reading
