import PortForward.Bench.Clients
import PortForward.Bench.Directory
import PortForward.Bench.Platforms
import PortForward.Calendar
import PortForward.Calendar.Timestamp
import PortForward.Cli.Arguments
import PortForward.Cli.Directive
import PortForward.Cli.Filter
import PortForward.Cli.Log
import PortForward.Cli.Run
import PortForward.Cluster.Dial
import PortForward.Cluster.Pods
import PortForward.Cluster.Refusal
import PortForward.Cluster.Server
import PortForward.Cluster.StatusText
import PortForward.Cluster.Uri
import PortForward.Cluster.Watch
import PortForward.Connection
import PortForward.Error
import PortForward.Fields
import PortForward.Files
import PortForward.Json
import PortForward.Json.Fault
import PortForward.Json.Shape
import PortForward.Key
import PortForward.Machine
import PortForward.Main
import PortForward.Net.Host
import PortForward.Net.IPv4
import PortForward.Net.IPv6
import PortForward.Net.Zone
import PortForward.Pod
import PortForward.Pod.Document
import PortForward.Pod.Shape
import PortForward.Pod.Shape.Container
import PortForward.Pod.Shape.Metadata
import PortForward.Pod.Shape.Placement
import PortForward.Pod.Shape.Security
import PortForward.Pod.Shape.Status
import PortForward.Pod.Shape.Volume
import PortForward.PortSpec
import PortForward.Preference
import PortForward.Proofs.Accounts
import PortForward.Proofs.Admissions
import PortForward.Proofs.AnnotationText
import PortForward.Proofs.Annotations
import PortForward.Proofs.Arrivals
import PortForward.Proofs.BulkStops
import PortForward.Proofs.ByteOrder
import PortForward.Proofs.Calls
import PortForward.Proofs.Clashes
import PortForward.Proofs.Clients
import PortForward.Proofs.Conflicts
import PortForward.Proofs.Connections
import PortForward.Proofs.Courses
import PortForward.Proofs.Custody
import PortForward.Proofs.Decisions
import PortForward.Proofs.Departures
import PortForward.Proofs.Discovery
import PortForward.Proofs.Elsewhere
import PortForward.Proofs.Endings
import PortForward.Proofs.Entries
import PortForward.Proofs.EventLog
import PortForward.Proofs.EventOrder
import PortForward.Proofs.Exclusive
import PortForward.Proofs.FailedStarts
import PortForward.Proofs.Failures
import PortForward.Proofs.Fates
import PortForward.Proofs.FieldGrammar
import PortForward.Proofs.FileSettings
import PortForward.Proofs.FirstStarts
import PortForward.Proofs.Forwarding
import PortForward.Proofs.Generations
import PortForward.Proofs.Hooks
import PortForward.Proofs.Hosts
import PortForward.Proofs.KeyOrder
import PortForward.Proofs.Lifecycle
import PortForward.Proofs.Likeness
import PortForward.Proofs.Listeners
import PortForward.Proofs.Liveness
import PortForward.Proofs.LocalFill
import PortForward.Proofs.LoneStarts
import PortForward.Proofs.Moves
import PortForward.Proofs.Omissions
import PortForward.Proofs.Openings
import PortForward.Proofs.Precedence
import PortForward.Proofs.Preflight
import PortForward.Proofs.Progress
import PortForward.Proofs.Queries
import PortForward.Proofs.RemoteChecks
import PortForward.Proofs.Removals
import PortForward.Proofs.Replay
import PortForward.Proofs.Reports
import PortForward.Proofs.Restarts
import PortForward.Proofs.Routing
import PortForward.Proofs.Schedules
import PortForward.Proofs.Scripts
import PortForward.Proofs.Settling
import PortForward.Proofs.Sockets
import PortForward.Proofs.Spellings
import PortForward.Proofs.Staffing
import PortForward.Proofs.StartErrors
import PortForward.Proofs.StartOrder
import PortForward.Proofs.SuggestedFields
import PortForward.Proofs.Suggestions
import PortForward.Proofs.Threads
import PortForward.Proofs.Withdrawals
import PortForward.Registry
import PortForward.Registry.Entry
import PortForward.Scenario
import PortForward.Scenario.Script
import PortForward.Settings
import PortForward.System
import PortForward.System.Schedule
import PortForward.Text.Alphanumeric
import PortForward.Text.Ascii
import PortForward.Text.Blank
import PortForward.Text.Bytes
import PortForward.Text.Decimal
import PortForward.Text.Hex
import PortForward.Text.Hidden
import PortForward.Text.Pattern
import PortForward.Text.Pattern.Atom
import PortForward.Text.Pattern.CharClass
import PortForward.Text.Pattern.Cursor
import PortForward.Text.Pieces
import PortForward.Text.Quoted
import PortForward.Text.Ranges
import PortForward.Text.Reader
import PortForward.Text.Real
import PortForward.Toml.Document
import PortForward.Toml.Moment
import PortForward.Toml.Number
import PortForward.Toml.Quoted
import PortForward.Toml.Value
import PortForward.Traffic
import PortForward.Tunnel
import PortForward.World
import PortForward.World.Call
