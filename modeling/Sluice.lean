import Sluice.CommandLine.Check
import Sluice.CommandLine.Options
import Sluice.CommandLine.Path
import Sluice.CommandLine.Result
import Sluice.CommandLine.Run
import Sluice.CommandLine.Template
import Sluice.Config.Basic
import Sluice.Config.Environment
import Sluice.Config.Load
import Sluice.Config.Template
import Sluice.Config.Validation
import Sluice.Counters
import Sluice.Data.Basic
import Sluice.Data.Fault
import Sluice.Data.Field
import Sluice.Data.Json
import Sluice.Direction
import Sluice.Duration
import Sluice.Error
import Sluice.Event
import Sluice.Forward
import Sluice.Limiter.Acquire
import Sluice.Limiter.Basic
import Sluice.Limiter.Bucket
import Sluice.Limits
import Sluice.Live.Files
import Sluice.Live.Mailbox
import Sluice.Live.Service
import Sluice.Live.Sockets
import Sluice.Log
import Sluice.Main
import Sluice.Manager.Basic
import Sluice.Manager.Initiative
import Sluice.Manager.Step
import Sluice.Net.Address
import Sluice.Net.Endpoint
import Sluice.Net.IoFault
import Sluice.Net.SystemError
import Sluice.Number.Binary64
import Sluice.Relay.Basic
import Sluice.Relay.Connection
import Sluice.Relay.Initiative
import Sluice.Relay.Notices
import Sluice.Simulation.Dock
import Sluice.Simulation.Files
import Sluice.Simulation.Gate
import Sluice.Simulation.Host
import Sluice.Simulation.Line
import Sluice.Simulation.Loopback
import Sluice.Simulation.Pipe
import Sluice.Simulation.Rig
import Sluice.Simulation.Script
import Sluice.Simulation.Terminal
import Sluice.Simulation.Timeline
import Sluice.Text.Blank
import Sluice.Text.Quoted
import Sluice.Text.Unprinted
import Sluice.Timer
import Sluice.Toml.Atom
import Sluice.Toml.Document
import Sluice.Toml.Quoted
import Sluice.Toml.Scan
import Sluice.Toml.Table
import Sluice.Toml.Value
import Sluice.Tunnel.Basic
import Sluice.Tunnel.Initiative
import Sluice.Tunnel.Outside
import Sluice.Tunnel.Plan
import Sluice.Tunnel.Step
import Sluice.Proofs.Limiter.Account
import Sluice.Proofs.Limiter.Meter
import Sluice.Proofs.Limiter.Acquire
import Sluice.Proofs.Limiter.Crowd
import Sluice.Proofs.Limiter.Conformance
import Sluice.Proofs.Event.Ledger
import Sluice.Proofs.Relay.Books
import Sluice.Proofs.Tunnel.Lifecycle
import Sluice.Proofs.Forward.Payment
import Sluice.Proofs.Relay.Payment
import Sluice.Proofs.Tunnel.Bandwidth
import Sluice.Proofs.Event.Listening
import Sluice.Proofs.Relay.Rates
import Sluice.Proofs.Tunnel.Turn
import Sluice.Proofs.Tunnel.Phases
import Sluice.Proofs.Tunnel.Limits
import Sluice.Proofs.Tunnel.Chronicle
import Sluice.Proofs.Forward.Effort
import Sluice.Proofs.Relay.Effort
import Sluice.Proofs.Tunnel.Effort
import Sluice.Proofs.Tunnel.Shutdown
import Sluice.Proofs.Tunnel.InUse
import Sluice.Proofs.Config.Validation
import Sluice.Proofs.Manager.Step
import Sluice.Proofs.Manager.Roster
import Sluice.Proofs.Manager.Reload
import Sluice.Proofs.Manager.Mirror
import Sluice.Proofs.Manager.Repeat
import Sluice.Proofs.CommandLine.Reload
import Sluice.Proofs.Limiter.TokenBucket
import Sluice.Proofs.Limiter.Waiting
import Sluice.Proofs.Forward.Step
import Sluice.Proofs.Forward.Traffic
import Sluice.Proofs.Relay.Lane
import Sluice.Proofs.Relay.Cancellation
import Sluice.Proofs.Relay.Causes
import Sluice.Proofs.Tunnel.Causes
import Sluice.Proofs.Tunnel.Isolation
import Sluice.Proofs.Relay.Step
import Sluice.Proofs.Relay.Register
import Sluice.Proofs.Tunnel.Arrivals
import Sluice.Proofs.Forward.Cancelled
import Sluice.Proofs.Relay.Reports
import Sluice.Proofs.Relay.Completion
import Sluice.Proofs.Tunnel.Outage
import Sluice.Proofs.Limiter.Capacity
import Sluice.Proofs.Limiter.Drain
import Sluice.Proofs.Limiter.Words
import Sluice.Proofs.Limiter.Chunks
import Sluice.Proofs.Limiter.Bill
import Sluice.Proofs.Limiter.Alone
import Sluice.Proofs.Manager.Steady
import Sluice.Proofs.Tunnel.Progress
import Sluice.Proofs.Manager.Progress
import Sluice.Proofs.Manager.Partition
import Sluice.Proofs.Tunnel.Upkeep
import Sluice.Proofs.Manager.Undisturbed
import Sluice.Proofs.Tunnel.Listener
import Sluice.Proofs.Manager.Handover
import Sluice.Proofs.Manager.Accounts
import Sluice.Proofs.Manager.Startup
import Sluice.Proofs.Timer
import Sluice.Proofs.Tunnel.Waiting
import Sluice.Proofs.Tunnel.Retry
import Sluice.Proofs.Config.Rules
import Sluice.Proofs.Config.Intervals
import Sluice.Proofs.Data.Record
import Sluice.Proofs.Config.RoundTrip
import Sluice.Proofs.Toml.Value
import Sluice.Proofs.Toml.Document
import Sluice.Proofs.Config.Layout
