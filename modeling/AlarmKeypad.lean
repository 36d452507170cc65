import AlarmKeypad.Binary64
import AlarmKeypad.Bindings
import AlarmKeypad.Cli.Argument
import AlarmKeypad.Cli.Completion
import AlarmKeypad.Cli.ConfigTask
import AlarmKeypad.Cli.Exit
import AlarmKeypad.Cli.Help
import AlarmKeypad.Cli.Invocation
import AlarmKeypad.Cli.Level
import AlarmKeypad.Cli.Place
import AlarmKeypad.Cli.Printer
import AlarmKeypad.Cli.Program
import AlarmKeypad.Cli.Report
import AlarmKeypad.Cli.Resolve
import AlarmKeypad.Command
import AlarmKeypad.Config
import AlarmKeypad.Config.Profile
import AlarmKeypad.Config.Variable
import AlarmKeypad.Connector
import AlarmKeypad.Control
import AlarmKeypad.Device
import AlarmKeypad.DisplayMode
import AlarmKeypad.Endpoint
import AlarmKeypad.Fault.Cli
import AlarmKeypad.Fault.Config
import AlarmKeypad.Fault.Keypad
import AlarmKeypad.Fault.Replay
import AlarmKeypad.Fault.Transport
import AlarmKeypad.Framing
import AlarmKeypad.Gesture
import AlarmKeypad.Interval
import AlarmKeypad.Journal
import AlarmKeypad.Json.Number
import AlarmKeypad.Json.Printer
import AlarmKeypad.Json.Reader
import AlarmKeypad.Json.Token
import AlarmKeypad.Json.Value
import AlarmKeypad.Keyboard
import AlarmKeypad.Main
import AlarmKeypad.Message
import AlarmKeypad.Network.Clock
import AlarmKeypad.Network.Console
import AlarmKeypad.Network.Line
import AlarmKeypad.Network.Listener
import AlarmKeypad.Network.Peer
import AlarmKeypad.Network.Target
import AlarmKeypad.Panel
import AlarmKeypad.Proofs.Framing.Chunks
import AlarmKeypad.Proofs.Framing.Decoder
import AlarmKeypad.Proofs.Framing.Keeping
import AlarmKeypad.Proofs.Framing.Lines
import AlarmKeypad.Proofs.Framing.Link
import AlarmKeypad.Proofs.Gesture
import AlarmKeypad.Proofs.Replay.Sharing
import AlarmKeypad.Proofs.Replay.Turns
import AlarmKeypad.Proofs.Session.Calls
import AlarmKeypad.Proofs.Session.Delivery
import AlarmKeypad.Proofs.Session.Dull
import AlarmKeypad.Proofs.Session.History
import AlarmKeypad.Proofs.Session.Lifecycle
import AlarmKeypad.Proofs.Session.Linked
import AlarmKeypad.Proofs.Session.Modes
import AlarmKeypad.Proofs.Session.Omission
import AlarmKeypad.Proofs.Session.Protocol
import AlarmKeypad.Proofs.Session.Queue
import AlarmKeypad.Proofs.Session.Reading
import AlarmKeypad.Proofs.Session.Run
import AlarmKeypad.Proofs.Session.Stale
import AlarmKeypad.Proofs.Session.Tracking
import AlarmKeypad.Proofs.Session.Wire
import AlarmKeypad.Proofs.Text.Utf8
import AlarmKeypad.Replay.Invocation
import AlarmKeypad.Replay.Log
import AlarmKeypad.Replay.Operator
import AlarmKeypad.Replay.Server
import AlarmKeypad.Replay.Session
import AlarmKeypad.Scenario.Console
import AlarmKeypad.Scenario.Keypad
import AlarmKeypad.Scenario.Offline
import AlarmKeypad.Scenario.Outage
import AlarmKeypad.Scenario.Relay
import AlarmKeypad.Scenario.World
import AlarmKeypad.Session.Journal
import AlarmKeypad.Session.Move
import AlarmKeypad.Session.Notice
import AlarmKeypad.Session.State
import AlarmKeypad.Settings
import AlarmKeypad.Snapshot
import AlarmKeypad.SocketAddress
import AlarmKeypad.Text.Blank
import AlarmKeypad.Text.CodePoint
import AlarmKeypad.Text.Layout
import AlarmKeypad.Text.Numeral
import AlarmKeypad.Text.Utf8
import AlarmKeypad.Toml.Number
import AlarmKeypad.Toml.Quoted
import AlarmKeypad.Toml.Statement
import AlarmKeypad.Toml.Table
import AlarmKeypad.Toml.Value
import AlarmKeypad.Url
import AlarmKeypad.Url.Domain
import AlarmKeypad.Url.Domain.Composition
import AlarmKeypad.Url.Domain.Mapping
import AlarmKeypad.Url.Domain.Table
import AlarmKeypad.Url.Domain.Validity
import AlarmKeypad.Url.Fault
import AlarmKeypad.Url.Host
import AlarmKeypad.Url.Ipv4
import AlarmKeypad.Url.Ipv6
import AlarmKeypad.Url.Path
import AlarmKeypad.Url.Percent
import AlarmKeypad.Url.Punycode
import AlarmKeypad.WebSocket.Bytes
import AlarmKeypad.WebSocket.Digest
import AlarmKeypad.WebSocket.Frame
import AlarmKeypad.WebSocket.Handshake
import AlarmKeypad.WebSocket.Reader
import AlarmKeypad.Proofs.Bindings
import AlarmKeypad.Proofs.Json.Value
import AlarmKeypad.Proofs.Text.Numeral
import AlarmKeypad.Proofs.Json.Reading
import AlarmKeypad.Proofs.Json.Writing
import AlarmKeypad.Proofs.Json.Printing
import AlarmKeypad.Proofs.Snapshot
import AlarmKeypad.Proofs.Session.Advance
import AlarmKeypad.Proofs.Session.Retirement
import AlarmKeypad.Proofs.Session.Barrier
import AlarmKeypad.Proofs.Session.Acceptance
import AlarmKeypad.Proofs.Session.Flushing
import AlarmKeypad.Proofs.Session.Shutdown
import AlarmKeypad.Proofs.Session.Resurrection
import AlarmKeypad.Proofs.Session.Mask
import AlarmKeypad.Proofs.Session.Arrival
import AlarmKeypad.Proofs.Session.Content
import AlarmKeypad.Proofs.Framing.Encoding
import AlarmKeypad.Proofs.Session.Outgoing
import AlarmKeypad.Proofs.Replay.Agreement
import AlarmKeypad.Proofs.Replay.Dropping
import AlarmKeypad.Proofs.Scenario.Unreached
import AlarmKeypad.Proofs.Session.Demand
import AlarmKeypad.Proofs.Cli.Watching
import AlarmKeypad.Proofs.Cli.Desk
import AlarmKeypad.Proofs.Cli.Alarm
import AlarmKeypad.Proofs.Framing.RoundTrip
import AlarmKeypad.Proofs.Session.Pacing
import AlarmKeypad.Proofs.Session.Heartbeat
import AlarmKeypad.Proofs.Config.RoundTrip
import AlarmKeypad.Proofs.Gesture.Cancellation
import AlarmKeypad.Proofs.Gesture.Accounting
import AlarmKeypad.Proofs.Session.Crash
import AlarmKeypad.Proofs.Session.Fate
import AlarmKeypad.Proofs.Session.Caller
import AlarmKeypad.Proofs.Cli.Sending
import AlarmKeypad.Proofs.Text.Blank
import AlarmKeypad.Proofs.Control
import AlarmKeypad.Proofs.Framing.Terminators
import AlarmKeypad.Proofs.Command
import AlarmKeypad.Proofs.Json.Recognition
import AlarmKeypad.Proofs.Snapshot.Members
import AlarmKeypad.Proofs.Snapshot.Intake
import AlarmKeypad.Proofs.Replay.Loading
import AlarmKeypad.Proofs.Cli.Asking
import AlarmKeypad.Proofs.Cli.Resolution
import AlarmKeypad.Proofs.Url.Authority
import AlarmKeypad.Proofs.Url.Keypad
import AlarmKeypad.Proofs.Config.Beside
import AlarmKeypad.Proofs.Config.Field
import AlarmKeypad.Proofs.Framing.Residue
import AlarmKeypad.Proofs.Config.Naming
import AlarmKeypad.Proofs.Config.Confinement
import AlarmKeypad.Proofs.Text.Case
