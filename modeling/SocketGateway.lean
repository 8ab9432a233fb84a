import SocketGateway.Authentication
import SocketGateway.Client
import SocketGateway.ClientRegistry
import SocketGateway.CommandLine
import SocketGateway.Config
import SocketGateway.Config.File
import SocketGateway.Config.Json
import SocketGateway.Config.Toml
import SocketGateway.Decimal.Shortest
import SocketGateway.Error
import SocketGateway.Expiring.Map
import SocketGateway.Expiring.Queue
import SocketGateway.Frame
import SocketGateway.Gateway
import SocketGateway.Handshake
import SocketGateway.HookTable
import SocketGateway.Http.Request
import SocketGateway.Http.Route
import SocketGateway.Hub
import SocketGateway.Identity
import SocketGateway.Identity.Fresh
import SocketGateway.Journal
import SocketGateway.Json.Number
import SocketGateway.Json.Record
import SocketGateway.Json.Scan
import SocketGateway.Json.Text
import SocketGateway.Json.Token
import SocketGateway.Json.Tree
import SocketGateway.Json.Value
import SocketGateway.Main
import SocketGateway.Network
import SocketGateway.Network.Turn
import SocketGateway.PendingBinds
import SocketGateway.Program
import SocketGateway.Proofs.Client.RoomCalls
import SocketGateway.Proofs.Expiring.Deadlines
import SocketGateway.Proofs.Expiring.Disorder
import SocketGateway.Proofs.Expiring.Entries
import SocketGateway.Proofs.Expiring.Eviction
import SocketGateway.Proofs.Expiring.Insertions
import SocketGateway.Proofs.Expiring.Memory
import SocketGateway.Proofs.Expiring.Records
import SocketGateway.Proofs.Expiring.Reference
import SocketGateway.Proofs.Gateway.Admission
import SocketGateway.Proofs.Gateway.Arrivals
import SocketGateway.Proofs.Gateway.Dispatching
import SocketGateway.Proofs.Gateway.Farewells
import SocketGateway.Proofs.Gateway.Handshakes
import SocketGateway.Proofs.Gateway.Outcomes
import SocketGateway.Proofs.Gateway.Race
import SocketGateway.Proofs.Gateway.Runs
import SocketGateway.Proofs.Gateway.Steps
import SocketGateway.Proofs.Gateway.Usage
import SocketGateway.Proofs.Handover.Admissions
import SocketGateway.Proofs.Handover.Reached
import SocketGateway.Proofs.History
import SocketGateway.Proofs.Hub.Calls
import SocketGateway.Proofs.Hub.Delivery
import SocketGateway.Proofs.Hub.Lobby
import SocketGateway.Proofs.Hub.Queues
import SocketGateway.Proofs.Hub.Rooms
import SocketGateway.Proofs.Hub.Slots
import SocketGateway.Proofs.Hub.Spared
import SocketGateway.Proofs.Json.Inbound
import SocketGateway.Proofs.Json.Nesting
import SocketGateway.Proofs.Json.Outbound
import SocketGateway.Proofs.Json.Records
import SocketGateway.Proofs.Json.RoundTrip
import SocketGateway.Proofs.Json.Spelling
import SocketGateway.Proofs.Registry.Bindings
import SocketGateway.Proofs.Registry.Closings
import SocketGateway.Proofs.Registry.Consistency
import SocketGateway.Proofs.Registry.IdleOrder
import SocketGateway.Proofs.Registry.Lookups
import SocketGateway.Proofs.Registry.Reordering
import SocketGateway.Proofs.Rooms.Lookups
import SocketGateway.Proofs.Rooms.Membership
import SocketGateway.Proofs.Rooms.Updates
import SocketGateway.Proofs.Server.Acknowledgements
import SocketGateway.Proofs.Server.Fencing
import SocketGateway.Proofs.Server.Passages
import SocketGateway.Proofs.Server.Workload
import SocketGateway.Proofs.Session.Applications
import SocketGateway.Proofs.Session.Capacity
import SocketGateway.Proofs.Session.Phases
import SocketGateway.Proofs.Session.Quiescence
import SocketGateway.Proofs.Session.Traffic
import SocketGateway.Proofs.Session.Turns
import SocketGateway.Proofs.Signaling.Handlers
import SocketGateway.Report
import SocketGateway.RoomRegistry
import SocketGateway.Script.Field
import SocketGateway.Script.Network
import SocketGateway.Script.Setup
import SocketGateway.Server
import SocketGateway.Session
import SocketGateway.Signaling
import SocketGateway.Signaling.Stock
import SocketGateway.Text.Blank
import SocketGateway.Text.Quoted
import SocketGateway.Text.Utf8
import SocketGateway.Text.Visible
import SocketGateway.Time.Clock
import SocketGateway.Time.Rfc3339
import SocketGateway.Toml.Document
import SocketGateway.Toml.Expression
import SocketGateway.Toml.Number
import SocketGateway.Toml.Quoted
import SocketGateway.Toml.Value
import SocketGateway.Transport
import SocketGateway.Transport.Recorder
