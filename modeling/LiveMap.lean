import LiveMap.Binary64
import LiveMap.Channel
import LiveMap.Decimal.Shortest
import LiveMap.Event
import LiveMap.Fault
import LiveMap.Fleet.Generator
import LiveMap.Fleet.Shared
import LiveMap.Geo
import LiveMap.Http
import LiveMap.Hub
import LiveMap.Json.Basic
import LiveMap.Json.Fields
import LiveMap.Json.Number
import LiveMap.Json.Printer
import LiveMap.Json.Reader
import LiveMap.Json.Record
import LiveMap.Json.Syntax
import LiveMap.Json.Tree
import LiveMap.Keyed
import LiveMap.Marker
import LiveMap.Motion
import LiveMap.Proofs.Authorization
import LiveMap.Proofs.Channel.Delivery
import LiveMap.Proofs.Channel.Holding
import LiveMap.Proofs.Channel.Isolation
import LiveMap.Proofs.Channel.Publish
import LiveMap.Proofs.Channel.Valid
import LiveMap.Proofs.Chart
import LiveMap.Proofs.Doubles
import LiveMap.Proofs.Failable
import LiveMap.Proofs.Fleet.Generator
import LiveMap.Proofs.Fleet.Names
import LiveMap.Proofs.Fleet.Orphans
import LiveMap.Proofs.Fleet.Replay
import LiveMap.Proofs.Fleet.Size
import LiveMap.Proofs.Fleet.Takeover
import LiveMap.Proofs.Hub.Lane
import LiveMap.Proofs.Hub.OpLog
import LiveMap.Proofs.Hub.Run
import LiveMap.Proofs.Json.Embedding
import LiveMap.Proofs.Json.Finite
import LiveMap.Proofs.Json.Locality
import LiveMap.Proofs.Json.Order
import LiveMap.Proofs.Json.Record
import LiveMap.Proofs.Json.RoundTrip
import LiveMap.Proofs.Json.Token
import LiveMap.Proofs.Motion.Confinement
import LiveMap.Proofs.Places
import LiveMap.Proofs.Random.Draws
import LiveMap.Proofs.Registry
import LiveMap.Proofs.Rpc.Commands
import LiveMap.Proofs.Rpc.Dispatch
import LiveMap.Proofs.Rpc.Effect
import LiveMap.Proofs.Rpc.Envelope
import LiveMap.Proofs.Rpc.Events
import LiveMap.Proofs.Rpc.Markers
import LiveMap.Proofs.Rpc.Notification
import LiveMap.Proofs.Rpc.Params
import LiveMap.Proofs.Rpc.Relay
import LiveMap.Proofs.Rpc.RoundTrip
import LiveMap.Proofs.Rpc.Transports
import LiveMap.Proofs.Session.Backlog
import LiveMap.Proofs.Session.Convergence
import LiveMap.Proofs.Session.LifeCycle
import LiveMap.Proofs.Session.Simulated
import LiveMap.Proofs.Session.Tick
import LiveMap.Proofs.Session.Turn
import LiveMap.Proofs.Session.Viewing
import LiveMap.Proofs.Settings
import LiveMap.Proofs.Socket.Answers
import LiveMap.Proofs.Socket.Cancellation
import LiveMap.Proofs.Socket.Conversation
import LiveMap.Proofs.Socket.Discipline
import LiveMap.Proofs.Socket.Moves
import LiveMap.Proofs.Socket.Stream
import LiveMap.Proofs.Text.ByteOrder
import LiveMap.Proofs.Text.Trim
import LiveMap.Proofs.Wire.MemberOrder
import LiveMap.Queue
import LiveMap.Random.Basic
import LiveMap.Random.ChaCha
import LiveMap.Random.Tape
import LiveMap.Random.Uniform
import LiveMap.Registry
import LiveMap.Rpc.Dispatch
import LiveMap.Rpc.Message
import LiveMap.Rpc.Method
import LiveMap.Scalar
import LiveMap.Server
import LiveMap.Session
import LiveMap.Settings
import LiveMap.Settings.Address
import LiveMap.Socket.Frame
import LiveMap.Socket.Rpc
import LiveMap.Socket.View
import LiveMap.Text.Blank
import LiveMap.Text.Invisible
import LiveMap.Text.Quoted
import LiveMap.Text.Utf8
import LiveMap.Timer
import LiveMap.Wire.Incoming
import LiveMap.Wire.Outgoing
