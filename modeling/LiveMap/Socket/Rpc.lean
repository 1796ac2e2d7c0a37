import LiveMap.Rpc.Dispatch
import LiveMap.Socket.Frame

/-!
# The RPC socket

A client sends requests as texts and gets each answered at once. It may open one stream of events at
a time; while the stream is open, the events published since are sent as notifications. The stream
ends when the client cancels it or when it falls behind, and its opening request is answered then.
-/

namespace LiveMap

open Rpc (Request Response RpcError)

/-- What the server sends on an RPC socket. -/
inductive RpcMessage where
  /-- The answer to a request. -/
  | response (r : Response)
  /-- An event of the open stream. -/
  | notification (e : MapEvent)

/-- A message as it is sent. -/
def RpcMessage.toJson : RpcMessage → Json
  | response r => r.toJson
  | notification e => Rpc.notification e

/-- An open stream of events. -/
structure EventStream where
  /-- The id of the request that opened it. -/
  requestId : Json
  /-- The subscription that the events come through. -/
  subscriber : SubscriberId
  /-- The number of events sent. -/
  delivered : Nat

/-- The server's side of an RPC socket. -/
structure RpcSocket where
  /-- The open stream, if there is one. -/
  stream : Option EventStream

namespace RpcSocket

/-- A socket without a stream. -/
def idle : RpcSocket := ⟨none⟩

/-- The method that ends the stream. -/
def cancelMethod : String := "$/cancelRequest"

/-- The parameters of a cancellation. -/
abbrev cancelShape : Json.Record := ⟨"CancelParams", [⟨"id", .anyOptional⟩]⟩

/-- The id that a cancellation names. Parameters that cannot be read name none. -/
def cancelTarget? (params : Json) : Option Json :=
  match cancelShape.read params with
  | .ok (id, _) => id
  | .error _ => none

/-- Whether a cancellation is meant for a stream. One that names no id is meant for any stream. -/
def isCancelled (stream : EventStream) (target : Option Json) : Bool :=
  match target with
  | some id => stream.requestId == id
  | none => true

/-- Gives up the subscription of the open stream. -/
def release (socket : RpcSocket) (hub : Hub) : RpcSocket × Hub :=
  match socket.stream with
  | none => (socket, hub)
  | some stream => (idle, { hub with events := hub.events.leave stream.subscriber })

/-- Ends the open stream if the cancellation is meant for it; its request has succeeded. -/
def cancel (socket : RpcSocket) (params : Json) (hub : Hub) : List RpcMessage × RpcSocket × Hub :=
  match socket.stream with
  | none => ([], socket, hub)
  | some stream =>
    if isCancelled stream (cancelTarget? params) then
      let (socket, hub) := socket.release hub
      ([.response (.success stream.requestId Rpc.okResult)], socket, hub)
    else ([], socket, hub)

/-- The refusal of a second stream. -/
def busy (active : Json) : RpcError :=
  .invalidRequest ("an event stream is already active for request " ++ active.render)

/-- Opens a stream that answers to an id, unless one is open. -/
def subscribe (socket : RpcSocket) (id : Json) (hub : Hub) : List RpcMessage × RpcSocket × Hub :=
  match socket.stream with
  | some stream => ([.response (.failure id (busy stream.requestId))], socket, hub)
  | none =>
    let (subscriber, events) := hub.events.subscribe
    ([], ⟨some ⟨id, subscriber, 0⟩⟩, { hub with events })

/-- Serves a request. -/
def serve (socket : RpcSocket) (request : Request) (hub : Hub) :
    List RpcMessage × RpcSocket × Hub :=
  if request.method = cancelMethod then socket.cancel request.params hub
  else
    match Rpc.dispatch hub request with
    | (.reply response, hub) => ([.response response], socket, hub)
    | (.silent, hub) => ([], socket, hub)
    | (.subscribe id, hub) => socket.subscribe id hub

/-- Serves a text. One that is no request is answered with the reason. -/
def handleText (socket : RpcSocket) (text : String) (hub : Hub) :
    List RpcMessage × RpcSocket × Hub :=
  match Request.parse text with
  | .error refusal => ([.response refusal], socket, hub)
  | .ok request => socket.serve request hub

/-- Takes the next event of the open stream. A stream found at its end has fallen behind, and its
request has failed. Nothing is sent while nothing is queued. -/
def deliver (socket : RpcSocket) (hub : Hub) : Option RpcMessage × RpcSocket × Hub :=
  match socket.stream with
  | none => (none, socket, hub)
  | some stream =>
    match hub.events.receive stream.subscriber with
    | (.item event, events) =>
      (some (.notification event), ⟨some { stream with delivered := stream.delivered + 1 }⟩,
        { hub with events })
    | (.pending, events) => (none, socket, { hub with events })
    | (.ended, events) =>
      let (socket, hub) := socket.release { hub with events }
      (some (.response (.failure stream.requestId .subscriptionEvicted)), socket, hub)

/-- Takes events until nothing is queued, at most `limit` of them. -/
def deliverUpTo : (limit : Nat) → RpcSocket → Hub → List RpcMessage × RpcSocket × Hub
  | 0, socket, hub => ([], socket, hub)
  | limit + 1, socket, hub =>
    match socket.deliver hub with
    | (none, socket, hub) => ([], socket, hub)
    | (some message, socket, hub) =>
      let (more, socket, hub) := deliverUpTo limit socket hub
      (message :: more, socket, hub)

/-- Takes all that is queued. A queue holds at most `capacity` events, and its end takes one more
step. -/
def deliverAll (socket : RpcSocket) (hub : Hub) : List RpcMessage × RpcSocket × Hub :=
  deliverUpTo (hub.events.capacity + 1) socket hub

/-- What an incoming frame does to the connection. -/
def verdict : Incoming → Verdict
  | .text _ | .ping | .pong => .stay
  | .binary => .leave (some .unsupported)
  | .close _ | .lost => .leave none

/-- Takes an incoming frame. When the connection ends, an open stream ends with it, unanswered. -/
def receive (socket : RpcSocket) (frame : Incoming) (hub : Hub) :
    List RpcMessage × Verdict × RpcSocket × Hub :=
  match frame with
  | .text content =>
    let (sent, socket, hub) := socket.handleText content hub
    (sent, .stay, socket, hub)
  | frame =>
    match verdict frame with
    | .stay => ([], .stay, socket, hub)
    | .leave close =>
      let (socket, hub) := socket.release hub
      ([], .leave close, socket, hub)

end RpcSocket

end LiveMap
