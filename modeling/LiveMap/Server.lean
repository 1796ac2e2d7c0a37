import LiveMap.Fleet.Shared
import LiveMap.Http
import LiveMap.Settings
import LiveMap.Socket.Rpc
import LiveMap.Socket.View
import LiveMap.Timer

/-!
# The server

The server is its hub, its connections by name, perhaps a shared fleet, and a clock in milliseconds.
Something happens to it from outside, and then it settles: whoever waits for a deadline that has
passed does all that is due, one after the other in the order of their deadlines, and open streams
send what is queued then. What clients see of their sockets is collected until it is picked up.

A fault in a view or in the shared fleet ends the one it happens to; the others go on.
-/

namespace LiveMap

variable {ρ : Type}

/-- The server's side of a connection. -/
inductive Connection (ρ : Type) where
  /-- An RPC socket. -/
  | rpc (socket : RpcSocket)
  /-- A view socket that connects, or ticks, when its timer goes off. -/
  | view (socket : ViewSocket ρ) (timer : Timer)
  /-- A connection that is over. -/
  | ended

/-- A fleet that was started to drive the shared registry. -/
inductive SharedFleet (ρ : Type) where
  /-- The fleet makes a step when its timer goes off. -/
  | running (generator : Generator ρ) (timer : Timer)
  /-- A fault has ended the fleet, and nobody has stopped it yet. -/
  | faulted

/-- A running server. -/
structure Server (ρ : Type) where
  /-- The shared state. -/
  hub : Hub
  /-- What all sessions have in common. -/
  sessions : SessionSettings
  /-- The token that guards JSON-RPC. -/
  token : Option String
  /-- The time. -/
  now : Nat
  /-- The connections by name. -/
  connections : List (String × Connection ρ)
  /-- The shared fleet. -/
  fleet : Option (SharedFleet ρ)
  /-- What clients have seen and nobody has picked up, the newest first. -/
  outbox : List (String × Outgoing)

namespace Server

/-- A server without connections. -/
def create (settings : ServerSettings) : Server ρ where
  hub := .create settings.queueCapacity
  sessions := settings.sessions
  token := settings.rpcToken
  now := 0
  connections := []
  fleet := none
  outbox := []

/-! ## Connections -/

/-- Lets a client see something. -/
def send (s : Server ρ) (name : String) (frame : Outgoing) : Server ρ :=
  { s with outbox := (name, frame) :: s.outbox }

/-- Lets a client see some values as texts. -/
def sendAll (s : Server ρ) (name : String) (values : List Json) : Server ρ :=
  values.foldl (fun s v => s.send name (.text v.render)) s

/-- Replaces the server's side of a connection. -/
def setConnection (s : Server ρ) (name : String) (c : Connection ρ) : Server ρ :=
  { s with connections := Keyed.put name c s.connections }

/-- Ends a connection after the session or stream behind it was given up. -/
def finish (s : Server ρ) (name : String) (frame : Option CloseFrame) : Server ρ :=
  let s := match frame with
    | some frame => s.send name (.close (some frame))
    | none => s
  (s.send name .ended).setConnection name .ended

/-- Gives up the session or stream behind a connection. -/
def abandon (s : Server ρ) : Connection ρ → Server ρ
  | .rpc socket => { s with hub := (socket.release s.hub).2 }
  | .view socket _ => { s with hub := (socket.finish s.hub).2 }
  | .ended => s

/-- Takes a frame on an RPC socket. -/
def receiveRpc (s : Server ρ) (name : String) (socket : RpcSocket) (frame : Incoming) : Server ρ :=
  let (sent, verdict, socket, hub) := socket.receive frame s.hub
  let s := ({ s with hub } : Server ρ).sendAll name (sent.map RpcMessage.toJson)
  match verdict with
  | .stay => s.setConnection name (.rpc socket)
  | .leave close => s.finish name close

/-- Takes a frame on a view socket. -/
def receiveView (s : Server ρ) (name : String) (socket : ViewSocket ρ) (timer : Timer)
    (frame : Incoming) : Server ρ :=
  let (verdict, socket, hub) := socket.receive frame s.hub
  match verdict with
  | .stay => ({ s with hub } : Server ρ).setConnection name (.view socket timer)
  | .leave close =>
    let (_, hub) := socket.finish hub
    ({ s with hub } : Server ρ).finish name close

/-- A client's close is answered before anything else. -/
def echoClose (s : Server ρ) (name : String) : Incoming → Server ρ
  | .close frame => s.send name (.close (frame.bind CloseFrame.echo?))
  | _ => s

/-- Takes a frame from the client of this name. Says whether a connection could take it; there is no
answer for a name that has none. -/
def receive (s : Server ρ) (name : String) (frame : Incoming) : Option Bool × Server ρ :=
  match Keyed.find? name s.connections with
  | none => (none, s)
  | some .ended => (some false, s)
  | some (.rpc socket) => (some true, (s.echoClose name frame).receiveRpc name socket frame)
  | some (.view socket timer) =>
    (some true, (s.echoClose name frame).receiveView name socket timer frame)

/-- The client of this name vanishes. Says whether there was one. -/
def drop (s : Server ρ) (name : String) : Bool × Server ρ :=
  match Keyed.find? name s.connections with
  | none => (false, s)
  | some c =>
    let s := s.abandon c
    (true, { s with
      connections := Keyed.erase name s.connections
      outbox := s.outbox.filter (·.1 != name) })

/-- The timer of a session that is to go off after some time, and in every tick interval then. -/
def timerIn (s : Server ρ) (ms : Nat) : Timer :=
  .ofPeriod (s.now + ms) s.sessions.tickInterval

/-- Opens a view. Chance for a private fleet comes from `random`. -/
def openView [FleetDraws ρ] (s : Server ρ) (random : ρ) (name : String) : Server ρ :=
  match s.sessions.openSource random s.hub with
  | .error _ => s.finish name none
  | .ok (source, hub) =>
    let (mount, socket, hub) := ViewSocket.start source hub
    (({ s with hub } : Server ρ).sendAll name [mount.toJson]).setConnection name
      (.view socket (s.timerIn s.sessions.connectGrace))

/-- What an attempt to open a socket comes to. -/
inductive Opening where
  /-- The socket is open. -/
  | opened
  /-- The attempt is refused. -/
  | refused (response : HttpResponse)

/-- Opens a socket on a path, under a name that is given up by whoever had it. -/
def openSocket [FleetDraws ρ] (s : Server ρ) (random : ρ) (name path : String)
    (headers : List (String × String)) : Opening × Server ρ :=
  let s := (s.drop name).2
  let headers := Headers.unpadded headers
  match Route.ofPath? path with
  | some .view => (.opened, s.openView random name)
  | some .rpcSocket =>
    if Authorization.accepts s.token headers then (.opened, s.setConnection name (.rpc .idle))
    else (.refused .unauthorized, s)
  | _ =>
    let (response, hub) := Http.serve s.token ⟨"GET", path, headers, []⟩ s.hub
    (.refused response, { s with hub })

/-- Serves a single request. -/
def http (s : Server ρ) (request : HttpRequest) : HttpResponse × Server ρ :=
  let (response, hub) := Http.serve s.token request s.hub
  (response, { s with hub })

/-! ## Streams -/

/-- Lets an open stream send all that is queued. -/
def flushStream (s : Server ρ) (name : String) : Connection ρ → Server ρ
  | .rpc socket =>
    let (sent, socket, hub) := socket.deliverAll s.hub
    let s : Server ρ := { s with hub }
    (s.sendAll name (sent.map RpcMessage.toJson)).setConnection name (.rpc socket)
  | .view .. | .ended => s

/-- Lets every open stream send all that is queued. -/
def flush (s : Server ρ) : Server ρ :=
  s.connections.foldl (fun s (name, c) => s.flushStream name c) s

/-! ## Time -/

/-- Some ticks of a view in turn, up to the one that ends the connection. -/
def tickView [FleetDraws ρ] (name : String) (timer : Timer) :
    (ticks : Nat) → ViewSocket ρ → Server ρ → Server ρ
  | 0, socket, s => s.setConnection name (.view socket timer)
  | ticks + 1, socket, s =>
    match socket.tick s.hub with
    | .error _ => (s.abandon (.view socket timer)).finish name none
    | .ok (sent, verdict, socket, hub) =>
      let s := ({ s with hub } : Server ρ).sendAll name (sent.map ViewMessage.toJson)
      match verdict with
      | .stay => tickView name timer ticks socket s
      | .leave close => s.finish name close

/-- The timer of a view is looked at: the session connects if it has not, and ticks if it has. -/
def fireView [FleetDraws ρ] (s : Server ρ) (name : String) (socket : ViewSocket ρ)
    (timer : Timer) : Server ρ :=
  if socket.session.phase = .mounted then
    s.setConnection name (.view socket.connect (s.timerIn timer.period))
  else tickView name (timer.after s.now) (timer.firings s.now) socket s

/-- The timer of the fleet is looked at: the fleet makes its steps. -/
def fireFleet [FleetDraws ρ] (s : Server ρ) (generator : Generator ρ) (timer : Timer) :
    Server ρ :=
  let (hub, rest) := Hub.fleetSteps (timer.firings s.now) s.hub generator
  let fleet := match rest with
    | some generator => .running generator (timer.after s.now)
    | none => .faulted
  { s with hub, fleet := some fleet }

/-- Someone who waits for a timer. -/
inductive Waiting (ρ : Type) where
  /-- The shared fleet. -/
  | fleet (generator : Generator ρ) (timer : Timer)
  /-- A view. -/
  | view (name : String) (socket : ViewSocket ρ) (timer : Timer)

/-- The deadline that is waited for. -/
def Waiting.deadline : Waiting ρ → Nat
  | fleet _ timer | view _ _ timer => timer.deadline

/-- Looks at a timer. -/
def fire [FleetDraws ρ] (s : Server ρ) : Waiting ρ → Server ρ
  | .fleet generator timer => s.fireFleet generator timer
  | .view name socket timer => s.fireView name socket timer

/-- All who wait for a timer. -/
def waiting (s : Server ρ) : List (Waiting ρ) :=
  let fleet := match s.fleet with
    | some (.running generator timer) => [Waiting.fleet generator timer]
    | some .faulted | none => []
  fleet ++ s.connections.filterMap fun (name, c) =>
    match c with
    | .view socket timer => some (.view name socket timer)
    | .rpc _ | .ended => none

/-- Those whose deadline has passed, the earliest first. -/
def due (s : Server ρ) : List (Waiting ρ) :=
  (s.waiting.filter fun w => w.deadline ≤ s.now).mergeSort fun a b => a.deadline ≤ b.deadline

/-- Lets everyone do what is due, and then every open stream send what is queued. -/
def settle [FleetDraws ρ] (s : Server ρ) : Server ρ := (s.due.foldl fire s).flush

/-- The clock leaps, and the server notices it afterwards. -/
def jump (s : Server ρ) (ms : Nat) : Server ρ := { s with now := s.now + ms }

/-- How long it takes to the next deadline. -/
def untilNext? (s : Server ρ) : Option Nat :=
  ((s.waiting.map Waiting.deadline).filter (s.now < ·)).min?.map (· - s.now)

/-- Time passes from deadline to deadline, so that each timer goes off when it is due. -/
def advance [FleetDraws ρ] (ms : Nat) (s : Server ρ) : Server ρ :=
  match s.untilNext? with
  | none => s.jump ms
  | some wait =>
    if 0 < wait ∧ wait ≤ ms then advance (ms - wait) (s.jump wait).settle else s.jump ms
  termination_by ms

/-! ## The shared fleet -/

/-- Starts the shared fleet, unless there is one: its markers are put in place, and its first step
is due. -/
def startFleet (s : Server ρ) (generator : Generator ρ) (period : Nat) : Bool × Server ρ :=
  match s.fleet with
  | some _ => (false, s)
  | none =>
    (true, { s with
      hub := s.hub.seedFleet generator
      fleet := some (.running generator (.ofPeriod s.now period)) })

/-- Stops the shared fleet. Says whether there was one. -/
def stopFleet (s : Server ρ) : Bool × Server ρ := (s.fleet.isSome, { s with fleet := none })

/-! ## What clients see -/

/-- Picks up what the clients have seen: by name in the order of the names' first frames, each
client's frames in order. -/
def collect (s : Server ρ) : List (String × List Outgoing) × Server ρ :=
  let frames := s.outbox.foldl (fun seen (name, frame) =>
    Keyed.put name (frame :: (Keyed.find? name seen).getD []) seen) []
  (frames, { s with outbox := [] })

end Server

end LiveMap
