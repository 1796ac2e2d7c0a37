import LiveMap.Fleet.Generator
import LiveMap.Hub

/-!
# View sessions

A session is one view of the map. It has a source of marker operations, which is a subscription to
the shared registry or a fleet of its own, and a subscription to the map commands. It is mounted,
then connected, then ticks, then is closed. Each tick takes at most one operation and one command. A
tick that finds one of its queues empty and cut off closes the session, and closing gives up the
source and the subscription together.
-/

namespace LiveMap

variable {ρ : Type}

/-- Where a session gets its markers from. -/
inductive Source (ρ : Type) where
  /-- The shared registry; the operations come through this subscription. -/
  | shared (ops : SubscriberId)
  /-- A private fleet. -/
  | simulated (fleet : Generator ρ)

namespace Source

/-- Subscribes to the shared registry. This comes before the first look at the registry, so nothing
is missed; an operation that is also in the first look is harmless when it is applied again. -/
def attach (hub : Hub) : Source ρ × Hub :=
  let (id, ops) := hub.ops.subscribe
  (.shared id, { hub with ops })

/-- The current markers. -/
def snapshot (hub : Hub) : Source ρ → List (Marker Float)
  | shared _ => hub.registry.markers
  | simulated fleet => fleet.snapshot

/-- The next operation, if there is one. -/
def poll [FleetDraws ρ] (hub : Hub) :
    Source ρ → Except Fault (Option MarkerOp × Source ρ × Hub)
  | shared id =>
    let (op, ops) := hub.ops.tryNext id
    .ok (op, shared id, { hub with ops })
  | simulated fleet => do
    let (op, fleet) ← fleet.nextOp
    return (some op, simulated fleet, hub)

/-- Whether the source can never yield another operation. -/
def isClosed (hub : Hub) : Source ρ → Bool
  | shared id => hub.ops.hasEnded id
  | simulated _ => false

/-- Gives up what the source holds in the hub. -/
def release (hub : Hub) : Source ρ → Hub
  | shared id => { hub with ops := hub.ops.leave id }
  | simulated _ => hub

end Source

/-- The stages of a session's life, in order. -/
inductive SessionPhase where
  /-- The session exists; ticks do nothing. -/
  | mounted
  /-- The transport is up; ticks take effect. -/
  | connected
  /-- A tick has taken effect. -/
  | ticking
  /-- The session is over. -/
  | closed
  deriving DecidableEq, Repr

/-- Why a session was closed. -/
inductive CloseReason where
  /-- The transport went away. -/
  | disconnected
  /-- The session fell behind and was cut off. -/
  | evicted
  deriving DecidableEq, Repr

/-- One change for a view to show. -/
inductive ViewDelta where
  /-- Show a marker, replacing any with its id. -/
  | addMarker (id name : String) (position : LatLng Float)
  /-- Move a marker. -/
  | moveMarker (id : String) (position : LatLng Float)
  /-- Take a marker away. -/
  | removeMarker (id : String)
  /-- Carry out a command. -/
  | command (command : MapCommand)

/-- The change that an operation makes to a view. -/
def ViewDelta.ofOp : MarkerOp → ViewDelta
  | .add id name position => .addMarker id name position
  | .update id _ position => .moveMarker id position
  | .delete id => .removeMarker id

/-- One view of the map. -/
structure Session (ρ : Type) where
  /-- The stage of its life. -/
  phase : SessionPhase
  /-- Where its markers come from, until it is closed. -/
  source : Option (Source ρ)
  /-- The subscription to map commands, until it is closed. -/
  commands : Option SubscriberId
  /-- Why it was closed, once it is. -/
  closeReason : Option CloseReason
  /-- How many ticks took effect. -/
  ticks : Nat

namespace Session

/-- A new session over a source. -/
def mount (source : Source ρ) (hub : Hub) : Session ρ × Hub :=
  let (id, commands) := hub.commands.subscribe
  ({ phase := .mounted, source := some source, commands := some id, closeReason := none,
     ticks := 0 },
    { hub with commands })

/-- The markers to show at first. -/
def initialMarkers (s : Session ρ) (hub : Hub) : List (Marker Float) :=
  match s.source with
  | some source => source.snapshot hub
  | none => []

/-- The transport is up. -/
def connect (s : Session ρ) : Session ρ :=
  if s.phase = .mounted then { s with phase := .connected } else s

/-- Whether ticks take effect. -/
def isConnected (s : Session ρ) : Bool := s.phase = .connected || s.phase = .ticking

/-- Closes the session and gives up all that it holds in the hub. A closed session stays as it is.
-/
def close (s : Session ρ) (reason : CloseReason) (hub : Hub) : Session ρ × Hub :=
  if s.phase = .closed then (s, hub)
  else
    let hub := match s.source with
      | some source => source.release hub
      | none => hub
    let hub := match s.commands with
      | some id => { hub with commands := hub.commands.leave id }
      | none => hub
    ({ s with phase := .closed, source := none, commands := none, closeReason := some reason }, hub)

/-- The marker half of a tick: at most one operation, and whether the source is found at its end. -/
def pollSource [FleetDraws ρ] (s : Session ρ) (hub : Hub) :
    Except Fault (Option MarkerOp × Bool × Session ρ × Hub) :=
  match s.source with
  | none => .ok (none, false, s, hub)
  | some source => do
    let (op, source, hub) ← source.poll hub
    return (op, op.isNone && source.isClosed hub, { s with source := some source }, hub)

/-- The command half of a tick: at most one command, and whether the subscription is found at its
end. -/
def pollCommands (s : Session ρ) (hub : Hub) : Option MapCommand × Bool × Hub :=
  match s.commands with
  | none => (none, false, hub)
  | some id =>
    let (command, commands) := hub.commands.tryNext id
    (command, command.isNone && commands.hasEnded id, { hub with commands })

/-- Takes at most one operation and one command, and lists the changes to show, the marker's first.
Nothing happens before the session is connected or after it is closed. -/
def tick [FleetDraws ρ] (s : Session ρ) (hub : Hub) :
    Except Fault (List ViewDelta × Session ρ × Hub) :=
  if s.isConnected then do
    let s := { s with phase := .ticking, ticks := s.ticks + 1 }
    let (op, sourceEnded, s, hub) ← s.pollSource hub
    let (command, commandsEnded, hub) := s.pollCommands hub
    let deltas := (op.map ViewDelta.ofOp).toList ++ (command.map ViewDelta.command).toList
    if sourceEnded || commandsEnded then
      let (s, hub) := s.close .evicted hub
      return (deltas, s, hub)
    else return (deltas, s, hub)
  else .ok ([], s, hub)

/-- Tells the listeners what the user of this view did. A closed session tells nothing. -/
def forward (s : Session ρ) (event : MapEvent) (hub : Hub) : PublishReport × Hub :=
  if s.phase = .closed then (.none, hub) else hub.publishEvent event

end Session

/-- Which source new sessions get. -/
inductive SourceKind where
  /-- The shared registry. -/
  | api
  /-- A private fleet for each view. -/
  | mock
  deriving DecidableEq, Repr

/-- What all sessions have in common. Times are in milliseconds. -/
structure SessionSettings where
  /-- From the opening of the transport to the connection. -/
  connectGrace : Nat
  /-- From one tick to the next. -/
  tickInterval : Nat
  /-- Which source new sessions get. -/
  source : SourceKind
  /-- The size of a new private fleet. -/
  mockInitialMarkers : Nat
  deriving DecidableEq, Repr

/-- The source of a new session. Chance for a private fleet comes from `random`. -/
def SessionSettings.openSource [FleetDraws ρ] (settings : SessionSettings) (random : ρ)
    (hub : Hub) : Except Fault (Source ρ × Hub) :=
  match settings.source with
  | .api => .ok (Source.attach hub)
  | .mock => do
    return (.simulated (← Generator.create settings.mockInitialMarkers .standard random), hub)

end LiveMap
