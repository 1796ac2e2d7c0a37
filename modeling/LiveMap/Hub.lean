import LiveMap.Channel
import LiveMap.Event
import LiveMap.Registry

/-!
# The hub

The hub is the state that all connections share: the marker registry and three channels. Marker
operations go to the views, map commands go to the views, and map events go to listeners. A
committed mutation is announced on the event channel first and then on the operation channel.
-/

namespace LiveMap

/-- The shared registry and its channels. -/
structure Hub where
  /-- The shared markers. -/
  registry : Registry
  /-- Marker operations, for views. -/
  ops : Channel MarkerOp
  /-- Map commands, for views. -/
  commands : Channel MapCommand
  /-- Everything that happens on the map, for listeners. -/
  events : Channel MapEvent

namespace Hub

/-- A hub without markers or subscribers; each queue of its channels holds up to `capacity` items.
-/
def create (capacity : Nat) : Hub where
  registry := .empty
  ops := .create "marker-ops" capacity
  commands := .create "map-commands" capacity
  events := .create "map-events" capacity

/-- Tells the listeners about an operation. -/
def announceEvent (hub : Hub) (op : MarkerOp) : Hub :=
  { hub with events := (hub.events.publish (.markerOp (.ofOp op))).2 }

/-- Tells the views about an operation. -/
def announceOp (hub : Hub) (op : MarkerOp) : Hub :=
  { hub with ops := (hub.ops.publish op).2 }

/-- Carries out a mutation and announces it. Nothing is announced if it did not apply. -/
def perform (hub : Hub) (mutation : Mutation) : Option MarkerOp × Hub :=
  match hub.registry.commit mutation with
  | (none, registry) => (none, { hub with registry })
  | (some op, registry) =>
    let hub := { hub with registry }
    (some op, (hub.announceEvent op).announceOp op)

/-- Sends a command to every view. -/
def issueCommand (hub : Hub) (command : MapCommand) : PublishReport × Hub :=
  let (report, commands) := hub.commands.publish command
  (report, { hub with commands })

/-- Tells the listeners what a user did. -/
def publishEvent (hub : Hub) (event : MapEvent) : PublishReport × Hub :=
  let (report, events) := hub.events.publish event
  (report, { hub with events })

end Hub

end LiveMap
