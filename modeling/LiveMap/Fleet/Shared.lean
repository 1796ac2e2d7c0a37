import LiveMap.Fleet.Generator
import LiveMap.Hub

/-!
# The shared fleet

A generator can drive the shared registry. Its markers are put in place once, and then each of its
operations is applied. Moves and removals reach only registry entries that still have motion. An
operation that does not apply means that a client took the marker over, and then the generator
forgets it.
-/

namespace LiveMap

variable {ρ : Type}

namespace Hub

/-- Puts every marker of a fleet into the registry. -/
def seedFleet (hub : Hub) (g : Generator ρ) : Hub :=
  g.snapshot.foldl (fun hub m => (hub.perform (.add m)).2) hub

/-- The mutation that carries a fleet operation over to the registry. An addition takes the marker
with its motion from the fleet, so it has none if the fleet lost the marker. -/
def mutationOf? (g : Generator ρ) : MarkerOp → Option Mutation
  | .add id _ _ => (Keyed.find? id g.markers).map .add
  | .update id _ position => some (.updateMoving id position)
  | .delete id => some (.deleteMoving id)

/-- Applies an operation of a fleet to the registry. The fleet forgets a marker whose operation does
not apply. -/
def applyFleetOp (hub : Hub) (g : Generator ρ) (op : MarkerOp) : Hub × Generator ρ :=
  match (mutationOf? g op).map hub.perform with
  | some (some _, hub) => (hub, g)
  | some (none, hub) => (hub, (g.forget op.id).2)
  | none => (hub, (g.forget op.id).2)

/-- One step of a fleet: an operation is picked, then applied. -/
def fleetStep [FleetDraws ρ] (hub : Hub) (g : Generator ρ) : Except Fault (Hub × Generator ρ) := do
  let (op, g) ← g.nextOp
  return hub.applyFleetOp g op

/-- Some steps of a fleet in turn. A fault ends them, and nothing is left of the fleet then. -/
def fleetSteps [FleetDraws ρ] : Nat → Hub → Generator ρ → Hub × Option (Generator ρ)
  | 0, hub, g => (hub, some g)
  | n + 1, hub, g =>
    match hub.fleetStep g with
    | .ok (hub, g) => fleetSteps n hub g
    | .error _ => (hub, none)

end Hub

end LiveMap
