import LiveMap.Keyed
import LiveMap.Motion
import Std.Data.TreeSet

/-!
# The fleet generator

The generator simulates a fleet of its own. It picks one operation at a time: usually a marker
moves, sometimes one appears, now and then one leaves. No marker appears in a full fleet and none
leaves a minimal one. Names are call signs with a running number and are never used twice.
-/

namespace LiveMap

/-- A simulated fleet with its source of randomness. -/
structure Generator (ρ : Type) where
  /-- The fleet by id, in ascending order. -/
  markers : List (String × Marker Float)
  /-- Every name given so far. -/
  usedNames : Std.TreeSet String
  /-- The number of markers that ever appeared, as a word that starts over after the greatest one.
  -/
  counter : UInt32
  /-- The parameters of the motion. -/
  tuning : MotionTuning Float
  /-- Where chance comes from. -/
  source : ρ

/-- The relative weights of the operations to pick from. -/
structure Weights where
  /-- A marker moves. -/
  move : Nat
  /-- A marker appears. -/
  add : Nat
  /-- A marker leaves. -/
  delete : Nat

/-- The sum of the weights. -/
def Weights.total (w : Weights) : Nat := w.move + w.add + w.delete

namespace Generator

variable {ρ : Type}

/-- Markers leave only a fleet that is larger than this. -/
def minMarkers : Nat := 2

/-- Markers appear only in a fleet that is smaller than this. -/
def maxMarkers : Nat := 120

/-- The call signs, in the order in which they are tried. -/
def callSigns : List String :=
  ["Alpha", "Bravo", "Charlie", "Delta", "Echo", "Foxtrot", "Golf", "Hotel", "India", "Juliet",
    "Kilo", "Lima", "Mike", "November", "Oscar"]

/-- A number in decimal, with at least two digits. -/
def twoDigits (n : Nat) : String :=
  if n < 10 then "0" ++ toString n else toString n

/-- A call sign with a number. -/
def numbered (sign : String) (n : Nat) : String := sign ++ "-" ++ twoDigits n

/-- The number of markers in the fleet. -/
def size (g : Generator ρ) : Nat := g.markers.length

/-- The fleet, in ascending order of the ids. -/
def snapshot (g : Generator ρ) : List (Marker Float) := g.markers.map Prod.snd

/-- A name for the marker of the current number: the first call sign whose name is not in use. -/
def unusedName (g : Generator ρ) : String :=
  ((callSigns.map (numbered · g.counter.toNat)).find? (!g.usedNames.contains ·)).getD
    (numbered "Unit" g.counter.toNat)

/-- The weights for the current size of the fleet. An empty fleet cannot move, a full one cannot
grow and a minimal one cannot shrink. -/
def weights (g : Generator ρ) : Weights where
  move := if 0 < g.size then 6 else 0
  add := if g.size < maxMarkers then 2 else 0
  delete := if minMarkers < g.size then 1 else 0

variable [FleetDraws ρ]

/-- A new marker: the next number, an unused name, then from the source an identifier, a position in
the area, a heading and a speed. -/
def spawn (g : Generator ρ) : Except Fault (Marker Float × Generator ρ) := do
  let g := { g with counter := g.counter + 1 }
  let name := g.unusedName
  let bounds := g.tuning.bounds
  let speeds := g.tuning.speedRange
  let (id, source) := FleetDraws.identifier g.source
  let (lat, source) ← RangeDraws.between bounds.minLat bounds.maxLat source
  let (lng, source) ← RangeDraws.between bounds.minLng bounds.maxLng source
  let (heading, source) := FleetDraws.heading source
  let (speed, source) ← RangeDraws.between speeds.lo speeds.hi source
  let marker : Marker Float :=
    { id, name, position := LatLng.rounded ⟨lat, lng⟩, motion := some ⟨heading, speed⟩ }
  return (marker, { g with
    markers := Keyed.insert id marker g.markers
    usedNames := g.usedNames.insert name
    source })

/-- Adds `n` new markers. -/
def spawnMany : Nat → Generator ρ → Except Fault (Generator ρ)
  | 0, g => .ok g
  | n + 1, g => do spawnMany n (← g.spawn).2

/-- A fleet of `initial` new markers. -/
def create (initial : Nat) (tuning : MotionTuning Float) (source : ρ) :
    Except Fault (Generator ρ) :=
  spawnMany initial { markers := [], usedNames := ∅, counter := 0, tuning, source }

/-- Picks a marker of the fleet, each with the same chance. -/
def pick (g : Generator ρ) : Except Fault (Option (Marker Float) × Generator ρ) :=
  if g.markers.isEmpty then .ok (none, g)
  else do
    let (index, source) ← FleetDraws.below g.size g.source
    return (g.markers[index]?.map Prod.snd, { g with source })

/-- Moves a marker by one tick. -/
def moveRandom (g : Generator ρ) : Except Fault (Option MarkerOp × Generator ρ) := do
  match ← g.pick with
  | (none, g) => return (none, g)
  | (some m, g) =>
    match ← m.advance g.tuning g.source with
    | (none, source) => return (none, { g with source })
    | (some moved, source) =>
      return (some (.updated moved),
        { g with markers := Keyed.insert m.id moved g.markers, source })

/-- Removes a marker from the fleet. -/
def forget (g : Generator ρ) (id : String) : Bool × Generator ρ :=
  (Keyed.contains id g.markers, { g with markers := Keyed.erase id g.markers })

/-- Removes a marker picked by chance. -/
def deleteRandom (g : Generator ρ) : Except Fault (Option MarkerOp × Generator ρ) := do
  match ← g.pick with
  | (none, g) => return (none, g)
  | (some m, g) => return (some (.delete m.id), (g.forget m.id).2)

/-- Adds a marker and announces it. -/
def addRandom (g : Generator ρ) : Except Fault (MarkerOp × Generator ρ) := do
  let (m, g) ← g.spawn
  return (.added m, g)

/-- Picks one operation by its weight and applies it to the fleet. A move that finds nothing to move
becomes an addition, and so does a removal that finds nothing to remove. -/
def nextOp (g : Generator ρ) : Except Fault (MarkerOp × Generator ρ) := do
  let w := g.weights
  let (roll, source) ← FleetDraws.below w.total g.source
  let g := { g with source }
  if roll < w.move then
    match ← g.moveRandom with
    | (some op, g) => return (op, g)
    | (none, g) => g.addRandom
  else if roll < w.move + w.add then
    g.addRandom
  else
    match ← g.deleteRandom with
    | (some op, g) => return (op, g)
    | (none, g) => g.addRandom

end Generator

end LiveMap
