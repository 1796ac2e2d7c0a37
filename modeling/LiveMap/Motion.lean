import LiveMap.Marker
import LiveMap.Random.Basic

/-!
# Motion of simulated markers

Each tick a simulated marker steps along its heading, its heading drifts a little, and at the edges
of its area it bounces: the coordinate that left the area is clamped to the edge and the heading is
reflected. The step is computed from the heading before the drift, and a bounce reflects the heading
after the drift. Both axes may bounce in one tick.
-/

namespace LiveMap

variable {α ρ : Type}

/-- The values from `lo` to `hi`, ends included. -/
structure Interval (α : Type) where
  /-- The least value. -/
  lo : α
  /-- The greatest value. -/
  hi : α

/-- The parameters of simulated motion. -/
structure MotionTuning (α : Type) where
  /-- The area that markers stay in. -/
  bounds : Bounds α
  /-- The factors that a step along one axis is scaled by. -/
  stepJitter : Interval α
  /-- The greatest change of heading per tick, in degrees, either way. -/
  headingDrift : α
  /-- The speeds of new markers. -/
  speedRange : Interval α

/-- A leisurely fleet over the continental United States. -/
def MotionTuning.standard : MotionTuning Float where
  bounds := .unitedStates
  stepJitter := ⟨0.6, 1.4⟩
  headingDrift := 20
  speedRange := ⟨0.4, 1.2⟩

/-- The angle in `[0, 360)` that differs from `x` by a multiple of `360`. A tiny negative angle may
round up to a full turn, which is no turn. -/
def wrapDegrees [Scalar α] (x : α) : α :=
  let turn : α := Scalar.ofNat 360
  let r := Scalar.remainder x turn
  let r := if r < Scalar.ofNat 0 then r + turn else r
  if turn ≤ r then Scalar.ofNat 0 else r

/-- What chance contributes to one tick of one marker. -/
structure Jolt (α : Type) where
  /-- Scales the step along the meridian. -/
  latFactor : α
  /-- Scales the step along the parallel. -/
  lngFactor : α
  /-- Added to the heading, in degrees. -/
  drift : α

/-- Draws the jolt of one tick: the latitude factor, the longitude factor, the drift. -/
def Jolt.draw [Scalar α] [RangeDraws ρ α] (tuning : MotionTuning α) (source : ρ) :
    Except Fault (Jolt α × ρ) := do
  let jitter := tuning.stepJitter
  let (latFactor, source) ← RangeDraws.between jitter.lo jitter.hi source
  let (lngFactor, source) ← RangeDraws.between jitter.lo jitter.hi source
  let (drift, source) ← RangeDraws.between (-tuning.headingDrift) tuning.headingDrift source
  return (⟨latFactor, lngFactor, drift⟩, source)

/-- Brings a latitude back into the area. If it was outside, the heading is reflected at the
parallel. -/
def Bounds.bounceLat [Scalar α] (b : Bounds α) (lat heading : α) : Except Fault (α × α) :=
  if b.containsLat lat then .ok (lat, heading)
  else do return (← b.clampLat lat, wrapDegrees (Scalar.ofNat 180 - heading))

/-- Brings a longitude back into the area. If it was outside, the heading is reflected at the
meridian. -/
def Bounds.bounceLng [Scalar α] (b : Bounds α) (lng heading : α) : Except Fault (α × α) :=
  if b.containsLng lng then .ok (lng, heading)
  else do return (← b.clampLng lng, wrapDegrees (Scalar.ofNat 360 - heading))

/-- One step of a marker with this motion under a given jolt. -/
def Marker.step [Scalar α] (m : Marker α) (motion : Motion α) (tuning : MotionTuning α)
    (jolt : Jolt α) : Except Fault (Marker α) := do
  let angle := Scalar.radians motion.heading
  let dLat := motion.speed * Scalar.cos angle * jolt.latFactor
  let dLng := motion.speed * Scalar.sin angle * jolt.lngFactor
  let heading := wrapDegrees (motion.heading + jolt.drift)
  let (lat, heading) ← tuning.bounds.bounceLat (m.position.lat + dLat) heading
  let (lng, heading) ← tuning.bounds.bounceLng (m.position.lng + dLng) heading
  return { m with
    position := LatLng.rounded ⟨lat, lng⟩
    motion := some { motion with heading } }

/-- Advances a simulated marker by one tick. A marker without motion gives nothing and uses up no
randomness. -/
def Marker.advance [Scalar α] [RangeDraws ρ α] (m : Marker α) (tuning : MotionTuning α)
    (source : ρ) : Except Fault (Option (Marker α) × ρ) :=
  match m.motion with
  | none => .ok (none, source)
  | some motion => do
    let (jolt, source) ← Jolt.draw tuning source
    return (some (← m.step motion tuning jolt), source)

end LiveMap
