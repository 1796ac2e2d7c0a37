import LiveMap.Fault
import LiveMap.Scalar

/-!
# Positions and boxes

A position is a pair of degrees. A box is a latitude interval and a longitude interval, both with
their ends. Positions that are stored lie on a grid of four decimal places.
-/

namespace LiveMap

variable {α : Type}

/-- A latitude and a longitude in degrees. The type enforces no range. -/
structure LatLng (α : Type) where
  /-- Degrees north. -/
  lat : α
  /-- Degrees east. -/
  lng : α

/-- A box of positions; the edges belong to it. -/
structure Bounds (α : Type) where
  /-- The southern edge. -/
  minLat : α
  /-- The northern edge. -/
  maxLat : α
  /-- The western edge. -/
  minLng : α
  /-- The eastern edge. -/
  maxLng : α

/-- Whether `x` lies between `lo` and `hi`, ends included. -/
def within [Scalar α] (lo hi x : α) : Bool :=
  decide (lo ≤ x) && decide (x ≤ hi)

/-- The value between `lo` and `hi` that is closest to `x`. -/
def clamp [Scalar α] (lo hi x : α) : Except Fault α :=
  if lo ≤ hi then .ok (if x < lo then lo else if hi < x then hi else x)
  else .error .invertedBounds

/-- The value on the grid of four decimal places nearest to `x`, about eleven metres at the
equator. -/
def round4 [Scalar α] (x : α) : α :=
  Scalar.round (x * Scalar.ofNat 10000) / Scalar.ofNat 10000

/-- Both coordinates on the grid of four decimal places. -/
def LatLng.rounded [Scalar α] (p : LatLng α) : LatLng α :=
  ⟨round4 p.lat, round4 p.lng⟩

namespace Bounds

/-- Whether the box spans this latitude. -/
def containsLat [Scalar α] (b : Bounds α) (lat : α) : Bool :=
  within b.minLat b.maxLat lat

/-- Whether the box spans this longitude. -/
def containsLng [Scalar α] (b : Bounds α) (lng : α) : Bool :=
  within b.minLng b.maxLng lng

/-- Whether the position lies in the box. -/
def contains [Scalar α] (b : Bounds α) (p : LatLng α) : Bool :=
  b.containsLat p.lat && b.containsLng p.lng

/-- The latitude of the box closest to this one. -/
def clampLat [Scalar α] (b : Bounds α) (lat : α) : Except Fault α :=
  clamp b.minLat b.maxLat lat

/-- The longitude of the box closest to this one. -/
def clampLng [Scalar α] (b : Bounds α) (lng : α) : Except Fault α :=
  clamp b.minLng b.maxLng lng

/-- The continental United States. -/
def unitedStates : Bounds Float := ⟨25, 49, -125, -66⟩

end Bounds

end LiveMap
