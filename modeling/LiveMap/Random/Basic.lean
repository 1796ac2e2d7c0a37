import LiveMap.Fault

/-!
# Sources of randomness

A word source yields uniformly random machine words. A source of draws yields what the simulation
asks for: a value in a range, a heading, an index, an identifier. Every word source serves as a
source of draws, and statements about the simulation quantify over all sources of draws.
-/

namespace LiveMap

/-- A supply of uniformly random machine words. -/
class WordSource (ρ : Type) where
  /-- The next 32-bit word. -/
  next32 : ρ → UInt32 × ρ
  /-- The next 64-bit word. -/
  next64 : ρ → UInt64 × ρ

/-- Draws from ranges of values of type `α`. -/
class RangeDraws (ρ : Type) (α : Type) where
  /-- A value from `lo` to `hi`, both included. -/
  between : α → α → ρ → Except Fault (α × ρ)

/-- The draws that a simulated fleet makes. -/
class FleetDraws (ρ : Type) extends RangeDraws ρ Float where
  /-- A heading in degrees, from `0` and below `360`. -/
  heading : ρ → Float × ρ
  /-- A number below `n`. -/
  below : Nat → ρ → Except Fault (Nat × ρ)
  /-- A short random identifier. -/
  identifier : ρ → String × ρ

end LiveMap
