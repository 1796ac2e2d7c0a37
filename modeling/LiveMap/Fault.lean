/-!
# Faults of numeric settings

Clamping to a box and drawing from a range have no result when the bounds are out of order. These
are the causes; the caller that chose the settings is at fault, not the data that was processed.
-/

namespace LiveMap

/-- Why a clamp or a random draw has no result. -/
inductive Fault where
  /-- The lower bound of a box is not at most its upper bound. -/
  | invertedBounds
  /-- A range to draw from contains nothing. -/
  | emptyRange
  /-- A range to draw from is wider than the largest finite value. -/
  | unboundedRange
  deriving DecidableEq, Repr

end LiveMap
