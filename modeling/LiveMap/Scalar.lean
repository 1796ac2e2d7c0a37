import LiveMap.Binary64

/-!
# The arithmetic that positions and headings need

Positions, boxes and motion are defined over any type with this arithmetic. The server runs on
doubles; the same definitions read over the rationals say what the motion rules mean without
rounding.
-/

namespace LiveMap

/-- Arithmetic on coordinates and angles: the four operations, a decidable order, rounding, a
remainder, and the trigonometry of a heading. -/
class Scalar (α : Type) extends Add α, Sub α, Mul α, Div α, Neg α, LE α, LT α where
  /-- The value of a natural number. -/
  ofNat : Nat → α
  /-- The order is decidable. -/
  decLe : DecidableLE α
  /-- The strict order is decidable. -/
  decLt : DecidableLT α
  /-- The nearest integer, a half going away from zero. -/
  round : α → α
  /-- The remainder of a division that truncates toward zero. -/
  remainder : α → α → α
  /-- An angle in degrees, in radians. -/
  radians : α → α
  /-- The sine of an angle in radians. -/
  sin : α → α
  /-- The cosine of an angle in radians. -/
  cos : α → α

instance Scalar.decidableLE {α : Type} [Scalar α] : DecidableLE α := Scalar.decLe

instance Scalar.decidableLT {α : Type} [Scalar α] : DecidableLT α := Scalar.decLt

/-- Doubles. A degree is the double nearest to `π / 180`. -/
instance : Scalar Float where
  ofNat := Float.ofNat
  decLe := inferInstance
  decLt := inferInstance
  round := Binary64.roundHalfAway
  remainder := Binary64.truncRemainder
  radians x := x * (3.14159265358979323846 / 180.0)
  sin := Float.sin
  cos := Float.cos

end LiveMap
