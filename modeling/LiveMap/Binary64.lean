/-!
# Binary64 values as exact dyadic numbers

A finite double is `± m · 2^q`. Decoding the bits gives these three parts, and functions that the
language offers only through its C library are defined on the parts with exact integer arithmetic:
the remainder that keeps the sign of the dividend, rounding to an integer with halves going away
from zero, and the next smaller positive double.
-/

namespace LiveMap

/-- The finite double `± m · 2^q`. -/
structure Binary64 where
  /-- The sign bit. -/
  negative : Bool
  /-- The integer significand, below `2^53`. -/
  m : Nat
  /-- The exponent of the significand's unit, at least `-1074`. -/
  q : Int

namespace Binary64

/-- The parts of a finite double. -/
def ofFloat (x : Float) : Binary64 :=
  let bits : Nat := x.toBits.toNat
  let exponent : Nat := bits / Nat.pow 2 52 % Nat.pow 2 11
  let fraction : Nat := bits % Nat.pow 2 52
  let negative := bits / Nat.pow 2 63 == 1
  if exponent = 0 then ⟨negative, fraction, -1074⟩
  else ⟨negative, Nat.pow 2 52 + fraction, (exponent : Int) - 1075⟩

/-- The bits of `m · 2^q` without sign, for a value that binary64 holds exactly. The significand is
shifted up as far as 53 bits and the least exponent allow. -/
def magnitudeBits (m : Nat) (q : Int) : Nat :=
  if m = 0 then 0
  else
    let shift : Int := min (52 - (m.log2 : Int)) (q + 1074)
    let m : Nat := m * Nat.pow 2 shift.toNat / Nat.pow 2 (-shift).toNat
    let q : Int := q - shift
    if m < Nat.pow 2 52 then m else (q + 1075).toNat * Nat.pow 2 52 + (m - Nat.pow 2 52)

/-- The double with these parts, when binary64 holds it exactly. -/
def toFloat (x : Binary64) : Float :=
  let sign : Nat := if x.negative then Nat.pow 2 63 else 0
  Float.ofBits (UInt64.ofNat (sign + magnitudeBits x.m x.q))

/-- `x - n · y` for the integer `n` that `x / y` truncates to; both values are finite and `y` is not
zero. On the common grid `2^q` the magnitudes are integers, so the remainder is exact. -/
def remainder (x y : Binary64) : Binary64 :=
  let q : Int := min x.q y.q
  let a : Nat := x.m * Nat.pow 2 (x.q - q).toNat
  let b : Nat := y.m * Nat.pow 2 (y.q - q).toNat
  ⟨x.negative, a % b, q⟩

/-- The nearest integer, a half going away from zero: the magnitude is `⌊|x| + 1/2⌋`. -/
def round (x : Binary64) : Binary64 :=
  if 0 ≤ x.q then x
  else
    let unit : Nat := Nat.pow 2 (-x.q).toNat
    ⟨x.negative, (2 * x.m + unit) / (2 * unit), 0⟩

/-- The remainder of a division that truncates toward zero. The sign is that of the dividend, also
of a zero; infinite dividends, zero divisors and NaN give NaN. -/
def truncRemainder (x y : Float) : Float :=
  if x.isNaN || y.isNaN || x.isInf || y == 0 then 0.0 / 0.0
  else if y.isInf then x
  else ((ofFloat x).remainder (ofFloat y)).toFloat

/-- Rounding to the nearest integer, a half going away from zero. Infinities and NaN are kept. -/
def roundHalfAway (x : Float) : Float :=
  if x.isFinite then (ofFloat x).round.toFloat else x

end Binary64

end LiveMap
