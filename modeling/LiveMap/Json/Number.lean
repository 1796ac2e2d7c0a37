import LiveMap.Binary64

/-!
# Numbers of JSON texts

A number is an integer of at most 64 bits or a double; `1` and `1.0` are different numbers. A
numeral is what the grammar of JSON admits as a number. Its value is found by collecting as many
digits as fit into 64 bits and scaling by a power of ten in one floating-point operation, so a long
numeral may come out as a neighbour of the double nearest to it.
-/

namespace LiveMap.Json

/-- A number of a JSON value. -/
inductive Number where
  /-- An integer from `-2^63` and below `2^64`. -/
  | int (n : Int)
  /-- A double. -/
  | float (x : Float)

/-- Numbers of different kinds differ. Doubles are compared by value, so both zeros agree. -/
def Number.beq : Number → Number → Bool
  | int m, int n => m == n
  | float x, float y => x == y
  | _, _ => false

instance : BEq Number := ⟨Number.beq⟩

/-- A number as a double. -/
def Number.toFloat : Number → Float
  | int n => if 0 ≤ n then n.toNat.toUInt64.toFloat else -((-n).toNat.toUInt64.toFloat)
  | float x => x

/-- The exponent part of a numeral. -/
structure ExponentPart where
  /-- Whether the exponent has a minus sign. -/
  negative : Bool
  /-- The digits, in order. -/
  digits : List Nat

/-- A numeral: a sign, the digits before the point, those after it, an exponent. -/
structure Numeral where
  /-- Whether the numeral has a minus sign. -/
  negative : Bool
  /-- The digits before the point. -/
  whole : List Nat
  /-- The digits after the point, if there is a point. -/
  fraction : Option (List Nat)
  /-- The exponent part, if there is one. -/
  exponent : Option ExponentPart

/-- The digits collected from a numeral: the number `significand · 10^scale`. -/
structure Collected where
  /-- At most 64 bits. -/
  significand : Nat
  /-- The power of ten of the last digit collected. -/
  scale : Int
  /-- Whether a digit did not fit. -/
  isFull : Bool

namespace Collected

/-- The greatest significand. -/
def maxSignificand : Nat := Nat.pow 2 64 - 1

/-- Takes a digit before the point. From the first one on that does not fit, digits only count. -/
def takeWhole (c : Collected) (d : Nat) : Collected :=
  if c.isFull then { c with scale := c.scale + 1 }
  else if c.significand * 10 + d ≤ maxSignificand then
    { c with significand := c.significand * 10 + d }
  else { c with scale := c.scale + 1, isFull := true }

/-- Takes a digit after the point. From the first one on that does not fit, digits are ignored. -/
def takeFraction (c : Collected) (d : Nat) : Collected :=
  if c.isFull then c
  else if c.significand * 10 + d ≤ maxSignificand then
    { c with significand := c.significand * 10 + d, scale := c.scale - 1 }
  else { c with isFull := true }

/-- The digits before the point. -/
def whole (digits : List Nat) : Collected := digits.foldl takeWhole ⟨0, 0, false⟩

/-- All digits. The ones after the point get a new chance to fit. -/
def digits (whole : List Nat) (fraction : Option (List Nat)) : Collected :=
  match fraction with
  | none => Collected.whole whole
  | some fraction => fraction.foldl takeFraction { Collected.whole whole with isFull := false }

end Collected

/-- The greatest exponent that can be written. -/
def maxExponent : Nat := Nat.pow 2 31 - 1

/-- The value of exponent digits, or the number of digits left when it gets too large. -/
def exponentValue : (acc : Nat) → List Nat → Except Nat Nat
  | acc, [] => .ok acc
  | acc, d :: rest =>
    if acc * 10 + d ≤ maxExponent then exponentValue (acc * 10 + d) rest else .error rest.length

/-- `f · 10^scale`, unless it is infinite. One multiplication or division suffices up to `10^308`.
Smaller scales first take `10^308` off, and two such steps leave nothing of a 64-bit significand. -/
def scaled (f : Float) : (steps : Nat) → (scale : Int) → Option Float
  | 0, _ => some 0
  | steps + 1, scale =>
    if 0 ≤ scale then
      if scale ≤ 308 then
        let x := f * Float.ofScientific 1 false scale.toNat
        if x.isInf then none else some x
      else if f == 0 then some f else none
    else if -308 ≤ scale then some (f / Float.ofScientific 1 false (-scale).toNat)
    else if f == 0 then some f
    else scaled (f / Float.ofScientific 1 false 308) steps (scale + 308)

/-- A double with a sign. -/
def signed (negative : Bool) (x : Float) : Float := if negative then -x else x

namespace Numeral

/-- The double that collected digits and an exponent stand for, unless it is infinite. -/
def toFloat? (negative : Bool) (c : Collected) (exponent : Int) : Option Float :=
  let scale : Int := max (-(maxExponent + 1)) (min maxExponent (c.scale + exponent))
  (scaled c.significand.toUInt64.toFloat 4 scale).map (signed negative)

/-- The integer that a numeral without point and exponent stands for, if it is one of at most 64
bits. Minus zero is a double. -/
def toInt? (negative : Bool) (c : Collected) : Option Int :=
  if c.isFull then none
  else if !negative then some c.significand
  else if 0 < c.significand ∧ c.significand ≤ Nat.pow 2 63 then some (-(c.significand : Int))
  else none

/-- The number that a numeral stands for. A numeral beyond the doubles has none; then the result is
the number of exponent digits that were not needed to see it. -/
def value (n : Numeral) : Except Nat Number :=
  let c := Collected.digits n.whole n.fraction
  match n.exponent with
  | none =>
    match (if n.fraction.isNone then toInt? n.negative c else none) with
    | some i => .ok (.int i)
    | none =>
      match toFloat? n.negative c 0 with
      | some x => .ok (.float x)
      | none => .error 0
  | some e =>
    match exponentValue 0 e.digits with
    | .ok v =>
      match toFloat? n.negative c (if e.negative then -(v : Int) else v) with
      | some x => .ok (.float x)
      | none => .error 0
    | .error unread =>
      if c.significand ≠ 0 && !e.negative then .error unread
      else .ok (.float (signed n.negative 0))

end Numeral

end LiveMap.Json
