import LiveMap.Binary64

/-!
# The shortest decimal that identifies a double

The reals that round to a double form an interval around it: halfway to the neighbours on both
sides, the ends included exactly when the significand is even. Of the decimals in that interval the
one with the fewest digits is chosen, of several the one closest to the double, and of two equally
close ones the one with the even last digit. All comparisons are made on natural numbers, so the
choice is exact.
-/

namespace LiveMap

/-- The number `digits · 10^exponent`. -/
structure Decimal where
  /-- The digits, read as a number. -/
  digits : Nat
  /-- The power of ten of the last digit. -/
  exponent : Int
  deriving DecidableEq, Repr

namespace Decimal

/-- The interval of reals that round to a positive double, in units of `2^unit`. -/
structure RoundingInterval where
  /-- The lower end. -/
  lo : Nat
  /-- The double itself. -/
  middle : Nat
  /-- The upper end. -/
  hi : Nat
  /-- Whether the ends round to the double too. -/
  closed : Bool
  /-- The power of two of the unit. -/
  unit : Int

/-- The rounding interval of a positive double. Below a power of two the doubles lie twice as close,
except at the least exponent. -/
def RoundingInterval.of (x : Binary64) : RoundingInterval :=
  let narrow : Bool := x.m == Nat.pow 2 52 && decide (-1074 < x.q)
  { lo := 4 * x.m - if narrow then 1 else 2
    middle := 4 * x.m
    hi := 4 * x.m + 2
    closed := x.m % 2 == 0
    unit := x.q - 2 }

/-- `n · 2^i / 10^j` is `scaleUp n i j / scaleDown i j`. -/
def scaleUp (n : Nat) (i j : Int) : Nat := n * Nat.pow 2 i.toNat * Nat.pow 10 (-j).toNat

/-- The denominator that belongs to `scaleUp`. -/
def scaleDown (i j : Int) : Nat := Nat.pow 2 (-i).toNat * Nat.pow 10 j.toNat

/-- Whether the decimal `d · 10^j` lies in the interval. -/
def RoundingInterval.contains (r : RoundingInterval) (d : Nat) (j : Int) : Bool :=
  let value := d * scaleDown r.unit j
  let lo := scaleUp r.lo r.unit j
  let hi := scaleUp r.hi r.unit j
  if r.closed then decide (lo ≤ value) && decide (value ≤ hi)
  else decide (lo < value) && decide (value < hi)

/-- The multiple of `10^j` in the interval that is closest to the double, if there is one. The
candidates are the two multiples next to the double. -/
def RoundingInterval.closest? (r : RoundingInterval) (j : Int) : Option Nat :=
  let num := scaleUp r.middle r.unit j
  let den := scaleDown r.unit j
  let d := num / den
  match r.contains d j, r.contains (d + 1) j with
  | false, false => none
  | true, false => some d
  | false, true => some (d + 1)
  | true, true =>
    match compare (2 * num) ((2 * d + 1) * den) with
    | .lt => some d
    | .gt => some (d + 1)
    | .eq => if d % 2 = 0 then some d else some (d + 1)

/-- Tries the grids `10^j`, `10^(j-1)`, … and takes the first that meets the interval. After `steps`
grids the exact value is taken. -/
def RoundingInterval.search (r : RoundingInterval) : (steps : Nat) → (j : Int) → Decimal
  | 0, _ => ⟨scaleUp r.middle r.unit 0 * Nat.pow 5 (-r.unit).toNat, min r.unit 0⟩
  | steps + 1, j =>
    match r.closest? j with
    | some d => ⟨d, j⟩
    | none => search r steps (j - 1)

/-- Moves the trailing zeros of the digits into the exponent. -/
def stripZeros : (steps : Nat) → Decimal → Decimal
  | 0, d => d
  | steps + 1, d =>
    if d.digits % 10 = 0 && d.digits ≠ 0 then stripZeros steps ⟨d.digits / 10, d.exponent + 1⟩
    else d

/-- The shortest decimal that identifies a positive finite double. The search starts at a power of
ten that is greater than the double; seventeen digits always suffice. -/
def shortest (x : Float) : Decimal :=
  let parts := Binary64.ofFloat x
  let log2 : Int := (parts.m.log2 : Int) + parts.q
  let start : Int := log2 * 30103 / 100000 + 2
  stripZeros 20 ((RoundingInterval.of parts).search 20 start)

end Decimal

end LiveMap
