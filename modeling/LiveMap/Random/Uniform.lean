import LiveMap.Random.Basic

/-!
# Uniform draws from random words

The top 52 bits of a 64-bit word give a fraction `u / 2^52` in `[0, 1)`, which is scaled into a
range of doubles. A number below `n` is the high half of the product of a 32-bit word and `n`; words
whose low half falls beyond the last full copy of the range are drawn again, which keeps the result
uniform.
-/

namespace LiveMap.Uniform

variable {ρ : Type}

/-- The fraction `u / 2^52` of the top 52 bits `u` of a word. -/
def fraction (w : UInt64) : Float :=
  (w >>> 12).toFloat / 4503599627370496.0

/-- The greatest fraction, `1 - 2^-52`. -/
def maxFraction : Float := 1.0 - 1.0 / 4503599627370496.0

/-- The greatest double with `bits` at most the given ones for which the top of the range is not
exceeded. Positive doubles are ordered as their bits, so stepping the bits down visits them in
descending order. -/
def largestScale (fits : Float → Bool) : Nat → Float
  | 0 => 0
  | bits + 1 =>
    let scale := Float.ofBits (UInt64.ofNat (bits + 1))
    if fits scale then scale else largestScale fits bits

/-- The factor that stretches the fractions onto `[lo, hi]`: the greatest fraction is taken to `hi`,
or just below it where rounding would overshoot. -/
def scale (lo hi : Float) : Except Fault Float :=
  if lo ≤ hi then
    let first := (hi - lo) / maxFraction
    if first.isFinite then
      .ok (largestScale (fun s => !(hi < s * maxFraction + lo)) first.toBits.toNat)
    else .error .unboundedRange
  else .error .emptyRange

/-- A double from `lo` to `hi`, both included. -/
def between [WordSource ρ] (lo hi : Float) (source : ρ) : Except Fault (Float × ρ) := do
  let s ← scale lo hi
  let (w, source) := WordSource.next64 source
  return (fraction w * s + lo, source)

/-- A heading from `0` and below `360`. The greatest fraction of `360` still rounds to less. -/
def heading [WordSource ρ] (source : ρ) : Float × ρ :=
  let (w, source) := WordSource.next64 source
  (fraction w * 360.0 + 0.0, source)

/-- The greatest low half that lies in a full copy of the range of length `n`. -/
def zone (n : Nat) : Nat :=
  n * Nat.pow 2 (31 - n.log2) - 1

/-- Draws words until one falls into the zone, at most `tries` times over. More than half of all
words do. -/
def belowWithin [WordSource ρ] (n : Nat) : Nat → ρ → Nat × ρ
  | 0, source => (0, source)
  | tries + 1, source =>
    let (w, source) := WordSource.next32 source
    let product := w.toNat * n
    if product % Nat.pow 2 32 ≤ zone n then (product / Nat.pow 2 32, source)
    else belowWithin n tries source

/-- A number below `n`, for `n` of at most 32 bits. -/
def below [WordSource ρ] (n : Nat) (source : ρ) : Except Fault (Nat × ρ) :=
  if n = 0 then .error .emptyRange else .ok (belowWithin n (Nat.pow 2 16) source)

/-- `n` random bytes, each the low byte of a 32-bit word. -/
def bytes [WordSource ρ] : Nat → ρ → List UInt8 × ρ
  | 0, source => ([], source)
  | n + 1, source =>
    let (w, source) := WordSource.next32 source
    let (rest, source) := bytes n source
    (w.toUInt8 :: rest, source)

/-- The two lower-case hexadecimal digits of a byte. -/
def hexByte (b : UInt8) : List Char :=
  [Nat.digitChar (b.toNat / 16), Nat.digitChar (b.toNat % 16)]

/-- Eight lower-case hexadecimal digits, from the first four of sixteen random bytes. -/
def identifier [WordSource ρ] (source : ρ) : String × ρ :=
  let (drawn, source) := bytes 16 source
  (String.ofList ((drawn.take 4).flatMap hexByte), source)

/-- Every source of random words is a source of draws. -/
instance [WordSource ρ] : FleetDraws ρ where
  between := between
  heading := heading
  below := below
  identifier := identifier

end LiveMap.Uniform
