import LiveMap.Motion
import LiveMap.Proofs.Failable
import Mathlib.Data.Rat.Floor
import Mathlib.Tactic.FieldSimp
import Mathlib.Tactic.Linarith
import Mathlib.Tactic.Positivity
import Mathlib.Tactic.Ring

/-!
# Motion in exact arithmetic

Positions and headings are read over the rationals here, where sums and products are exact. Rounding
goes to the nearest integer with halves going away from zero, and the remainder is that of a
division that truncates toward zero (`Scalar.exact`). Sines and cosines of rationals are not
rational, and any functions stand in for them (`Trigonometry`): nothing is assumed about them.

Each operation of the motion rules is then an expression in the usual operations. Wrapping an angle
is the remainder of a division that rounds down (`wrapDegrees_exact`), and remainders may be taken
at any place of a sum (`mod360_congr`). Rounding is monotone and leaves integers alone, so the grid
value nearest to a place between two grid values lies between them too (`round4_mem`). A bounce
always has a result if the edges are in order (`bounceLat_exact`, `bounceLng_exact`).
-/

namespace LiveMap

/-! ## Integers near a rational -/

/-- The nearest integer, a half going away from zero. -/
def roundHalfAway (x : ℚ) : ℤ := if 0 ≤ x then ⌊x + 1 / 2⌋ else -⌊-x + 1 / 2⌋

/-- The integer that a rational truncates to. -/
def truncate (x : ℚ) : ℤ := if 0 ≤ x then ⌊x⌋ else ⌈x⌉

/-- Rounding keeps the order. -/
theorem roundHalfAway_mono {x y : ℚ} (h : x ≤ y) : roundHalfAway x ≤ roundHalfAway y := by
  unfold roundHalfAway
  by_cases hx : 0 ≤ x
  · have hy : 0 ≤ y := hx.trans h
    rw [if_pos hx, if_pos hy]
    exact Int.floor_mono (by linarith)
  · rw [if_neg hx]
    have hneg : 0 ≤ ⌊-x + 1 / 2⌋ := Int.floor_nonneg.2 (by linarith)
    by_cases hy : 0 ≤ y
    · -- Zero lies between the two.
      have hpos : 0 ≤ ⌊y + 1 / 2⌋ := Int.floor_nonneg.2 (by linarith)
      rw [if_pos hy]
      omega
    · have hflip : ⌊-y + 1 / 2⌋ ≤ ⌊-x + 1 / 2⌋ := Int.floor_mono (by linarith)
      rw [if_neg hy]
      omega

/-- Rounding leaves integers alone. -/
theorem roundHalfAway_intCast (k : ℤ) : roundHalfAway (k : ℚ) = k := by
  have hfloor : ∀ n : ℤ, ⌊(n : ℚ) + 1 / 2⌋ = n := by
    intro n
    rw [Int.floor_eq_iff]
    constructor <;> linarith
  unfold roundHalfAway
  split
  · exact hfloor k
  · have hneg := hfloor (-k)
    rw [Int.cast_neg] at hneg
    rw [hneg, neg_neg]

/-! ## Angles -/

/-- The angle in `[0, 360)` that differs from `x` by a multiple of `360`. -/
def mod360 (x : ℚ) : ℚ := x - 360 * ⌊x / 360⌋

/-- The remainder of an angle lies in `[0, 360)`. -/
theorem mod360_mem (x : ℚ) : 0 ≤ mod360 x ∧ mod360 x < 360 := by
  have hle : (⌊x / 360⌋ : ℚ) ≤ x / 360 := Int.floor_le _
  have hlt : x / 360 < ⌊x / 360⌋ + 1 := Int.lt_floor_add_one _
  unfold mod360
  constructor <;> linarith

/-- An angle in `[0, 360)` is the remainder of every angle that differs from it by full turns. -/
theorem mod360_eq_of_turns {x r : ℚ} (k : ℤ) (hx : x = r + 360 * k) (h0 : 0 ≤ r) (h360 : r < 360) :
    mod360 x = r := by
  have hfloor : ⌊x / 360⌋ = k := by
    rw [Int.floor_eq_iff, hx]
    constructor <;> linarith
  rw [mod360, hfloor, hx]
  ring

/-- An angle differs from its remainder by full turns. -/
theorem exists_turns (x : ℚ) : ∃ k : ℤ, x = mod360 x + 360 * k :=
  ⟨⌊x / 360⌋, by rw [mod360]; ring⟩

/-- Angles that differ by full turns have the same remainder. -/
theorem mod360_congr {x y : ℚ} (k : ℤ) (h : x = y + 360 * k) : mod360 x = mod360 y := by
  obtain ⟨j, hj⟩ := exists_turns y
  obtain ⟨h0, h360⟩ := mod360_mem y
  refine mod360_eq_of_turns (j + k) ?_ h0 h360
  push_cast
  linarith

/-- A remainder in a difference may be taken of the whole. -/
theorem mod360_sub_mod360 (c x : ℚ) : mod360 (c - mod360 x) = mod360 (c - x) := by
  obtain ⟨k, hk⟩ := exists_turns x
  refine mod360_congr k ?_
  linarith

/-! ## The arithmetic -/

/-- Functions that stand in for the conversion to radians, the sine and the cosine. -/
structure Trigonometry where
  /-- Stands in for the conversion. -/
  radians : ℚ → ℚ
  /-- Stands in for the sine. -/
  sin : ℚ → ℚ
  /-- Stands in for the cosine. -/
  cos : ℚ → ℚ

/-- Exact arithmetic on rationals. -/
@[reducible] def Scalar.exact (t : Trigonometry) : Scalar ℚ where
  ofNat n := n
  decLe := inferInstance
  decLt := inferInstance
  round x := roundHalfAway x
  remainder x y := x - y * truncate (x / y)
  radians := t.radians
  sin := t.sin
  cos := t.cos

/-- A multiple of a ten thousandth. -/
def OnGrid (x : ℚ) : Prop := ∃ k : ℤ, x = k / 10000

/-- The value between `lo` and `hi` that is closest to `x`. -/
def pin (lo hi x : ℚ) : ℚ := max lo (min hi x)

/-- The pinned value lies between the two. -/
theorem pin_mem {lo hi : ℚ} (h : lo ≤ hi) (x : ℚ) : lo ≤ pin lo hi x ∧ pin lo hi x ≤ hi :=
  ⟨le_max_left _ _, max_le h (min_le_left _ _)⟩

/-- A value between the two is its own pinned value. -/
theorem pin_of_mem {lo hi x : ℚ} (hlo : lo ≤ x) (hhi : x ≤ hi) : pin lo hi x = x := by
  rw [pin, min_eq_right hhi, max_eq_right hlo]

namespace Trigonometry

variable (t : Trigonometry)

/-- Wrapping an angle takes its remainder. -/
theorem wrapDegrees_exact (x : ℚ) : @wrapDegrees ℚ (Scalar.exact t) x = mod360 x := by
  have hwrap : @wrapDegrees ℚ (Scalar.exact t) x =
      let r := x - 360 * truncate (x / 360)
      let r := if r < 0 then r + 360 else r
      if 360 ≤ r then 0 else r := rfl
  rw [hwrap]
  dsimp only
  symm
  by_cases hx : 0 ≤ x / 360
  · -- Truncation rounds down, and what is left is the remainder already.
    obtain ⟨h0, h360⟩ := mod360_mem x
    rw [truncate, if_pos hx]
    unfold mod360 at h0 h360 ⊢
    rw [if_neg (not_lt.2 h0), if_neg (not_le.2 h360)]
  · have hle : x / 360 ≤ ⌈x / 360⌉ := Int.le_ceil _
    have hlt : (⌈x / 360⌉ : ℚ) < x / 360 + 1 := Int.ceil_lt_add_one _
    rw [truncate, if_neg hx]
    generalize ⌈x / 360⌉ = k at hle hlt ⊢
    by_cases hneg : x - 360 * k < 0
    · rw [if_pos hneg, if_neg (by linarith)]
      exact mod360_eq_of_turns (k - 1) (by push_cast; ring) (by linarith) (by linarith)
    · rw [if_neg hneg, if_neg (by linarith)]
      exact mod360_eq_of_turns k (by ring) (not_lt.1 hneg) (by linarith)

/-- Rounding to the grid. -/
theorem round4_exact (x : ℚ) :
    @round4 ℚ (Scalar.exact t) x = roundHalfAway (x * 10000) / 10000 := rfl

/-- What is rounded to the grid lies on it. -/
theorem onGrid_round4 (x : ℚ) : OnGrid (@round4 ℚ (Scalar.exact t) x) :=
  ⟨roundHalfAway (x * 10000), t.round4_exact x⟩

/-- Rounding to the grid leaves what lies on it alone. -/
theorem round4_of_onGrid {x : ℚ} (h : OnGrid x) : @round4 ℚ (Scalar.exact t) x = x := by
  obtain ⟨k, rfl⟩ := h
  have hscaled : (k / 10000 : ℚ) * 10000 = k := by ring
  rw [round4_exact, hscaled, roundHalfAway_intCast]

/-- Rounding to the grid keeps the order. -/
theorem round4_mono {x y : ℚ} (h : x ≤ y) :
    @round4 ℚ (Scalar.exact t) x ≤ @round4 ℚ (Scalar.exact t) y := by
  have hround : roundHalfAway (x * 10000) ≤ roundHalfAway (y * 10000) :=
    roundHalfAway_mono (by linarith)
  have hcast : (roundHalfAway (x * 10000) : ℚ) ≤ roundHalfAway (y * 10000) := by
    exact_mod_cast hround
  rw [round4_exact, round4_exact]
  linarith

/-- Rounding to the grid does not leave an interval whose ends lie on it. -/
theorem round4_mem {lo hi x : ℚ} (hlo : OnGrid lo) (hhi : OnGrid hi) (hx : lo ≤ x ∧ x ≤ hi) :
    lo ≤ @round4 ℚ (Scalar.exact t) x ∧ @round4 ℚ (Scalar.exact t) x ≤ hi := by
  have hleft := t.round4_mono hx.1
  have hright := t.round4_mono hx.2
  rw [t.round4_of_onGrid hlo] at hleft
  rw [t.round4_of_onGrid hhi] at hright
  exact ⟨hleft, hright⟩

/-- Whether a value lies in an interval. -/
theorem within_exact (lo hi x : ℚ) :
    @within ℚ (Scalar.exact t) lo hi x = true ↔ lo ≤ x ∧ x ≤ hi := by
  unfold within
  rw [Bool.and_eq_true, decide_eq_true_iff, decide_eq_true_iff]

/-- A value is clamped to an interval whose ends are in order. -/
theorem clamp_exact {lo hi : ℚ} (h : lo ≤ hi) (x : ℚ) :
    @clamp ℚ (Scalar.exact t) lo hi x = .ok (pin lo hi x) := by
  have hclamp : @clamp ℚ (Scalar.exact t) lo hi x =
      if lo ≤ hi then .ok (if x < lo then lo else if hi < x then hi else x)
      else .error .invertedBounds := rfl
  rw [hclamp, if_pos h]
  congr 1
  unfold pin
  rcases lt_or_ge x lo with hlo | hlo
  · rw [if_pos hlo, min_eq_right (hlo.le.trans h), max_eq_left hlo.le]
  · rw [if_neg (not_lt.2 hlo)]
    rcases lt_or_ge hi x with hhi | hhi
    · rw [if_pos hhi, min_eq_left hhi.le, max_eq_right h]
    · rw [if_neg (not_lt.2 hhi), min_eq_right hhi, max_eq_right hlo]

/-- A coordinate is brought back into its interval, and the heading is reflected if the coordinate
was outside. -/
theorem bounce_exact {lo hi : ℚ} (h : lo ≤ hi) (turn x heading : ℚ) :
    letI := Scalar.exact t
    (if within lo hi x then .ok (x, heading)
      else do return (← clamp lo hi x, wrapDegrees (turn - heading)) : Except Fault (ℚ × ℚ)) =
      .ok (pin lo hi x, if lo ≤ x ∧ x ≤ hi then heading else mod360 (turn - heading)) := by
  -- What lies inside is pinned to itself, so the result has one form in both cases.
  by_cases hin : lo ≤ x ∧ x ≤ hi
  · rw [if_pos ((t.within_exact lo hi x).2 hin), if_pos hin, pin_of_mem hin.1 hin.2]
  · rw [if_neg (mt (t.within_exact lo hi x).1 hin), if_neg hin]
    refine bind_eq_ok_of (t.clamp_exact h x) ?_
    rw [t.wrapDegrees_exact]
    rfl

/-- A latitude is brought back into the area, and the heading is reflected if it was outside. -/
theorem bounceLat_exact {b : Bounds ℚ} (h : b.minLat ≤ b.maxLat) (lat heading : ℚ) :
    @Bounds.bounceLat ℚ (Scalar.exact t) b lat heading = .ok (pin b.minLat b.maxLat lat,
      if b.minLat ≤ lat ∧ lat ≤ b.maxLat then heading else mod360 (180 - heading)) :=
  t.bounce_exact h 180 lat heading

/-- A longitude is brought back into the area, and the heading is reflected if it was outside. -/
theorem bounceLng_exact {b : Bounds ℚ} (h : b.minLng ≤ b.maxLng) (lng heading : ℚ) :
    @Bounds.bounceLng ℚ (Scalar.exact t) b lng heading = .ok (pin b.minLng b.maxLng lng,
      if b.minLng ≤ lng ∧ lng ≤ b.maxLng then heading else mod360 (360 - heading)) :=
  t.bounce_exact h 360 lng heading

end Trigonometry

end LiveMap
