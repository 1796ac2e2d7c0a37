import Mathlib.Algebra.Group.Nat.Defs

/-!
# Doubles that stay finite

What becomes of finite doubles under the few operations with which numerals are scaled. An integer
of 64 bits is finite as a double, and so is the negative of a finite double. A product of finite
doubles is finite or infinite, and never NaN. A quotient of a finite double by a magnitude of two at
least (`IsLarge`) is finite, and the powers of ten up to `10^308` are such magnitudes.

All operations round a significand and an exponent. The size of such a pair is `totalExponent`, and
rounding adds one to it at most (`roundWithAccuracy_cases`).
-/

namespace LiveMap.Doubles

open Float.Model UnpackedFloat

/-! ## Rounding -/

/-- A shift drops binary digits. -/
theorem mantissa_shiftRight (em : ExtendedMantissa) (k : Nat) :
    (em >>> k).mantissa = em.mantissa / 2 ^ k := by
  induction k with
  | zero => exact (Nat.div_one _).symm
  | succ k ih =>
    show (em >>> k).mantissa / 2 = _
    rw [ih, Nat.div_div_eq_div_mul, Nat.pow_succ]

/-- Rounding adds one at most. -/
theorem roundedMantissa_bounds (em : ExtendedMantissa) :
    em.mantissa ≤ em.roundedMantissa ∧ em.roundedMantissa ≤ em.mantissa + 1 := by
  obtain ⟨m, r, s⟩ := em
  cases r <;> cases s <;>
    simp only [ExtendedMantissa.roundedMantissa, ExtendedMantissa.accuracy,
      Accuracy.roundToNearestEven] <;> omega

/-- A number with few binary digits has a small logarithm. -/
theorem log2_le_of_lt {m k : Nat} (h : m < 2 ^ (k + 1)) : m.log2 ≤ k := by
  by_cases hm : m = 0
  · rw [hm, Nat.log2_zero]
    exact Nat.zero_le k
  · exact Nat.le_of_lt_succ ((Nat.log2_lt hm).2 h)

/-- A number with a small logarithm has few binary digits. -/
theorem lt_two_pow_of_log2_le {m k : Nat} (h : m.log2 ≤ k) : m < 2 ^ (k + 1) :=
  Nat.lt_of_lt_of_le Nat.lt_log2_self (Nat.pow_le_pow_right Nat.two_pos (Nat.succ_le_succ h))

/-- What is left of a number whose last binary digits are dropped. -/
theorem div_two_pow_lt (m k : Nat) : m / 2 ^ k < 2 ^ (m.log2 - k + 1) := by
  rw [Nat.div_lt_iff_lt_mul (Nat.two_pow_pos k), ← Nat.pow_add]
  exact Nat.lt_of_lt_of_le Nat.lt_log2_self (Nat.pow_le_pow_right Nat.two_pos (by omega))

/-- The exponent that a result of some size is to have: 53 digits, if they fit. -/
theorem targetExponent_eq (e : Int) :
    Format.binary64.targetExponent e = max (e - 53) (-1074) := rfl

/-- What a shift to the target leaves of the significand. -/
theorem mantissa_shiftToTargetExponent (m : Nat) (e : Int) (a : Accuracy) :
    (shiftToTargetExponent .binary64 m e a).1.mantissa =
      m / 2 ^ (Format.binary64.targetExponent (totalExponent m e) - e).toNat := by
  have hinitial : (ExtendedMantissa.ofMantissaAndAccuracy m a).mantissa = m := by
    cases a with
    | exact => rfl
    | inexact o => cases o <;> rfl
  show (_ >>> _ : ExtendedMantissa).mantissa = _
  rw [mantissa_shiftRight, hinitial]

/-- A shift to the target never lowers the exponent. -/
theorem exponent_shiftToTargetExponent (m : Nat) (e : Int) (a : Accuracy) :
    (shiftToTargetExponent .binary64 m e a).2 =
      max e (Format.binary64.targetExponent (totalExponent m e)) := by
  show e + ((Format.binary64.targetExponent (totalExponent m e) - e).toNat : Int) = _
  omega

/-- The greater of two integers, as the first and what the second is above it. -/
theorem max_eq_add_toNat (i j : Int) : max i j = i + ((j - i).toNat : Int) := by
  omega

/-- How a result is rounded: digits are dropped and what is left is rounded up or down, and once
more if that has made it too long. -/
theorem roundWithAccuracy_eq (s : Sign) (m : Nat) (e : Int) (a : Accuracy) :
    ∃ r e₁ k l, e₁ = max e (max (totalExponent m e - 53) (-1074)) ∧ e₁ = e + (k : Nat) ∧
      (m / 2 ^ k ≤ r ∧ r ≤ m / 2 ^ k + 1) ∧
      l = (max (totalExponent r e₁ - 53) (-1074) - e₁).toNat ∧
      roundWithAccuracy .binary64 s m e a =
        if h : r / 2 ^ l = 0 then .zero s
        else .finite s (r / 2 ^ l) (e₁ + l) (Nat.pos_of_ne_zero h) := by
  have hm₁ := mantissa_shiftToTargetExponent m e a
  have he₁ := exponent_shiftToTargetExponent m e a
  unfold roundWithAccuracy
  generalize shiftToTargetExponent .binary64 m e a = first at hm₁ he₁ ⊢
  obtain ⟨em, e₁⟩ := first
  dsimp only at hm₁ he₁ ⊢
  have hm₂ := mantissa_shiftToTargetExponent em.roundedMantissa e₁ .exact
  have he₂ := exponent_shiftToTargetExponent em.roundedMantissa e₁ .exact
  generalize shiftToTargetExponent .binary64 em.roundedMantissa e₁ .exact = second at hm₂ he₂ ⊢
  obtain ⟨⟨m₂, _, _⟩, e₂⟩ := second
  dsimp only at hm₂ he₂ ⊢
  rw [targetExponent_eq] at hm₁ he₁ hm₂ he₂
  rw [max_eq_add_toNat] at he₂
  subst hm₂ he₂
  refine ⟨em.roundedMantissa, e₁, (max (totalExponent m e - 53) (-1074) - e).toNat, _, he₁, ?_,
    hm₁ ▸ roundedMantissa_bounds em, rfl, ?_⟩
  · rw [he₁, max_eq_add_toNat e]
  · rfl

/-- A result of moderate size is rounded to one of moderate exponent, or to zero. -/
theorem roundWithAccuracy_cases (s : Sign) {m : Nat} {e : Int} (a : Accuracy)
    (htotal : totalExponent m e ≤ 1023) (hexp : e ≤ 970) :
    (∃ m' e' hm, roundWithAccuracy .binary64 s m e a = .finite s m' e' hm ∧ e' ≤ 971) ∨
    roundWithAccuracy .binary64 s m e a = .zero s := by
  obtain ⟨r, e₁, k, l, hmax, he₁, ⟨-, hhigh⟩, hl, hround⟩ := roundWithAccuracy_eq s m e a
  have hlog : r.log2 ≤ m.log2 - k + 1 := by
    have hlt := div_two_pow_lt m k
    have hpos := Nat.two_pow_pos (m.log2 - k)
    refine log2_le_of_lt ?_
    rw [Nat.pow_succ]
    omega
  unfold totalExponent at *
  by_cases hleft : r / 2 ^ l = 0
  · exact .inr (by rw [hround, dif_pos hleft])
  · refine .inl ⟨r / 2 ^ l, e₁ + l, Nat.pos_of_ne_zero hleft, ?_, ?_⟩
    · rw [hround, dif_neg hleft]
    · omega

/-- A result of moderate size with enough digits keeps them. -/
theorem roundWithAccuracy_normal (s : Sign) {m : Nat} {e : Int} (a : Accuracy)
    (hm : 52 ≤ m.log2) (htotal : -1021 ≤ totalExponent m e) :
    ∃ m' e' hm', roundWithAccuracy .binary64 s m e a = .finite s m' e' hm' ∧ m'.log2 = 52 ∧
      totalExponent m e - 53 ≤ e' ∧ e' ≤ totalExponent m e - 52 := by
  obtain ⟨r, e₁, k, l, hmax, he₁, ⟨hlow, hhigh⟩, hl, hround⟩ := roundWithAccuracy_eq s m e a
  have hk : m.log2 = 52 + k := by
    unfold totalExponent at hmax htotal
    omega
  have hlt : m / 2 ^ k < 2 ^ 53 := by
    have h := div_two_pow_lt m k
    rwa [hk, Nat.add_sub_cancel] at h
  have hge : 2 ^ 52 ≤ m / 2 ^ k := by
    rw [Nat.le_div_iff_mul_le (Nat.two_pow_pos k), ← Nat.pow_add, ← hk]
    exact Nat.log2_self_le (by rintro rfl; simp at hm)
  unfold totalExponent at hmax htotal hl ⊢
  by_cases hcarry : r = 2 ^ 53
  · have hl' : l = 1 := by
      rw [hcarry, Nat.log2_two_pow] at hl
      omega
    have hleft : r / 2 ^ l = 2 ^ 52 := by simp [hcarry, hl']
    rw [hround, dif_neg (by rw [hleft]; decide)]
    refine ⟨_, _, _, rfl, ?_, by omega, by omega⟩
    rw [hleft, Nat.log2_two_pow]
  · have hlog : r.log2 = 52 := (Nat.log2_eq_iff (by omega)).2 ⟨by omega, by omega⟩
    have hl' : l = 0 := by omega
    have hleft : r / 2 ^ l = r := by rw [hl', Nat.pow_zero, Nat.div_one]
    rw [hround, dif_neg (by omega)]
    refine ⟨_, _, _, rfl, ?_, by omega, by omega⟩
    rw [hleft, hlog]

/-! ## Packing -/

/-- Bits whose exponent is not the greatest are those of a finite double. -/
theorem isFinite_unpack {b : BitVec Format.binary64.numBits} (h : unpackExponent b ≠ -1#_) :
    (UnpackedFloat.unpack .binary64 b).isFinite = true := by
  unfold UnpackedFloat.unpack
  rw [if_neg h]
  by_cases hzero : unpackExponent b = 0#_
  · rw [if_pos hzero]
    by_cases hmantissa : unpackMantissa b = 0#_
    · rw [dif_pos hmantissa]
      rfl
    · rw [dif_neg hmantissa]
      rfl
  · rw [if_neg hzero]
    rfl

/-- How a number is packed: as an infinity if its exponent is too great, with its exponent if it has
all its digits, and otherwise with the least exponent. -/
theorem pack_finite_eq (s : Sign) (m : Nat) (e : Int) (hm : 0 < m) :
    UnpackedFloat.pack .binary64 (.finite s m e hm) =
      if 2048 ≤ (e + (Format.binary64.exponentBias : Int) + (52 : Nat)).toNat + 1 then
        packedInfinity .binary64 s
      else if m.log2 + 1 = Format.binary64.mantissaBits then
        packComponents .binary64 s (BitVec.ofNat 11
          (e + (Format.binary64.exponentBias : Int) + (52 : Nat)).toNat) (BitVec.ofNat 52 m)
      else packComponents .binary64 s 0#11 (BitVec.ofNat 52 m) := rfl

/-- A number is packed as an infinity if its exponent is too great, and as a finite double if not.
-/
theorem pack_finite_cases (s : Sign) (m : Nat) (e : Int) (hm : 0 < m) :
    971 < e ∧ Float.Model.pack (.finite s m e hm) = Float.Model.pack (.infinity s) ∨
      (Float.Model.pack (.finite s m e hm)).isFinite = true := by
  have hbias : Format.binary64.exponentBias = 1023 := rfl
  have hpack := pack_finite_eq s m e hm
  by_cases hover : 2048 ≤ (e + (Format.binary64.exponentBias : Int) + (52 : Nat)).toNat + 1
  · rw [if_pos hover] at hpack
    refine .inl ⟨by omega, ?_⟩
    unfold Float.Model.pack
    rw [Float.Model.mk.injEq, hpack]
    rfl
  · rw [if_neg hover] at hpack
    refine .inr (isFinite_unpack ?_)
    show unpackExponent (UnpackedFloat.pack .binary64 (.finite s m e hm)) ≠ -1#11
    by_cases hnormal : m.log2 + 1 = Format.binary64.mantissaBits
    · rw [hpack, if_pos hnormal, unpackExponent_packComponents]
      intro h
      have hnat := congrArg BitVec.toNat h
      rw [BitVec.toNat_ofNat, Nat.mod_eq_of_lt (by omega)] at hnat
      exact absurd hnat (by simp; omega)
    · rw [hpack, if_neg hnormal, unpackExponent_packComponents]
      decide

/-- What is packed from something else than NaN is not NaN. -/
theorem isFinite_or_isInf_pack {x : UnpackedFloat} (h : x ≠ .notANumber) :
    (Float.Model.pack x).isFinite = true ∨ (Float.Model.pack x).isInf = true := by
  have hinfinity : ∀ s, (Float.Model.pack (.infinity s)).isInf = true := by
    intro s
    cases s <;> decide
  cases x with
  | notANumber => exact absurd rfl h
  | infinity s => exact .inr (hinfinity s)
  | zero s => cases s <;> exact .inl (by decide)
  | finite s m e hm =>
    obtain ⟨-, hover⟩ | hfinite := pack_finite_cases s m e hm
    · rw [hover]
      exact .inr (hinfinity s)
    · exact .inl hfinite

/-- A result of moderate size is finite as a double. -/
theorem isFinite_pack_roundWithAccuracy (s : Sign) {m : Nat} {e : Int} (a : Accuracy)
    (htotal : totalExponent m e ≤ 1023) (hexp : e ≤ 970) :
    (Float.Model.pack (roundWithAccuracy .binary64 s m e a)).isFinite = true := by
  obtain ⟨m', e', hm, hround, hle⟩ | hround := roundWithAccuracy_cases s a htotal hexp
  · rw [hround]
    obtain ⟨hover, -⟩ | hfinite := pack_finite_cases s m' e' hm
    · omega
    · exact hfinite
  · rw [hround]
    cases s <;> decide

/-- A shift by some binary digits adds as many at most. -/
theorem log2_shiftLeft_le (m k : Nat) : (m <<< k).log2 ≤ m.log2 + k := by
  refine log2_le_of_lt ?_
  rw [Nat.shiftLeft_eq, Nat.add_right_comm, Nat.pow_add]
  exact Nat.mul_lt_mul_of_pos_right Nat.lt_log2_self (Nat.two_pow_pos k)

/-- A significand with its leading digit. -/
theorem toNat_one_append (v : BitVec 52) : (1#1 ++ v).toNat = 2 ^ 52 + v.toNat := by
  rw [BitVec.toNat_append, ← Nat.shiftLeft_add_eq_or_of_lt v.isLt, Nat.shiftLeft_eq]
  rfl

/-- The parts of a finite double are bounded. -/
theorem unpack_bounds {x : Float.Model} {s : Sign} {m : Nat} {e : Int} {hm : 0 < m}
    (h : x.unpack = .finite s m e hm) : e ≤ 971 ∧ totalExponent m e ≤ 1024 := by
  have hbias : Format.binary64.exponentBias = 1023 := rfl
  have hdigits : Format.binary64.mantissaBitsWithoutImplicit = 52 := rfl
  have hmantissa := (@unpackMantissa .binary64 x.toBits.toBitVec).isLt
  have hexponent := (@unpackExponent .binary64 x.toBits.toBitVec).isLt
  have hsmall : ∀ {m : Nat} {e : Int}, m < 2 ^ 53 → e ≤ 971 →
      e ≤ 971 ∧ totalExponent m e ≤ 1024 := by
    intro m e hm he
    have hlog := log2_le_of_lt (k := 52) hm
    refine ⟨he, ?_⟩
    unfold totalExponent
    omega
  change _ < 2 ^ 52 at hmantissa
  change _ < 2 ^ 11 at hexponent
  unfold Float.Model.unpack UnpackedFloat.unpack at h
  by_cases hfull : @unpackExponent .binary64 x.toBits.toBitVec = -1#_
  · rw [if_pos hfull] at h
    by_cases hzero : @unpackMantissa .binary64 x.toBits.toBitVec = 0#_
    · rw [if_pos hzero] at h
      cases h
    · rw [if_neg hzero] at h
      cases h
  · rw [if_neg hfull] at h
    by_cases hempty : @unpackExponent .binary64 x.toBits.toBitVec = 0#_
    · rw [if_pos hempty] at h
      by_cases hzero : @unpackMantissa .binary64 x.toBits.toBitVec = 0#_
      · rw [dif_pos hzero] at h
        cases h
      · rw [dif_neg hzero] at h
        cases h
        refine hsmall (by omega) ?_
        rw [hempty]
        decide
    · rw [if_neg hempty] at h
      cases h
      have hless : (@unpackExponent .binary64 x.toBits.toBitVec).toNat ≠ 2047 :=
        fun h => hfull (BitVec.eq_of_toNat_eq h)
      refine hsmall ?_ ?_
      · rw [toNat_one_append]
        omega
      · omega

/-! ## Operations -/

/-- An integer of 64 bits is finite as a double. -/
theorem isFinite_toFloat (n : UInt64) : n.toFloat.isFinite = true := by
  show (Float.Model.pack
    (UnpackedFloat.normalize .binary64 (n.toNat : Int) 0 .positive)).isFinite = true
  unfold UnpackedFloat.normalize
  split
  · next h =>
    have hlt := Int.compare_eq_lt.1 h
    omega
  · decide
  · have hn : n.toNat < 2 ^ 64 := n.toNat_lt
    have hlog := log2_le_of_lt (k := 63) hn
    rw [Int.toNat_natCast]
    unfold UnpackedFloat.round decreaseExponent
    dsimp only
    rw [targetExponent_eq]
    unfold totalExponent
    have hshift := log2_shiftLeft_le n.toNat
      (0 - max ((n.toNat.log2 : Int) + 1 + 0 - 53) (-1074)).toNat
    refine isFinite_pack_roundWithAccuracy _ _ ?_ ?_
    · unfold totalExponent
      omega
    · omega

/-- The product of finite doubles is finite unless it is infinite. -/
theorem isFinite_mul {x y : Float} (hx : x.isFinite = true) (hy : y.isFinite = true)
    (h : (x * y).isInf = false) : (x * y).isFinite = true := by
  have hnumber : UnpackedFloat.mul .binary64 x.toModel.unpack y.toModel.unpack ≠ .notANumber := by
    have hx' : x.toModel.unpack.isFinite = true := hx
    have hy' : y.toModel.unpack.isFinite = true := hy
    generalize x.toModel.unpack = a at hx' ⊢
    generalize y.toModel.unpack = b at hy' ⊢
    cases a with
    | notANumber | infinity => cases hx'
    | zero s =>
      cases b with
      | notANumber | infinity => cases hy'
      | zero | finite => exact UnpackedFloat.noConfusion
    | finite s m e hm =>
      cases b with
      | notANumber | infinity => cases hy'
      | zero => exact UnpackedFloat.noConfusion
      | finite s' m' e' hm' =>
        obtain ⟨r, _, _, l, -, -, -, -, hround⟩ :=
          roundWithAccuracy_eq (s * s') (m * m') (e + e') .exact
        show roundWithAccuracy .binary64 (s * s') (m * m') (e + e') .exact ≠ _
        rw [hround]
        by_cases hzero : r / 2 ^ l = 0
        · rw [dif_pos hzero]
          exact UnpackedFloat.noConfusion
        · rw [dif_neg hzero]
          exact UnpackedFloat.noConfusion
  obtain hfinite | hinf := isFinite_or_isInf_pack hnumber
  · exact hfinite
  · cases h.symm.trans hinf

/-- The negative of a finite double is finite. -/
theorem isFinite_neg {x : Float} (hx : x.isFinite = true) : (-x).isFinite = true := by
  have hx' : x.toModel.unpack.isFinite = true := hx
  show (Float.Model.pack x.toModel.unpack.neg).isFinite = true
  cases hunpacked : x.toModel.unpack with
  | notANumber | infinity =>
    rw [hunpacked] at hx'
    cases hx'
  | zero s => cases s <;> decide
  | finite s m e hm =>
    obtain ⟨hover, -⟩ | hfinite := pack_finite_cases (-s) m e hm
    · exact absurd (unpack_bounds hunpacked).1 (Int.not_le.2 hover)
    · exact hfinite

/-- Whether the magnitude of an unpacked number is two at least. -/
def isLargeUnpacked : UnpackedFloat → Bool
  | .finite _ m e _ => 2 ≤ totalExponent m e
  | .infinity _ | .zero _ | .notANumber => false

/-- Whether the magnitude of a double is two at least. -/
def IsLarge (y : Float) : Prop := isLargeUnpacked y.toModel.unpack = true

/-- The parts of a double whose magnitude is two at least. -/
theorem exists_of_isLarge {y : Float} (h : IsLarge y) :
    ∃ s m e hm, y.toModel.unpack = .finite s m e hm ∧ 2 ≤ totalExponent m e := by
  unfold IsLarge at h
  cases hunpacked : y.toModel.unpack with
  | notANumber | infinity | zero =>
    rw [hunpacked] at h
    cases h
  | finite s m e hm =>
    rw [hunpacked] at h
    exact ⟨s, m, e, hm, rfl, of_decide_eq_true h⟩

/-- A double whose magnitude is two at least is finite. -/
theorem IsLarge.isFinite {y : Float} (h : IsLarge y) : y.isFinite = true := by
  obtain ⟨s, m, e, hm, hunpacked, -⟩ := exists_of_isLarge h
  show y.toModel.unpack.isFinite = true
  rw [hunpacked]
  rfl

/-- The quotient of a finite double by a magnitude of two at least is finite: it is smaller than the
double, even when it is rounded up. -/
theorem isFinite_div {x y : Float} (hx : x.isFinite = true) (hy : IsLarge y) :
    (x / y).isFinite = true := by
  obtain ⟨s₂, m₂, e₂, hm₂, hy, hlarge⟩ := exists_of_isLarge hy
  have hx' : x.toModel.unpack.isFinite = true := hx
  show (Float.Model.pack
    (UnpackedFloat.div .binary64 x.toModel.unpack y.toModel.unpack)).isFinite = true
  rw [hy]
  cases hunpacked : x.toModel.unpack with
  | notANumber | infinity =>
    rw [hunpacked] at hx'
    cases hx'
  | zero s =>
    show (Float.Model.pack (.zero (s / s₂))).isFinite = true
    cases s <;> cases s₂ <;> decide
  | finite s₁ m₁ e₁ hm₁ =>
    obtain ⟨he₁, htotal⟩ := unpack_bounds hunpacked
    show (Float.Model.pack (roundWithAccuracy .binary64 (s₁ / s₂) _ _ _)).isFinite = true
    rw [targetExponent_eq]
    generalize htarget : min (e₁ - e₂)
      (max (totalExponent m₁ e₁ - totalExponent m₂ e₂ - 53) (-1074)) = t
    generalize hk : (e₁ - e₂ - t).toNat = k
    have hlog : ((m₁ <<< k) / m₂).log2 ≤ m₁.log2 + k - m₂.log2 := by
      refine log2_le_of_lt ((Nat.div_lt_iff_lt_mul hm₂).2 ?_)
      have hpow : 2 ^ (m₁.log2 + k + 1) ≤
          2 ^ (m₁.log2 + k - m₂.log2 + 1) * 2 ^ m₂.log2 := by
        rw [← Nat.pow_add]
        exact Nat.pow_le_pow_right Nat.two_pos (by omega)
      calc m₁ <<< k
        _ < 2 ^ (m₁.log2 + k + 1) := lt_two_pow_of_log2_le (log2_shiftLeft_le m₁ k)
        _ ≤ 2 ^ (m₁.log2 + k - m₂.log2 + 1) * 2 ^ m₂.log2 := hpow
        _ ≤ 2 ^ (m₁.log2 + k - m₂.log2 + 1) * m₂ :=
          Nat.mul_le_mul_left _ (Nat.log2_self_le (Nat.ne_of_gt hm₂))
    unfold totalExponent at *
    refine isFinite_pack_roundWithAccuracy _ _ ?_ ?_
    · unfold totalExponent
      omega
    · omega

/-! ## Powers of ten -/

/-- A number with all its digits is packed with its exponent. -/
theorem exists_unpack_pack {s : Sign} {m : Nat} {e : Int} (hm : 0 < m) (hlog : m.log2 = 52)
    (hlow : -1074 ≤ e) (hhigh : e ≤ 971) :
    ∃ s' m' hm', (Float.Model.pack (.finite s m e hm)).unpack = .finite s' m' e hm' := by
  have hbias : Format.binary64.exponentBias = 1023 := rfl
  have hdigits : Format.binary64.mantissaBitsWithoutImplicit = 52 := rfl
  obtain ⟨n, hn⟩ : ∃ n : Nat, (e + (Format.binary64.exponentBias : Int) + (52 : Nat)).toNat = n :=
    ⟨_, rfl⟩
  have hvec : (BitVec.ofNat 11 n).toNat = n := by
    rw [BitVec.toNat_ofNat, Nat.mod_eq_of_lt (by omega)]
  have hfull : BitVec.ofNat 11 n ≠ -1#11 := by
    intro h
    rw [h] at hvec
    exact absurd hvec (by simp; omega)
  have hempty : BitVec.ofNat 11 n ≠ 0#11 := by
    intro h
    rw [h] at hvec
    exact absurd hvec (by simp; omega)
  have hpos : ∀ v : BitVec 52, 0 < (1#1 ++ v).toNat := by
    intro v
    rw [toNat_one_append]
    omega
  have hbits : (Float.Model.pack (.finite s m e hm)).toBits.toBitVec =
      packComponents .binary64 s (BitVec.ofNat 11 n) (BitVec.ofNat 52 m) := by
    show UnpackedFloat.pack .binary64 (.finite s m e hm) = _
    rw [pack_finite_eq, if_neg (by omega), if_pos (by rw [hlog]; rfl), hn]
  unfold Float.Model.unpack UnpackedFloat.unpack
  rw [hbits, unpackExponent_packComponents, if_neg hfull, if_neg hempty, hvec]
  have he : (n : Int) -
      ((Format.binary64.exponentBias : Int) + Format.binary64.mantissaBitsWithoutImplicit) = e := by
    omega
  rw [he]
  exact ⟨_, _, hpos _, rfl⟩

/-- A great power of ten is rounded once. -/
theorem toModel_powerOfTen {k : Nat} (hlow : 22 < k) (hhigh : k ≤ 308) :
    (Float.ofScientific 1 false k).toModel =
      Float.Model.pack
        (roundWithAccuracy .binary64 .positive ((1 <<< 53) * 10 ^ k) (-53) .exact) := by
  unfold Float.ofScientific
  rw [dif_neg (by omega)]
  show Float.Model.pack (UnpackedFloat.ofScientific .binary64 1 (k : Int)) = _
  unfold UnpackedFloat.ofScientific
  rw [dif_neg (by decide), if_neg (by simp; omega), if_neg (by simp; omega), if_pos (by omega)]
  rfl

/-- The powers of ten between the table of exact ones and the last, in binary digits. -/
theorem log2_powerOfTen {k : Nat} (hlow : 22 < k) (hhigh : k ≤ 307) :
    129 ≤ ((1 <<< 53) * 10 ^ k).log2 ∧ ((1 <<< 53) * 10 ^ k).log2 ≤ 1072 := by
  constructor
  · have hleast : 10 ^ 23 ≤ 10 ^ k := Nat.pow_le_pow_right (by decide) hlow
    have hpos : 0 < (1 <<< 53) * 10 ^ k := Nat.mul_pos (by decide) (Nat.pow_pos (by decide))
    refine (Nat.le_log2 (Nat.ne_of_gt hpos)).2 ?_
    calc 2 ^ 129
      _ ≤ (1 <<< 53) * 10 ^ 23 := by decide
      _ ≤ (1 <<< 53) * 10 ^ k := Nat.mul_le_mul_left _ hleast
  · -- The last exponent has a name, so that the power is not computed before the end.
    obtain ⟨last, hlast⟩ : ∃ last, last = 307 := ⟨_, rfl⟩
    have hgreatest : 10 ^ k ≤ 10 ^ last := Nat.pow_le_pow_right (by decide) (hlast ▸ hhigh)
    refine log2_le_of_lt ?_
    calc (1 <<< 53) * 10 ^ k
      _ ≤ (1 <<< 53) * 10 ^ last := Nat.mul_le_mul_left _ hgreatest
      _ < 2 ^ (1072 + 1) := by
        rw [hlast]
        decide +kernel

/-- The powers of ten from ten up to `10^308` are large: the exact ones by looking, the last one by
computing it, and the others by how they are rounded. -/
theorem isLarge_powerOfTen {k : Nat} (hpos : 0 < k) (hk : k ≤ 308) :
    IsLarge (Float.ofScientific 1 false k) := by
  by_cases hsmall : k ≤ 22
  · have htable : ∀ k : Fin 22,
        isLargeUnpacked (Float.ofScientific 1 false (k + 1)).toModel.unpack = true := by decide
    have h := htable ⟨k - 1, by omega⟩
    rwa [Nat.sub_add_cancel hpos] at h
  · by_cases hlast : k = 308
    · rw [hlast]
      show isLargeUnpacked _ = true
      decide +kernel
    · obtain ⟨hleast, hgreatest⟩ := log2_powerOfTen (k := k) (by omega) (by omega)
      obtain ⟨m, e, hm, hround, hlog, hlow, hhigh⟩ :=
        roundWithAccuracy_normal .positive (m := (1 <<< 53) * 10 ^ k) (e := -53) .exact (by omega)
          (by unfold totalExponent; omega)
      unfold totalExponent at hlow hhigh
      obtain ⟨s, m', hm', hunpacked⟩ :=
        exists_unpack_pack (s := .positive) (e := e) hm hlog (by omega) (by omega)
      unfold IsLarge
      rw [toModel_powerOfTen (by omega) hk, hround, hunpacked]
      refine decide_eq_true ?_
      unfold totalExponent
      omega

/-- The powers of ten up to `10^308` are finite as doubles. -/
theorem isFinite_powerOfTen {k : Nat} (hk : k ≤ 308) :
    (Float.ofScientific 1 false k).isFinite = true := by
  cases k with
  | zero => decide
  | succ k => exact (isLarge_powerOfTen (Nat.succ_pos k) hk).isFinite

end LiveMap.Doubles
