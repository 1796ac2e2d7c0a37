import LiveMap.Motion
import LiveMap.Proofs.Failable
import LiveMap.Random.Uniform

/-!
# Draws that never fail

A number below `n` can be drawn if `n` is positive, and a value of a range of doubles if the range
is drawable: it holds at least one value, and it is not so wide that the factor which stretches the
fractions onto it overflows. A source of random words draws from such ranges and from no others
(`Uniform.exists_between_iff`). A source of draws is lawful if it yields whatever can be drawn
(`LawfulDraws`). Every source of random words is lawful; which value of a range of doubles it yields
plays no part here.

A tuning is legal if all the ranges that it names are drawable. With a legal tuning and lawful draws
every marker that has motion can be advanced (`exists_advance`).
-/

namespace LiveMap

variable {ρ : Type}

/-- Whether values can be drawn from a range. That its ends are finite and the right way round is
not enough: the distance between two finite doubles may be infinite, and so may the factor that is
greater than the distance by one part in `2^52`. -/
structure Interval.Drawable (r : Interval Float) : Prop where
  /-- The range is not empty. -/
  lo_le_hi : r.lo ≤ r.hi
  /-- The factor that stretches the fractions onto the range is finite. -/
  finite : ((r.hi - r.lo) / Uniform.maxFraction).isFinite = true

instance (r : Interval Float) : Decidable r.Drawable :=
  decidable_of_iff (r.lo ≤ r.hi ∧ ((r.hi - r.lo) / Uniform.maxFraction).isFinite = true)
    ⟨fun h => ⟨h.1, h.2⟩, fun h => ⟨h.lo_le_hi, h.finite⟩⟩

/-- Draws that yield whatever can be drawn. -/
class LawfulDraws (ρ : Type) [FleetDraws ρ] : Prop where
  /-- A drawable range yields a value. -/
  between_eq_ok : ∀ {r : Interval Float}, r.Drawable → ∀ source : ρ,
    ∃ drawn : Float × ρ, RangeDraws.between r.lo r.hi source = .ok drawn
  /-- If there is a number below `n`, such a number is yielded. -/
  below_eq_ok : ∀ {n : Nat}, 0 < n → ∀ source : ρ,
    ∃ k source', FleetDraws.below n source = .ok (k, source') ∧ k < n

namespace Uniform

/-- The high half of the product of a word and a number is less than the number. -/
theorem belowWithin_lt [WordSource ρ] {n : Nat} (hn : 0 < n) (tries : Nat) (source : ρ) :
    (belowWithin n tries source).1 < n := by
  induction tries generalizing source with
  | zero => exact hn
  | succ tries ih =>
    have hword : (WordSource.next32 source).1.toNat < Nat.pow 2 32 := UInt32.toNat_lt _
    have hproduct : (WordSource.next32 source).1.toNat * n < Nat.pow 2 32 * n :=
      Nat.mul_lt_mul_of_pos_right hword hn
    unfold belowWithin
    dsimp only
    split
    · exact Nat.div_lt_of_lt_mul hproduct
    · exact ih _

/-- The factor that stretches the fractions onto a range exists exactly if the range is drawable. -/
theorem exists_scale_iff {r : Interval Float} :
    (∃ s, scale r.lo r.hi = .ok s) ↔ r.Drawable := by
  unfold scale
  constructor
  · rintro ⟨s, hs⟩
    split at hs
    · next hle =>
      dsimp only at hs
      split at hs
      · next hfinite => exact ⟨hle, hfinite⟩
      · cases hs
    · cases hs
  · intro hr
    rw [if_pos hr.lo_le_hi]
    exact ⟨_, if_pos hr.finite⟩

/-- A source of random words yields a value of a range exactly if the range is drawable. -/
theorem exists_between_iff [WordSource ρ] {r : Interval Float} {source : ρ} :
    (∃ drawn : Float × ρ, between r.lo r.hi source = .ok drawn) ↔ r.Drawable := by
  rw [← exists_scale_iff]
  constructor
  · rintro ⟨drawn, h⟩
    obtain ⟨s, hs, -⟩ := exists_of_bind_eq_ok h
    exact ⟨s, hs⟩
  · rintro ⟨s, hs⟩
    exact ⟨_, bind_eq_ok_of hs rfl⟩

/-- Every source of random words is lawful. -/
instance [WordSource ρ] : LawfulDraws ρ where
  between_eq_ok hr _ := exists_between_iff.2 hr
  below_eq_ok {n} hn source := by
    have hdrawn : below n source = .ok (belowWithin n (Nat.pow 2 16) source) :=
      if_neg (Nat.ne_of_gt hn)
    have hlt := belowWithin_lt hn (Nat.pow 2 16) source
    -- The number of tries is large, and is not to be counted down.
    generalize belowWithin n (Nat.pow 2 16) source = drawn at hdrawn hlt
    exact ⟨drawn.1, drawn.2, hdrawn, hlt⟩

end Uniform

/-! ## Legal tunings -/

/-- The ranges that a tuning names. -/
def MotionTuning.ranges (t : MotionTuning Float) : List (Interval Float) :=
  [⟨t.bounds.minLat, t.bounds.maxLat⟩, ⟨t.bounds.minLng, t.bounds.maxLng⟩, t.stepJitter,
    ⟨-t.headingDrift, t.headingDrift⟩, t.speedRange]

/-- Whether all the ranges that a tuning names are drawable. -/
structure MotionTuning.Legal (t : MotionTuning Float) : Prop where
  /-- The latitudes of the area. -/
  lat : (⟨t.bounds.minLat, t.bounds.maxLat⟩ : Interval Float).Drawable
  /-- The longitudes of the area. -/
  lng : (⟨t.bounds.minLng, t.bounds.maxLng⟩ : Interval Float).Drawable
  /-- The factors of a step. -/
  jitter : t.stepJitter.Drawable
  /-- The changes of heading. -/
  drift : (⟨-t.headingDrift, t.headingDrift⟩ : Interval Float).Drawable
  /-- The speeds of new markers. -/
  speed : t.speedRange.Drawable

/-- A tuning is legal if each of its ranges is drawable. -/
theorem MotionTuning.legal_of_ranges {t : MotionTuning Float} (h : ∀ r ∈ t.ranges, r.Drawable) :
    t.Legal := by
  simp only [ranges, List.forall_mem_cons] at h
  obtain ⟨lat, lng, jitter, drift, speed, -⟩ := h
  exact ⟨lat, lng, jitter, drift, speed⟩

/-- The standard tuning is legal. -/
theorem MotionTuning.legal_standard : MotionTuning.standard.Legal :=
  legal_of_ranges (by decide)

/-- A jolt can be drawn. -/
theorem MotionTuning.Legal.exists_jolt [FleetDraws ρ] [LawfulDraws ρ] {t : MotionTuning Float}
    (ht : t.Legal) (source : ρ) : ∃ r, Jolt.draw t source = .ok r := by
  obtain ⟨lat, hlat⟩ := LawfulDraws.between_eq_ok ht.jitter source
  obtain ⟨lng, hlng⟩ := LawfulDraws.between_eq_ok ht.jitter lat.2
  obtain ⟨drift, hdrift⟩ := LawfulDraws.between_eq_ok ht.drift lng.2
  exact ⟨_, bind_eq_ok_of hlat (bind_eq_ok_of hlng (bind_eq_ok_of hdrift rfl))⟩

/-- In an area that is not inside out every step has an end. -/
theorem MotionTuning.Legal.exists_step {t : MotionTuning Float} (ht : t.Legal) (m : Marker Float)
    (motion : Motion Float) (jolt : Jolt Float) : ∃ moved, m.step motion t jolt = .ok moved := by
  have hlat : ∀ lat heading, ∃ r, t.bounds.bounceLat lat heading = .ok r := by
    intro lat heading
    unfold Bounds.bounceLat
    split
    · exact ⟨_, rfl⟩
    · exact ⟨_, bind_eq_ok_of (if_pos ht.lat.lo_le_hi) rfl⟩
  have hlng : ∀ lng heading, ∃ r, t.bounds.bounceLng lng heading = .ok r := by
    intro lng heading
    unfold Bounds.bounceLng
    split
    · exact ⟨_, rfl⟩
    · exact ⟨_, bind_eq_ok_of (if_pos ht.lng.lo_le_hi) rfl⟩
  obtain ⟨lat, h₁⟩ := hlat _ _
  obtain ⟨lng, h₂⟩ := hlng _ lat.2
  exact ⟨_, bind_eq_ok_of h₁ (bind_eq_ok_of h₂ rfl)⟩

/-- A marker that has motion can be advanced. -/
theorem MotionTuning.Legal.exists_advance [FleetDraws ρ] [LawfulDraws ρ] {t : MotionTuning Float}
    (ht : t.Legal) {m : Marker Float} (hm : m.isMoving = true) (source : ρ) :
    ∃ moved source', m.advance t source = .ok (some moved, source') := by
  obtain ⟨motion, hmotion⟩ := Option.isSome_iff_exists.1 hm
  obtain ⟨jolt, hjolt⟩ := ht.exists_jolt source
  obtain ⟨moved, hmoved⟩ := ht.exists_step m motion jolt.1
  refine ⟨moved, jolt.2, ?_⟩
  rw [Marker.advance, hmotion]
  exact bind_eq_ok_of hjolt (bind_eq_ok_of hmoved rfl)

end LiveMap
