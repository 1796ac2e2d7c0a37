import LiveMap.Proofs.Motion.Exact

/-!
# Where simulated markers go

In exact arithmetic, and in an area whose edges lie on the grid of four decimal places, a marker is
inside the area and on the grid after every tick, wherever it was before. Clamping comes before
rounding, so what keeps it inside is that rounding does not leave an interval between two grid
values (`Trigonometry.round4_mem`).

The heading after a tick is the drifted heading, reflected once for each axis on which the marker
left the area. Each reflection wraps what it yields; only full turns are lost by that, and so two
reflections come to half a turn (`turned_of_both`).

One tick is described by `Ticked`, whatever is drawn for it, and a run of any length by induction.

Main statement: `motion_stays_in_the_box_and_on_the_grid`.
-/

namespace LiveMap

/-- A box whose edges are in order and lie on the grid. -/
structure Bounds.IsGridBox (b : Bounds ℚ) : Prop where
  /-- The southern edge is not north of the northern one. -/
  lat : b.minLat ≤ b.maxLat
  /-- The western edge is not east of the eastern one. -/
  lng : b.minLng ≤ b.maxLng
  /-- All four edges lie on the grid. -/
  onGrid : OnGrid b.minLat ∧ OnGrid b.maxLat ∧ OnGrid b.minLng ∧ OnGrid b.maxLng

/-- Whether a latitude is one of the box. -/
abbrev Bounds.SpansLat (b : Bounds ℚ) (lat : ℚ) : Prop := b.minLat ≤ lat ∧ lat ≤ b.maxLat

/-- Whether a longitude is one of the box. -/
abbrev Bounds.SpansLng (b : Bounds ℚ) (lng : ℚ) : Prop := b.minLng ≤ lng ∧ lng ≤ b.maxLng

/-! ## Reflections -/

/-- The heading `d` in `[0, 360)`, reflected at the parallel if the latitude was not inside, and
then at the meridian if the longitude was not. -/
def turned (inLat inLng : Prop) [Decidable inLat] [Decidable inLng] (d : ℚ) : ℚ :=
  let reflected := if inLat then mod360 d else mod360 (180 - mod360 d)
  if inLng then reflected else mod360 (360 - reflected)

section

variable {inLat inLng : Prop} [Decidable inLat] [Decidable inLng] (d : ℚ)

/-- The heading after a tick lies in `[0, 360)`. -/
theorem turned_mem : 0 ≤ turned inLat inLng d ∧ turned inLat inLng d < 360 := by
  unfold turned
  dsimp only
  split_ifs <;> exact mod360_mem _

/-- Inside the area only the drift counts. -/
theorem turned_of_inside (hlat : inLat) (hlng : inLng) : turned inLat inLng d = mod360 d := by
  rw [turned, if_pos hlng, if_pos hlat]

/-- A reflection at the parallel. -/
theorem turned_of_lat (hlat : ¬inLat) (hlng : inLng) :
    turned inLat inLng d = mod360 (180 - d) := by
  rw [turned, if_pos hlng, if_neg hlat, mod360_sub_mod360]

/-- A reflection at the meridian. -/
theorem turned_of_lng (hlat : inLat) (hlng : ¬inLng) :
    turned inLat inLng d = mod360 (360 - d) := by
  rw [turned, if_neg hlng, if_pos hlat, mod360_sub_mod360]

/-- Two reflections come to half a turn. -/
theorem turned_of_both (hlat : ¬inLat) (hlng : ¬inLng) :
    turned inLat inLng d = mod360 (180 + d) := by
  have hsum : (360 : ℚ) - (180 - d) = 180 + d := by ring
  rw [turned, if_neg hlng, if_neg hlat, mod360_sub_mod360 180 d, mod360_sub_mod360 360 (180 - d),
    hsum]

end

namespace Trigonometry

variable (t : Trigonometry)

/-! ## One tick -/

/-- The latitude that a step leads to, before any bounce. -/
def aimedLat (m : Marker ℚ) (motion : Motion ℚ) (jolt : Jolt ℚ) : ℚ :=
  m.position.lat + motion.speed * t.cos (t.radians motion.heading) * jolt.latFactor

/-- The longitude that a step leads to, before any bounce. -/
def aimedLng (m : Marker ℚ) (motion : Motion ℚ) (jolt : Jolt ℚ) : ℚ :=
  m.position.lng + motion.speed * t.sin (t.radians motion.heading) * jolt.lngFactor

/-- Both coordinates on the grid, in exact arithmetic. -/
def rounded (p : LatLng ℚ) : LatLng ℚ :=
  letI := Scalar.exact t
  p.rounded

/-- One step under a given jolt, in exact arithmetic. -/
def step (m : Marker ℚ) (motion : Motion ℚ) (tuning : MotionTuning ℚ) (jolt : Jolt ℚ) :
    Except Fault (Marker ℚ) :=
  letI := Scalar.exact t
  m.step motion tuning jolt

/-- A step never fails in an area whose edges are in order. The coordinates are clamped and then
rounded, and the drifted heading is reflected. -/
theorem step_exact {tuning : MotionTuning ℚ}
    (hlat : tuning.bounds.minLat ≤ tuning.bounds.maxLat)
    (hlng : tuning.bounds.minLng ≤ tuning.bounds.maxLng) (m : Marker ℚ) (motion : Motion ℚ)
    (jolt : Jolt ℚ) :
    t.step m motion tuning jolt = .ok { m with
      position := t.rounded
        ⟨pin tuning.bounds.minLat tuning.bounds.maxLat (t.aimedLat m motion jolt),
          pin tuning.bounds.minLng tuning.bounds.maxLng (t.aimedLng m motion jolt)⟩
      motion := some { motion with
        heading := turned (tuning.bounds.SpansLat (t.aimedLat m motion jolt))
          (tuning.bounds.SpansLng (t.aimedLng m motion jolt))
          (motion.heading + jolt.drift) } } := by
  have hdrift : @wrapDegrees ℚ (Scalar.exact t) (motion.heading + jolt.drift) =
      mod360 (motion.heading + jolt.drift) := t.wrapDegrees_exact _
  refine bind_eq_ok_of (t.bounceLat_exact hlat (t.aimedLat m motion jolt) _) ?_
  refine bind_eq_ok_of (t.bounceLng_exact hlng (t.aimedLng m motion jolt) _) ?_
  -- Both bounces have their results, and the heading that they start from is left to be wrapped.
  dsimp only
  rw [hdrift]
  rfl

/-- What one tick makes of a moving marker, under whatever jolt. -/
structure Ticked (b : Bounds ℚ) (jolt : Jolt ℚ) (m : Marker ℚ) (motion : Motion ℚ) (m' : Marker ℚ)
    (motion' : Motion ℚ) : Prop where
  /-- The position lies in the box, edges included. -/
  inside : b.SpansLat m'.position.lat ∧ b.SpansLng m'.position.lng
  /-- Both coordinates lie on the grid. -/
  onGrid : OnGrid m'.position.lat ∧ OnGrid m'.position.lng
  /-- Rounding leaves the position as it is. -/
  rounded : t.rounded m'.position = m'.position
  /-- The heading lies in `[0, 360)`. -/
  heading : 0 ≤ motion'.heading ∧ motion'.heading < 360
  /-- If the step does not leave the box, the heading is the drifted one. -/
  straight : b.SpansLat (t.aimedLat m motion jolt) → b.SpansLng (t.aimedLng m motion jolt) →
    motion'.heading = mod360 (motion.heading + jolt.drift)
  /-- If it leaves the box by its latitude only, the drifted heading is reflected at the
  parallel. -/
  byLat : ¬b.SpansLat (t.aimedLat m motion jolt) → b.SpansLng (t.aimedLng m motion jolt) →
    motion'.heading = mod360 (180 - (motion.heading + jolt.drift))
  /-- If it leaves the box by its longitude only, the drifted heading is reflected at the
  meridian. -/
  byLng : b.SpansLat (t.aimedLat m motion jolt) → ¬b.SpansLng (t.aimedLng m motion jolt) →
    motion'.heading = mod360 (360 - (motion.heading + jolt.drift))
  /-- If it leaves the box by both, the drifted heading is turned round. -/
  byBoth : ¬b.SpansLat (t.aimedLat m motion jolt) → ¬b.SpansLng (t.aimedLng m motion jolt) →
    motion'.heading = mod360 (180 + (motion.heading + jolt.drift))
  /-- The speed is as it was. -/
  speed : motion'.speed = motion.speed
  /-- So are the id and the name. -/
  label : m'.id = m.id ∧ m'.name = m.name

/-- In a box on the grid, a step succeeds and does what a tick should do. -/
theorem exists_ticked {tuning : MotionTuning ℚ} (hbox : tuning.bounds.IsGridBox) (m : Marker ℚ)
    (motion : Motion ℚ) (jolt : Jolt ℚ) :
    ∃ m' motion', t.step m motion tuning jolt = .ok m' ∧ m'.motion = some motion' ∧
      t.Ticked tuning.bounds jolt m motion m' motion' := by
  obtain ⟨hsouth, hnorth, hwest, heast⟩ := hbox.onGrid
  refine ⟨_, _, t.step_exact hbox.lat hbox.lng m motion jolt, rfl, ?_⟩
  constructor
  case inside =>
    exact ⟨t.round4_mem hsouth hnorth (pin_mem hbox.lat _),
      t.round4_mem hwest heast (pin_mem hbox.lng _)⟩
  case onGrid => exact ⟨t.onGrid_round4 _, t.onGrid_round4 _⟩
  case rounded =>
    -- Both coordinates have been rounded already.
    have hlat := t.round4_of_onGrid (t.onGrid_round4
      (pin tuning.bounds.minLat tuning.bounds.maxLat (t.aimedLat m motion jolt)))
    have hlng := t.round4_of_onGrid (t.onGrid_round4
      (pin tuning.bounds.minLng tuning.bounds.maxLng (t.aimedLng m motion jolt)))
    exact congrArg₂ LatLng.mk hlat hlng
  case heading => exact turned_mem _
  case straight => exact fun hlat hlng => turned_of_inside _ hlat hlng
  case byLat => exact fun hlat hlng => turned_of_lat _ hlat hlng
  case byLng => exact fun hlat hlng => turned_of_lng _ hlat hlng
  case byBoth => exact fun hlat hlng => turned_of_both _ hlat hlng
  case speed => rfl
  case label => exact ⟨rfl, rfl⟩

/-! ## Some ticks -/

variable {ρ : Type} [RangeDraws ρ ℚ]

/-- Draws the jolt of one tick, in exact arithmetic. -/
def draw (tuning : MotionTuning ℚ) (source : ρ) : Except Fault (Jolt ℚ × ρ) :=
  letI := Scalar.exact t
  Jolt.draw tuning source

/-- Advances a marker by one tick, in exact arithmetic. -/
def advance (m : Marker ℚ) (tuning : MotionTuning ℚ) (source : ρ) :
    Except Fault (Option (Marker ℚ) × ρ) :=
  letI := Scalar.exact t
  m.advance tuning source

/-- A marker and the source of chance after some ticks. -/
def travel (tuning : MotionTuning ℚ) (m : Marker ℚ) (source : ρ) :
    (ticks : Nat) → Except Fault (Marker ℚ × ρ)
  | 0 => .ok (m, source)
  | ticks + 1 => do
    let (m, source) ← travel tuning m source ticks
    let (moved, source) ← t.advance m tuning source
    return (moved.getD m, source)

/-- A marker without motion stays as it is, and no chance is used up for it. -/
theorem advance_of_still {m : Marker ℚ} (hm : m.motion = none) (tuning : MotionTuning ℚ)
    (source : ρ) : t.advance m tuning source = .ok (none, source) := by
  unfold advance Marker.advance
  rw [hm]

/-- A moving marker is advanced by drawing a jolt and taking a step. -/
theorem advance_of_moving {m : Marker ℚ} {motion : Motion ℚ} (hm : m.motion = some motion)
    (tuning : MotionTuning ℚ) (source : ρ) : t.advance m tuning source = (do
      let (jolt, source) ← t.draw tuning source
      return (some (← t.step m motion tuning jolt), source)) := by
  unfold advance Marker.advance
  rw [hm]
  rfl

variable {tuning : MotionTuning ℚ} {m : Marker ℚ} {motion : Motion ℚ} {source : ρ}

/-- If a jolt can be drawn, a moving marker is advanced by it. -/
theorem exists_advance (hbox : tuning.bounds.IsGridBox) (hm : m.motion = some motion)
    {jolt : Jolt ℚ} {source' : ρ} (hdraw : t.draw tuning source = .ok (jolt, source')) :
    ∃ m' motion', t.advance m tuning source = .ok (some m', source') ∧ m'.motion = some motion' ∧
      t.Ticked tuning.bounds jolt m motion m' motion' := by
  obtain ⟨m', motion', hstep, hm', hticked⟩ := t.exists_ticked hbox m motion jolt
  refine ⟨m', motion', ?_, hm', hticked⟩
  rw [t.advance_of_moving hm]
  exact bind_eq_ok_of hdraw (bind_eq_ok_of hstep rfl)

/-- A moving marker that is advanced is advanced by a jolt that is drawn. -/
theorem exists_draw_of_advance (hm : m.motion = some motion) {moved : Option (Marker ℚ)}
    {source' : ρ} (h : t.advance m tuning source = .ok (moved, source')) :
    ∃ jolt, t.draw tuning source = .ok (jolt, source') := by
  rw [t.advance_of_moving hm] at h
  obtain ⟨⟨jolt, drawn⟩, hdraw, h⟩ := exists_of_bind_eq_ok h
  obtain ⟨m', -, h⟩ := exists_of_bind_eq_ok h
  cases h
  exact ⟨jolt, hdraw⟩

/-- The last of some ticks of a moving marker. -/
theorem exists_last_tick (hbox : tuning.bounds.IsGridBox) {ticks : Nat} {m₁ m₂ : Marker ℚ}
    {motion₁ : Motion ℚ} {source₁ source₂ : ρ}
    (hbefore : t.travel tuning m source ticks = .ok (m₁, source₁)) (hm₁ : m₁.motion = some motion₁)
    (h : t.travel tuning m source (ticks + 1) = .ok (m₂, source₂)) :
    ∃ jolt motion₂, t.draw tuning source₁ = .ok (jolt, source₂) ∧ m₂.motion = some motion₂ ∧
      t.Ticked tuning.bounds jolt m₁ motion₁ m₂ motion₂ := by
  obtain ⟨_, hbefore', h⟩ := exists_of_bind_eq_ok h
  cases hbefore.symm.trans hbefore'
  obtain ⟨⟨moved, drawn⟩, hadvance, h⟩ := exists_of_bind_eq_ok h
  cases h
  obtain ⟨jolt, hdraw⟩ := t.exists_draw_of_advance hm₁ hadvance
  obtain ⟨m', motion', hmoved, hm', hticked⟩ := t.exists_advance hbox hm₁ hdraw
  cases hmoved.symm.trans hadvance
  exact ⟨jolt, motion', hdraw, hm', hticked⟩

/-- After any number of ticks a moving marker still moves, under its name and at its speed. -/
theorem exists_motion_of_travel (hbox : tuning.bounds.IsGridBox) (hm : m.motion = some motion)
    (ticks : Nat) {m₁ : Marker ℚ} {source₁ : ρ}
    (h : t.travel tuning m source ticks = .ok (m₁, source₁)) :
    ∃ motion₁, m₁.motion = some motion₁ ∧ motion₁.speed = motion.speed ∧ m₁.id = m.id ∧
      m₁.name = m.name := by
  induction ticks generalizing m₁ source₁ with
  | zero =>
    cases h
    exact ⟨motion, hm, rfl, rfl, rfl⟩
  | succ ticks ih =>
    obtain ⟨⟨m₀, source₀⟩, hbefore, -⟩ := exists_of_bind_eq_ok h
    obtain ⟨motion₀, hm₀, hspeed, hid, hname⟩ := ih hbefore
    obtain ⟨jolt, motion₁, -, hm₁, hticked⟩ := t.exists_last_tick hbox hbefore hm₀ h
    exact ⟨motion₁, hm₁, hticked.speed.trans hspeed, hticked.label.1.trans hid,
      hticked.label.2.trans hname⟩

/-- Where a marker goes, from any place and any heading. -/
structure Confined (tuning : MotionTuning ℚ) (m : Marker ℚ) (source : ρ) : Prop where
  /-- A marker without motion stays as it is, and no chance is used up for it. -/
  still : m.motion = none → t.advance m tuning source = .ok (none, source) ∧
    ∀ ticks, t.travel tuning m source ticks = .ok (m, source)
  /-- Every tick of a marker with motion is as it should be, and id, name and speed are those of the
  start. -/
  ticked : ∀ motion, m.motion = some motion → ∀ ticks m₂ source₂,
    t.travel tuning m source (ticks + 1) = .ok (m₂, source₂) →
      ∃ m₁ source₁ motion₁ jolt motion₂, t.travel tuning m source ticks = .ok (m₁, source₁) ∧
        m₁.motion = some motion₁ ∧ t.draw tuning source₁ = .ok (jolt, source₂) ∧
        m₂.motion = some motion₂ ∧ t.Ticked tuning.bounds jolt m₁ motion₁ m₂ motion₂ ∧
        m₂.id = m.id ∧ m₂.name = m.name ∧ motion₂.speed = motion.speed
  /-- A tick fails only if its jolt cannot be drawn. -/
  proceeds : ∀ motion, m.motion = some motion → ∀ ticks m₁ source₁ jolt source₂,
    t.travel tuning m source ticks = .ok (m₁, source₁) →
    t.draw tuning source₁ = .ok (jolt, source₂) →
      ∃ m₂, t.travel tuning m source (ticks + 1) = .ok (m₂, source₂)
  /-- If jolts can always be drawn, any number of ticks goes through. -/
  goes : (∀ source₁ : ρ, ∃ drawn, t.draw tuning source₁ = .ok drawn) →
    ∀ ticks, ∃ result, t.travel tuning m source ticks = .ok result

/-- In exact arithmetic, whatever stands in for sine and cosine and whatever is drawn: in a box on
the grid, every marker with motion is inside the box and on the grid after every tick, and its
heading has drifted and been reflected as it should. -/
theorem motion_stays_in_the_box_and_on_the_grid {tuning : MotionTuning ℚ}
    (hbox : tuning.bounds.IsGridBox) (m : Marker ℚ) (source : ρ) : t.Confined tuning m source := by
  have hstill : m.motion = none → ∀ ticks, t.travel tuning m source ticks = .ok (m, source) := by
    intro hm ticks
    induction ticks with
    | zero => rfl
    | succ ticks ih => exact bind_eq_ok_of ih (bind_eq_ok_of (t.advance_of_still hm _ _) rfl)
  have hproceeds : ∀ motion, m.motion = some motion → ∀ ticks m₁ source₁ jolt source₂,
      t.travel tuning m source ticks = .ok (m₁, source₁) →
      t.draw tuning source₁ = .ok (jolt, source₂) →
        ∃ m₂, t.travel tuning m source (ticks + 1) = .ok (m₂, source₂) := by
    intro motion hm ticks m₁ source₁ jolt source₂ hbefore hdraw
    -- A marker that moved at the start still moves, and its step cannot fail.
    obtain ⟨motion₁, hm₁, -⟩ := t.exists_motion_of_travel hbox hm ticks hbefore
    obtain ⟨m₂, -, hadvance, -⟩ := t.exists_advance hbox hm₁ hdraw
    exact ⟨m₂, bind_eq_ok_of hbefore (bind_eq_ok_of hadvance rfl)⟩
  constructor
  case still => exact fun hm => ⟨t.advance_of_still hm tuning source, hstill hm⟩
  case ticked =>
    intro motion hm ticks m₂ source₂ h
    obtain ⟨⟨m₁, source₁⟩, hbefore, -⟩ := exists_of_bind_eq_ok h
    obtain ⟨motion₁, hm₁, hspeed, hid, hname⟩ := t.exists_motion_of_travel hbox hm ticks hbefore
    obtain ⟨jolt, motion₂, hdraw, hm₂, hticked⟩ := t.exists_last_tick hbox hbefore hm₁ h
    exact ⟨m₁, source₁, motion₁, jolt, motion₂, hbefore, hm₁, hdraw, hm₂, hticked,
      hticked.label.1.trans hid, hticked.label.2.trans hname, hticked.speed.trans hspeed⟩
  case proceeds => exact hproceeds
  case goes =>
    intro hdraws ticks
    cases hm : m.motion with
    | none => exact ⟨_, hstill hm ticks⟩
    | some motion =>
      induction ticks with
      | zero => exact ⟨_, rfl⟩
      | succ ticks ih =>
        obtain ⟨⟨m₁, source₁⟩, hbefore⟩ := ih
        obtain ⟨⟨jolt, source₂⟩, hdraw⟩ := hdraws source₁
        obtain ⟨m₂, hnext⟩ := hproceeds motion hm ticks m₁ source₁ jolt source₂ hbefore hdraw
        exact ⟨_, hnext⟩

/-- Steps of half the speed along both axes, whatever the heading. -/
def diagonal : Trigonometry := ⟨id, fun _ => 1 / 2, fun _ => 1 / 2⟩

/-- The standard tuning, in exact arithmetic. -/
def standardTuning : MotionTuning ℚ where
  bounds := ⟨25, 49, -125, -66⟩
  stepJitter := ⟨3 / 5, 7 / 5⟩
  headingDrift := 20
  speedRange := ⟨2 / 5, 6 / 5⟩

/-- Draws that take the middle of every range. -/
@[reducible] def middleDraws : RangeDraws Unit ℚ :=
  ⟨fun lo hi source => .ok ((lo + hi) / 2, source)⟩

/-- A marker in the north-eastern corner of the standard box, heading out of it. -/
def cornered : Marker ℚ := ⟨"m1", "Alpha-01", ⟨49, -66⟩, some ⟨45, 1⟩⟩

/-- The marker does not leave the standard box. -/
theorem cornered_is_confined : standardTuning.bounds.IsGridBox ∧
    @Confined diagonal Unit middleDraws standardTuning cornered () := by
  have hdegrees : ∀ k : ℤ, OnGrid k := fun k => ⟨k * 10000, by push_cast; ring⟩
  have hedges : OnGrid 25 ∧ OnGrid 49 ∧ OnGrid (-125) ∧ OnGrid (-66) :=
    ⟨hdegrees 25, hdegrees 49, by exact_mod_cast hdegrees (-125),
      by exact_mod_cast hdegrees (-66)⟩
  have hbox : standardTuning.bounds.IsGridBox := ⟨by decide, by decide, hedges⟩
  exact ⟨hbox, @motion_stays_in_the_box_and_on_the_grid diagonal Unit middleDraws standardTuning
    hbox cornered ()⟩

/-- It is clamped to the corner and turned round: `45` becomes `135` and then `225`. -/
example : ((@travel diagonal Unit middleDraws standardTuning cornered () 1).toOption.map
    fun r => (r.1.position.lat, r.1.position.lng, r.1.motion.map Motion.heading)) =
      some (49, -66, some 225) := by decide +kernel

end Trigonometry

end LiveMap
