import LiveMap.Proofs.Fleet.Generator
import LiveMap.Proofs.Random.Draws
import LiveMap.Random.ChaCha
import Mathlib.Logic.Basic

/-!
# How large a fleet becomes

Which operation a fleet picks is decided by a roll below the sum of the weights, and the weights
depend on the size of the fleet. The sum is positive for every size (`weights_total_pos`), and what
the roll asks for can always be done: a fleet that may move has a marker, which has motion, and a
fleet that may shrink has a marker to take out. So no operation ever stands in for another.

Everything about the size of a valid fleet follows from what one pick does that goes through
(`Valid.pick_of_nextOp`). Over a whole run the size stays at most the cap, or at most the initial
size if that is larger. None of this depends on the tuning. It decides whether a pick goes through:
a fleet is sound if it is valid and its tuning is legal, and with lawful draws a sound fleet always
picks an operation (`Sound.exists_nextOp`). Ranges that are finite and not empty are not enough for
that, because a range may be too wide to be drawn from (`wide_range_ends_a_run`).

Main statement: `size_is_bounded`, for every tuning, all lawful draws and every run.
-/

namespace LiveMap.Generator

variable {ρ : Type} {g g' : Generator ρ}

/-- What may be asked of a fleet. -/
inductive Turn where
  /-- Pick an operation. -/
  | pick
  /-- Forget the marker of an id. -/
  | forget (id : String)

/-- The fleet after one turn. -/
def act [FleetDraws ρ] (turn : Turn) (g : Generator ρ) : Except Fault (Generator ρ) :=
  match turn with
  | .pick => g.nextOp.map Prod.snd
  | .forget id => .ok (g.forget id).2

/-- The fleet after several turns. -/
def run [FleetDraws ρ] : List Turn → Generator ρ → Except Fault (Generator ρ)
  | [], g => .ok g
  | turn :: turns, g => act turn g >>= run turns

/-- What one pick does to a fleet: from the fleet before and a roll to the operation and the fleet
after. Which of the three it is depends on the roll alone. -/
inductive Pick (g : Generator ρ) (roll : Nat) (op : MarkerOp) (g' : Generator ρ) : Prop where
  /-- A marker moves, and the size stays. -/
  | moves (asked : roll < g.weights.move) (kind : op.kind = .update) (size : g'.size = g.size)
  /-- A marker appears in a fleet below the cap. It adds one to the size, unless it replaces a
  marker that had the drawn id already. -/
  | grows (asked : g.weights.move ≤ roll ∧ roll < g.weights.move + g.weights.add)
      (kind : op.kind = .add) (room : g.size < maxMarkers)
      (size : g'.size = if g.find? op.id = none then g.size + 1 else g.size)
  /-- A marker leaves a fleet above the floor, and takes one from the size. -/
  | shrinks (asked : g.weights.move + g.weights.add ≤ roll) (kind : op.kind = .delete)
      (spare : minMarkers < g.size) (size : g'.size + 1 = g.size)

/-- What holds of a fleet that began with `initial` markers, at any point of its run. -/
structure Census [FleetDraws ρ] (initial : Nat) (g : Generator ρ) : Prop where
  /-- Every stored marker is filed under its own id, and has motion. -/
  filed : ∀ entry ∈ g.markers, entry.2.id = entry.1 ∧ entry.2.isMoving = true
  /-- There is something to roll for. -/
  total_pos : 0 < g.weights.total
  /-- A pick has rolled, and goes through with what the roll asks for. -/
  picks : ∀ op g', g.nextOp = .ok (op, g') →
    ∃ roll source, FleetDraws.below g.weights.total g.source = .ok (roll, source) ∧
      (op.kind = .update ↔ roll < g.weights.move) ∧ Pick g roll op g'
  /-- The size is at most the cap, or at most the initial size. -/
  size_le : g.size ≤ max maxMarkers initial
  /-- At the cap and above, no turn makes the fleet larger. -/
  shrinks : maxMarkers ≤ g.size → ∀ turn g', act turn g = .ok g' → g'.size ≤ g.size
  /-- From the floor on, picks alone never lead below the floor. -/
  lasts : minMarkers ≤ g.size → ∀ n g', run (List.replicate n .pick) g = .ok g' →
    minMarkers ≤ g'.size

/-! ## Sizes -/

/-- Whatever the size, some operation has a weight: a fleet at the cap is not empty. -/
theorem weights_total_pos (g : Generator ρ) : 0 < g.weights.total := by
  rw [Weights.total]
  by_cases hroom : g.size < maxMarkers
  · have hadd : g.weights.add = 2 := if_pos hroom
    omega
  · have hpos : 0 < g.size := Nat.lt_of_lt_of_le (by decide) (Nat.le_of_not_lt hroom)
    have hmove : g.weights.move = 6 := if_pos hpos
    omega

/-- Only a fleet with markers gives moves a weight. -/
theorem size_pos_of_roll {roll : Nat} (h : roll < g.weights.move) : 0 < g.size :=
  (ite_ne_right_iff.1 (Nat.ne_of_gt (Nat.zero_lt_of_lt h))).1

/-- Only a fleet below the cap gives additions a weight. -/
theorem size_lt_of_roll {roll : Nat} (hmove : g.weights.move ≤ roll)
    (hadd : roll < g.weights.move + g.weights.add) : g.size < maxMarkers := by
  have hpos : 0 < g.weights.add := by omega
  exact (ite_ne_right_iff.1 (Nat.ne_of_gt hpos)).1

/-- Only a fleet above the floor gives removals a weight. -/
theorem lt_size_of_roll {roll : Nat} (hadd : g.weights.move + g.weights.add ≤ roll)
    (htotal : roll < g.weights.total) : minMarkers < g.size := by
  have hpos : 0 < g.weights.delete := by
    rw [Weights.total] at htotal
    omega
  exact (ite_ne_right_iff.1 (Nat.ne_of_gt hpos)).1

/-- Putting a marker in place adds one to the size, unless its id was in use. -/
theorem Valid.size_of_insert {m : Marker Float} (hv : g.Valid)
    (h : g'.markers = Keyed.insert m.id m g.markers) :
    g'.size = if g.find? m.id = none then g.size + 1 else g.size := by
  rw [size, h, hv.ascending.length_insert, find?, size]

/-- Taking a marker out takes one from the size. -/
theorem size_of_erase {id : String} (hid : g.find? id ≠ none)
    (h : g'.markers = Keyed.erase id g.markers) : g'.size + 1 = g.size := by
  rw [size, h, size]
  exact Keyed.length_erase hid

/-- Forgetting makes no fleet larger. -/
theorem size_forget_le (g : Generator ρ) (id : String) : (g.forget id).2.size ≤ g.size :=
  Keyed.erase_sublist.length_le

/-- A roll below the weight of moves asks for a move, and no other roll does. -/
theorem Pick.update_iff {roll : Nat} {op : MarkerOp} (h : Pick g roll op g') :
    op.kind = .update ↔ roll < g.weights.move := by
  cases h with
  | moves asked kind _ => exact iff_of_true kind asked
  | grows asked kind _ _ =>
    rw [kind]
    exact iff_of_false (by decide) (Nat.not_lt.2 asked.1)
  | shrinks asked kind _ _ =>
    rw [kind]
    exact iff_of_false (by decide) (by omega)

/-- A pick leads to at most the cap, or makes the fleet no larger. -/
theorem Pick.size_le {roll : Nat} {op : MarkerOp} (h : Pick g roll op g') :
    g'.size ≤ max maxMarkers g.size := by
  cases h with
  | moves _ _ size => omega
  | grows _ _ room size =>
    rw [size]
    split <;> omega
  | shrinks _ _ _ size => omega

/-- A pick does not lead from the floor to below it. -/
theorem Pick.le_size {roll : Nat} {op : MarkerOp} (h : Pick g roll op g')
    (hfloor : minMarkers ≤ g.size) : minMarkers ≤ g'.size := by
  cases h with
  | moves _ _ size => omega
  | grows _ _ _ size =>
    rw [size]
    split <;> omega
  | shrinks _ _ spare size => omega

/-! ## Picks that go through -/

variable [FleetDraws ρ]

/-- A pick leaves the tuning as it is. -/
theorem tuning_nextOp {op : MarkerOp} (h : g.nextOp = .ok (op, g')) : g'.tuning = g.tuning := by
  obtain ⟨source, hadd | hmove | hremove⟩ := nextOp_calls h
  · obtain ⟨⟨m, spawned⟩, hspawn, hadd⟩ := exists_of_bind_eq_ok hadd
    cases hadd
    obtain ⟨-, -, source', rfl⟩ := spawn_frame hspawn
    rfl
  · obtain ⟨hnone, -⟩ | ⟨m, -, moved, source', -, -, -, -, rfl⟩ := moveRandom_cases hmove
    · cases hnone
    · rfl
  · obtain ⟨hnone, -⟩ | ⟨m, -, source', -, rfl⟩ := deleteRandom_cases hremove
    · cases hnone
    · rfl

variable [LawfulDraws ρ]

/-- From a fleet that is not empty a marker is picked. -/
theorem exists_pick_of_size_pos (h : 0 < g.size) :
    ∃ m source, g.pick = .ok (some m, { g with source }) := by
  obtain ⟨index, source, hbelow, hlt⟩ := LawfulDraws.below_eq_ok h g.source
  obtain ⟨⟨id, m⟩, hentry⟩ : ∃ entry, g.markers[index]? = some entry :=
    ⟨_, List.getElem?_eq_getElem hlt⟩
  have hne : ¬g.markers.isEmpty = true := by
    rw [List.isEmpty_iff_length_eq_zero]
    exact Nat.ne_of_gt h
  have hsome : g.markers[index]?.map Prod.snd = some m := by rw [hentry, Option.map_some]
  refine ⟨m, source, ?_⟩
  rw [pick, if_neg hne, ← hsome]
  exact bind_eq_ok_of hbelow rfl

/-- From a valid fleet that is not empty a marker with motion is picked. -/
theorem Valid.exists_moving (hv : g.Valid) (h : 0 < g.size) :
    ∃ m source, g.pick = .ok (some m, { g with source }) ∧ m.isMoving = true := by
  obtain ⟨m, source, hpick⟩ := exists_pick_of_size_pos h
  exact ⟨m, source, hpick, hv.moving m.id m (hv.find?_of_pick hpick)⟩

/-- A move that goes through has moved something if there is a marker. -/
theorem Valid.exists_of_moveRandom {op? : Option MarkerOp} (hv : g.Valid) (hpos : 0 < g.size)
    (h : g.moveRandom = .ok (op?, g')) : ∃ op, op? = some op := by
  obtain ⟨m, source, hpick, hmoving⟩ := hv.exists_moving hpos
  obtain ⟨motion, hmotion⟩ := Option.isSome_iff_exists.1 hmoving
  obtain ⟨⟨picked, g₁⟩, hpick', h⟩ := exists_of_bind_eq_ok h
  rw [hpick] at hpick'
  cases hpick'
  obtain ⟨⟨moved?, drawn⟩, hadvance, h⟩ := exists_of_bind_eq_ok h
  rw [Marker.advance, hmotion] at hadvance
  obtain ⟨jolt, -, hadvance⟩ := exists_of_bind_eq_ok hadvance
  obtain ⟨moved, -, hadvance⟩ := exists_of_bind_eq_ok hadvance
  cases hadvance
  cases h
  exact ⟨_, rfl⟩

/-- A removal that goes through has removed something if there is a marker. -/
theorem exists_of_deleteRandom {op? : Option MarkerOp} (hpos : 0 < g.size)
    (h : g.deleteRandom = .ok (op?, g')) : ∃ op, op? = some op := by
  obtain ⟨m, source, hpick⟩ := exists_pick_of_size_pos hpos
  obtain ⟨⟨picked, g₁⟩, hpick', h⟩ := exists_of_bind_eq_ok h
  rw [hpick] at hpick'
  cases hpick'
  cases h
  exact ⟨_, rfl⟩

/-- What a pick has done that goes through: the fleet rolled, and did what the roll asks for. -/
theorem Valid.pick_of_nextOp {op : MarkerOp} (hv : g.Valid) (h : g.nextOp = .ok (op, g')) :
    ∃ roll source, FleetDraws.below g.weights.total g.source = .ok (roll, source) ∧
      Pick g roll op g' := by
  obtain ⟨roll, source, hroll, hlt⟩ := LawfulDraws.below_eq_ok (weights_total_pos g) g.source
  refine ⟨roll, source, hroll, ?_⟩
  obtain ⟨rolled, hroll', h⟩ := exists_of_bind_eq_ok h
  rw [hroll] at hroll'
  cases hroll'
  have hrolled := hv.of_source source
  dsimp only at h
  -- The three ranges of the roll, and for each the weight that it asks for.
  split at h
  · next hmove =>
    obtain ⟨⟨op?, g₁⟩, hmoved, h⟩ := exists_of_bind_eq_ok h
    obtain ⟨moved, rfl⟩ := hrolled.exists_of_moveRandom (size_pos_of_roll hmove) hmoved
    cases h
    obtain ⟨hnone, -⟩ | ⟨m, moved, hfound, hop, hid, -, -, hmarkers⟩ :=
      hrolled.moveRandom_cases hmoved
    · cases hnone
    · cases hop
      have hpresent : ¬g.find? moved.id = none := by
        rw [hid]
        exact Option.ne_none_iff_exists'.2 ⟨m, hfound⟩
      have hsize := hv.size_of_insert hmarkers
      rw [if_neg hpresent] at hsize
      exact .moves hmove rfl hsize
  split at h
  · next hmove hadd =>
    have hlower := Nat.not_lt.1 hmove
    obtain ⟨m, rfl, -, hmarkers⟩ := addRandom_cases h
    exact .grows ⟨hlower, hadd⟩ rfl (size_lt_of_roll hlower hadd)
      (hv.size_of_insert hmarkers)
  · next hmove hadd =>
    have hspare := lt_size_of_roll (Nat.not_lt.1 hadd) hlt
    obtain ⟨⟨op?, g₁⟩, hremoved, h⟩ := exists_of_bind_eq_ok h
    obtain ⟨removed, rfl⟩ := exists_of_deleteRandom (g := { g with source })
      (Nat.zero_lt_of_lt hspare) hremoved
    cases h
    obtain ⟨hnone, -⟩ | ⟨m, hfound, hop, hmarkers⟩ := hrolled.deleteRandom_cases hremoved
    · cases hnone
    · cases hop
      have hpresent : g.find? m.id ≠ none := Option.ne_none_iff_exists'.2 ⟨m, hfound⟩
      exact .shrinks (Nat.not_lt.1 hadd) rfl hspare (size_of_erase hpresent hmarkers)

/-! ## Runs that go through -/

omit [LawfulDraws ρ] in
/-- A new fleet has no more markers than were asked for. -/
theorem size_create_le {initial : Nat} {tuning : MotionTuning Float} {source : ρ}
    (h : create initial tuning source = .ok g) : g.size ≤ initial := by
  have hspawned : ∀ (n : Nat) {first last : Generator ρ}, first.Valid →
      spawnMany n first = .ok last → last.size ≤ first.size + n := by
    intro n
    induction n with
    | zero =>
      intro first last _ h
      cases h
      exact Nat.le_refl _
    | succ n ih =>
      intro first last hv h
      obtain ⟨⟨m, next⟩, hm, h⟩ := exists_of_bind_eq_ok h
      obtain ⟨hmoving, hmarkers⟩ := spawn_cases hm
      have hfirst : next.size ≤ first.size + 1 := by
        rw [hv.size_of_insert hmarkers]
        split <;> omega
      have hrest := ih (hv.of_insert hmoving hmarkers) h
      omega
  have hsize := hspawned initial (valid_of_nil rfl) h
  exact Nat.le_trans hsize (Nat.le_of_eq (Nat.zero_add initial))

/-- A turn leads to at most the cap, or makes the fleet no larger. -/
theorem Valid.act {turn : Turn} (hv : g.Valid) (h : act turn g = .ok g') :
    g'.Valid ∧ g'.size ≤ max maxMarkers g.size := by
  cases turn with
  | pick =>
    obtain ⟨⟨op, next⟩, hnext, rfl⟩ := exists_of_map_eq_ok h
    obtain ⟨roll, source, -, hpick⟩ := hv.pick_of_nextOp hnext
    exact ⟨hv.nextOp hnext, hpick.size_le⟩
  | forget id =>
    cases h
    exact ⟨hv.of_erase (markers_forget g id),
      Nat.le_trans (size_forget_le g id) (Nat.le_max_right _ _)⟩

/-- A run leads to at most the cap, or makes the fleet no larger. -/
theorem Valid.run {turns : List Turn} (hv : g.Valid) (h : run turns g = .ok g') :
    g'.Valid ∧ g'.size ≤ max maxMarkers g.size := by
  induction turns generalizing g with
  | nil =>
    cases h
    exact ⟨hv, Nat.le_max_right _ _⟩
  | cons turn turns ih =>
    obtain ⟨next, hact, h⟩ := exists_of_bind_eq_ok h
    obtain ⟨hnext, hle⟩ := hv.act hact
    obtain ⟨hv', hle'⟩ := ih hnext h
    exact ⟨hv', by omega⟩

/-- Picks alone do not lead from the floor to below it. -/
theorem Valid.le_size_of_picks (hv : g.Valid) (hfloor : minMarkers ≤ g.size) {n : Nat}
    (h : Generator.run (List.replicate n .pick) g = .ok g') : minMarkers ≤ g'.size := by
  induction n generalizing g with
  | zero =>
    cases h
    exact hfloor
  | succ n ih =>
    obtain ⟨next, hact, h⟩ := exists_of_bind_eq_ok h
    obtain ⟨⟨op, next⟩, hnext, rfl⟩ := exists_of_map_eq_ok hact
    obtain ⟨roll, source, -, hpick⟩ := hv.pick_of_nextOp hnext
    exact ih (hv.nextOp hnext) (hpick.le_size hfloor) h

/-- What holds of a valid fleet that is not too large. -/
theorem Valid.census (hv : g.Valid) {initial : Nat} (hle : g.size ≤ max maxMarkers initial) :
    Census initial g where
  filed entry hentry := by
    have hfound : g.find? entry.1 = some entry.2 :=
      Keyed.find?_eq_some_of_mem hv.ascending.nodup_keys hentry
    exact ⟨hv.filed _ _ hfound, hv.moving _ _ hfound⟩
  total_pos := weights_total_pos g
  picks op g' h := by
    obtain ⟨roll, source, hroll, hpick⟩ := hv.pick_of_nextOp h
    exact ⟨roll, source, hroll, hpick.update_iff, hpick⟩
  size_le := hle
  shrinks hcap turn g' h := by
    have hsize := (hv.act h).2
    rwa [Nat.max_eq_right hcap] at hsize
  lasts hfloor _ _ h := hv.le_size_of_picks hfloor h

/-- What holds of a fleet at any point of its run. -/
theorem census_of_run {initial : Nat} {tuning : MotionTuning Float} {source : ρ}
    (hmade : create initial tuning source = .ok g) {turns : List Turn}
    (hrun : run turns g = .ok g') : Census initial g' := by
  obtain ⟨hvalid, hle⟩ := (valid_create hmade).run hrun
  have hinitial := size_create_le hmade
  exact hvalid.census (by omega)

/-! ## Runs that never fail -/

/-- A valid fleet with a legal tuning. -/
structure Sound (g : Generator ρ) : Prop where
  /-- The fleet is valid. -/
  valid : g.Valid
  /-- All the ranges that its tuning names are drawable. -/
  tuning : g.tuning.Legal

omit [LawfulDraws ρ] in
/-- A pick keeps a fleet sound. -/
theorem Sound.nextOp {op : MarkerOp} (hs : g.Sound) (h : g.nextOp = .ok (op, g')) : g'.Sound := by
  refine ⟨hs.valid.nextOp h, ?_⟩
  rw [tuning_nextOp h]
  exact hs.tuning

/-- A new marker can be drawn. -/
theorem exists_spawn (ht : g.tuning.Legal) : ∃ r, g.spawn = .ok r := by
  obtain ⟨lat, hlat⟩ := LawfulDraws.between_eq_ok ht.lat (FleetDraws.identifier g.source).2
  obtain ⟨lng, hlng⟩ := LawfulDraws.between_eq_ok ht.lng lat.2
  obtain ⟨speed, hspeed⟩ := LawfulDraws.between_eq_ok ht.speed (FleetDraws.heading lng.2).2
  exact ⟨_, bind_eq_ok_of hlat (bind_eq_ok_of hlng (bind_eq_ok_of hspeed rfl))⟩

/-- An addition goes through. -/
theorem exists_addRandom (ht : g.tuning.Legal) : ∃ r, g.addRandom = .ok r := by
  obtain ⟨spawned, hspawn⟩ := exists_spawn ht
  exact ⟨_, bind_eq_ok_of hspawn rfl⟩

/-- A move goes through if there is a marker. -/
theorem Valid.exists_moveRandom (hv : g.Valid) (ht : g.tuning.Legal) (h : 0 < g.size) :
    ∃ op g', g.moveRandom = .ok (some op, g') := by
  obtain ⟨m, source, hpick, hmoving⟩ := hv.exists_moving h
  obtain ⟨moved, source', hadvance⟩ := ht.exists_advance hmoving source
  exact ⟨.updated moved, _, bind_eq_ok_of hpick (bind_eq_ok_of hadvance rfl)⟩

/-- A removal goes through if there is a marker. -/
theorem exists_deleteRandom (h : 0 < g.size) :
    ∃ op g', g.deleteRandom = .ok (some op, g') := by
  obtain ⟨m, source, hpick⟩ := exists_pick_of_size_pos h
  exact ⟨.delete m.id, _, bind_eq_ok_of hpick rfl⟩

/-- A sound fleet picks an operation. -/
theorem Sound.exists_nextOp (hs : g.Sound) : ∃ op g', g.nextOp = .ok (op, g') := by
  obtain ⟨roll, source, hroll, hlt⟩ := LawfulDraws.below_eq_ok (weights_total_pos g) g.source
  have hrolled := hs.valid.of_source source
  by_cases hmove : roll < g.weights.move
  · obtain ⟨op, g', hmoved⟩ := hrolled.exists_moveRandom hs.tuning (size_pos_of_roll hmove)
    refine ⟨op, g', bind_eq_ok_of hroll ?_⟩
    dsimp only
    rw [if_pos hmove]
    exact bind_eq_ok_of hmoved rfl
  by_cases hadd : roll < g.weights.move + g.weights.add
  · obtain ⟨added, hadded⟩ := exists_addRandom (g := { g with source }) hs.tuning
    refine ⟨added.1, added.2, bind_eq_ok_of hroll ?_⟩
    dsimp only
    rw [if_neg hmove, if_pos hadd]
    exact hadded
  · have hspare := lt_size_of_roll (Nat.not_lt.1 hadd) hlt
    obtain ⟨op, g', hremoved⟩ := exists_deleteRandom (g := { g with source })
      (Nat.zero_lt_of_lt hspare)
    refine ⟨op, g', bind_eq_ok_of hroll ?_⟩
    dsimp only
    rw [if_neg hmove, if_neg hadd]
    exact bind_eq_ok_of hremoved rfl

/-- A new fleet is made, and is sound. -/
theorem exists_create {tuning : MotionTuning Float} (ht : tuning.Legal) (initial : Nat)
    (source : ρ) : ∃ g, create initial tuning source = .ok g ∧ g.Sound := by
  have hspawned : ∀ (n : Nat) (g : Generator ρ), g.tuning.Legal →
      ∃ g', spawnMany n g = .ok g' ∧ g'.tuning.Legal := by
    intro n
    induction n with
    | zero =>
      intro g ht
      exact ⟨g, rfl, ht⟩
    | succ n ih =>
      intro g ht
      obtain ⟨⟨m, next⟩, hspawn⟩ := exists_spawn ht
      have hnext : next.tuning.Legal := by
        obtain ⟨-, -, source, rfl⟩ := spawn_frame hspawn
        exact ht
      obtain ⟨g', hrest, hlegal⟩ := ih next hnext
      exact ⟨g', bind_eq_ok_of hspawn hrest, hlegal⟩
  obtain ⟨g, hmade, hlegal⟩ := hspawned initial
    { markers := [], usedNames := ∅, counter := 0, tuning, source } ht
  exact ⟨g, hmade, valid_create hmade, hlegal⟩

/-- A run goes through. -/
theorem Sound.exists_run (hs : g.Sound) (turns : List Turn) :
    ∃ g', run turns g = .ok g' ∧ g'.Sound := by
  induction turns generalizing g with
  | nil => exact ⟨g, rfl, hs⟩
  | cons turn turns ih =>
    cases turn with
    | pick =>
      obtain ⟨op, next, hnext⟩ := hs.exists_nextOp
      obtain ⟨g', hrun, hs'⟩ := ih (hs.nextOp hnext)
      refine ⟨g', bind_eq_ok_of ?_ hrun, hs'⟩
      rw [act, hnext]
      rfl
    | forget id =>
      obtain ⟨g', hrun, hs'⟩ := ih ⟨hs.valid.of_erase (markers_forget g id), hs.tuning⟩
      exact ⟨g', bind_eq_ok_of rfl hrun, hs'⟩

/-- For every tuning, all lawful draws and every initial size: however picks and removals from
outside follow each other, a fleet that goes through them has picked what its rolls ask for and is
within its bounds. With a legal tuning the fleet can be made and goes through any turns, and it
picks another operation after them. -/
theorem size_is_bounded (tuning : MotionTuning Float) (initial : Nat) (source : ρ) :
    (∀ g₀, create initial tuning source = .ok g₀ → ∀ turns g, run turns g₀ = .ok g →
      Census initial g) ∧
    (tuning.Legal → ∃ g₀, create initial tuning source = .ok g₀ ∧
      ∀ turns, ∃ g, run turns g₀ = .ok g ∧ Census initial g ∧
        ∃ op g', g.nextOp = .ok (op, g')) := by
  constructor
  · exact fun g₀ hmade turns g hrun => census_of_run hmade hrun
  · intro ht
    obtain ⟨g₀, hmade, hsound⟩ := exists_create ht initial source
    refine ⟨g₀, hmade, fun turns => ?_⟩
    obtain ⟨g, hrun, hg⟩ := hsound.exists_run turns
    exact ⟨g, hrun, census_of_run hmade hrun, hg.exists_nextOp⟩

/-- A fleet of 130 in the standard tuning, which is above the cap at first. -/
theorem size_is_bounded_of_standard : MotionTuning.standard.Legal ∧
    ∃ g₀, create 130 .standard (ChaChaStream.ofSeed 7) = .ok g₀ ∧
      ∀ turns, ∃ g, run turns g₀ = .ok g ∧ Census 130 g ∧ ∃ op g', g.nextOp = .ok (op, g') :=
  ⟨MotionTuning.legal_standard,
    (size_is_bounded .standard 130 (ChaChaStream.ofSeed 7)).2 MotionTuning.legal_standard⟩

/-- The standard tuning for markers that stand still, with factors of a step up to the greatest
double. -/
def wideJitter : MotionTuning Float :=
  { MotionTuning.standard with
    stepJitter := ⟨0, Float.ofBits 0x7FEFFFFFFFFFFFFF⟩
    speedRange := ⟨0, 0⟩ }

/-- All ranges of this tuning are finite and not empty. A fleet of one is made with it, and its
first pick fails: it is a move, and the factors are too far apart to be drawn from. -/
theorem wide_range_ends_a_run :
    (∀ r ∈ wideJitter.ranges, r.lo.isFinite = true ∧ r.hi.isFinite = true ∧ r.lo ≤ r.hi) ∧
    ∃ g, create 1 wideJitter (ChaChaStream.ofSeed 7) = .ok g ∧
      g.nextOp = .error .unboundedRange := by
  have hfails : ((create 1 wideJitter (ChaChaStream.ofSeed 7)).toOption.map fun g =>
      match g.nextOp with
      | .ok _ => none
      | .error fault => some fault) = some (some .unboundedRange) := by decide +kernel
  obtain ⟨g, hmade, hfault⟩ := exists_of_map_toOption_eq_some hfails
  refine ⟨by decide, g, hmade, ?_⟩
  cases hnext : g.nextOp with
  | ok picked =>
    rw [hnext] at hfault
    cases hfault
  | error fault =>
    rw [hnext] at hfault
    exact congrArg Except.error (Option.some.inj hfault)

end LiveMap.Generator
