import LiveMap.Fleet.Generator
import LiveMap.Proofs.Failable

/-!
# What a fleet can do next

Every operation comes from an addition, a move or a removal that found something to do
(`nextOp_calls`), and what each of the three changes in the fleet is said once (`spawn_frame`,
`moveRandom_cases`, `deleteRandom_cases`). A fleet is valid if its ids ascend, each marker is filed
under its own id, and every marker has motion. In a valid fleet a new marker appears, a marker of
the fleet moves, or one leaves (`Valid.nextOp_cases`). Every fleet that can be made is valid
(`Reachable.valid`), whatever the draws are, even if two markers draw the same id.
-/

namespace LiveMap.Generator

variable {ρ : Type}

/-- The marker of the fleet under an id. -/
def find? (g : Generator ρ) (id : String) : Option (Marker Float) := Keyed.find? id g.markers

/-- Ascending ids, each marker under its own, all of them in motion. -/
structure Valid (g : Generator ρ) : Prop where
  /-- The ids ascend, so each stands once. -/
  ascending : Keyed.Ascending g.markers
  /-- A marker is filed under its own id. -/
  filed : ∀ id m, g.find? id = some m → m.id = id
  /-- Every marker has motion. -/
  moving : ∀ id m, g.find? id = some m → m.isMoving = true

/-- A fleet that can be made: a new one, or one that has picked operations and forgotten markers
since. -/
inductive Reachable [FleetDraws ρ] : Generator ρ → Prop where
  /-- A new fleet. -/
  | create {initial : Nat} {tuning : MotionTuning Float} {source : ρ} {g : Generator ρ}
      (made : create initial tuning source = .ok g) : Reachable g
  /-- A fleet that has picked an operation. -/
  | nextOp {g g' : Generator ρ} {op : MarkerOp} (before : Reachable g)
      (picked : g.nextOp = .ok (op, g')) : Reachable g'
  /-- A fleet that was told to forget a marker. -/
  | forget {g : Generator ρ} (before : Reachable g) (id : String) : Reachable (g.forget id).2

/-! ## Changes of the fleet -/

/-- A fleet of which a marker was put in place finds this marker under its id. -/
theorem find?_of_insert {g g' : Generator ρ} {m : Marker Float}
    (h : g'.markers = Keyed.insert m.id m g.markers) : g'.find? m.id = some m := by
  rw [find?, h, Keyed.find?_insert_self]

/-- Putting a marker in place leaves the others alone. -/
theorem find?_of_insert_of_ne {g g' : Generator ρ} {m : Marker Float} {id : String}
    (h : g'.markers = Keyed.insert m.id m g.markers) (hid : id ≠ m.id) :
    g'.find? id = g.find? id := by
  rw [find?, h, Keyed.find?_insert_of_ne hid, find?]

/-- Taking a marker out leaves the others alone. -/
theorem find?_of_erase_of_ne {g g' : Generator ρ} {id j : String}
    (h : g'.markers = Keyed.erase id g.markers) (hj : j ≠ id) : g'.find? j = g.find? j := by
  rw [find?, h, Keyed.find?_erase_of_ne hj, find?]

/-- A marker that was taken out of a valid fleet is gone. -/
theorem Valid.find?_of_erase {g g' : Generator ρ} {id : String} (hv : g.Valid)
    (h : g'.markers = Keyed.erase id g.markers) : g'.find? id = none := by
  rw [find?, h, Keyed.find?_erase_self hv.ascending.nodup_keys]

/-- A fleet without markers is valid. -/
theorem valid_of_nil {g : Generator ρ} (h : g.markers = []) : g.Valid where
  ascending := by
    rw [h]
    exact List.Pairwise.nil
  filed id m hm := by
    rw [find?, h] at hm
    cases hm
  moving id m hm := by
    rw [find?, h] at hm
    cases hm

/-- What is left of the source does not matter. -/
theorem Valid.of_source {g : Generator ρ} (hv : g.Valid) (source : ρ) :
    ({ g with source } : Generator ρ).Valid := ⟨hv.ascending, hv.filed, hv.moving⟩

/-- Putting a marker with motion in place keeps a fleet valid. -/
theorem Valid.of_insert {g g' : Generator ρ} {m : Marker Float} (hv : g.Valid)
    (hm : m.isMoving = true) (h : g'.markers = Keyed.insert m.id m g.markers) : g'.Valid where
  ascending := by
    rw [h]
    exact hv.ascending.insert
  filed id found hfound := by
    by_cases hid : id = m.id
    · rw [hid, find?_of_insert h] at hfound
      cases hfound
      exact hid.symm
    · rw [find?_of_insert_of_ne h hid] at hfound
      exact hv.filed id found hfound
  moving id found hfound := by
    by_cases hid : id = m.id
    · rw [hid, find?_of_insert h] at hfound
      cases hfound
      exact hm
    · rw [find?_of_insert_of_ne h hid] at hfound
      exact hv.moving id found hfound

/-- Who is found after a marker was taken out of a valid fleet was found before. -/
theorem Valid.find?_of_find?_erased {g g' : Generator ρ} {id j : String} {m : Marker Float}
    (hv : g.Valid) (h : g'.markers = Keyed.erase id g.markers) (hm : g'.find? j = some m) :
    g.find? j = some m := by
  by_cases hj : j = id
  · rw [hj, hv.find?_of_erase h] at hm
    cases hm
  · rwa [find?_of_erase_of_ne h hj] at hm

/-- Taking a marker out keeps a fleet valid. -/
theorem Valid.of_erase {g g' : Generator ρ} {id : String} (hv : g.Valid)
    (h : g'.markers = Keyed.erase id g.markers) : g'.Valid where
  ascending := by
    rw [h]
    exact hv.ascending.erase
  filed j m hm := hv.filed j m (hv.find?_of_find?_erased h hm)
  moving j m hm := hv.moving j m (hv.find?_of_find?_erased h hm)

/-- The listed markers of a valid fleet are found under their ids. -/
theorem Valid.find?_of_mem_snapshot {g : Generator ρ} (hv : g.Valid) {m : Marker Float}
    (h : m ∈ g.snapshot) : g.find? m.id = some m := by
  obtain ⟨⟨id, found⟩, hmem, rfl⟩ := List.mem_map.1 h
  have hfound : g.find? id = some found := Keyed.find?_eq_some_of_mem hv.ascending.nodup_keys hmem
  rw [hv.filed id found hfound]
  exact hfound

/-- A marker that is found is listed. -/
theorem mem_snapshot_of_find? {g : Generator ρ} {id : String} {m : Marker Float}
    (h : g.find? id = some m) : m ∈ g.snapshot :=
  List.mem_map.2 ⟨(id, m), Keyed.mem_of_find?_eq_some h, rfl⟩

/-- Forgetting a marker takes it out of the fleet. -/
theorem markers_forget (g : Generator ρ) (id : String) :
    (g.forget id).2.markers = Keyed.erase id g.markers := rfl

section

variable [FleetDraws ρ] {g g' : Generator ρ}

/-- All that an addition changes. The new marker has motion and the name that the search finds for
the next number; it is put in place under whatever id is drawn for it. -/
theorem spawn_frame {m : Marker Float} (h : g.spawn = .ok (m, g')) :
    m.isMoving = true ∧
      m.name = ({ g with counter := g.counter + 1 } : Generator ρ).unusedName ∧
      ∃ source, g' = { g with
        markers := Keyed.insert m.id m g.markers
        usedNames := g.usedNames.insert m.name
        counter := g.counter + 1
        source } := by
  unfold spawn at h
  dsimp only at h
  obtain ⟨lat, -, h⟩ := exists_of_bind_eq_ok h
  obtain ⟨lng, -, h⟩ := exists_of_bind_eq_ok h
  obtain ⟨speed, -, h⟩ := exists_of_bind_eq_ok h
  cases h
  exact ⟨rfl, rfl, speed.2, rfl⟩

/-- A new marker has motion, and is put in place under whatever id is drawn for it. -/
theorem spawn_cases {m : Marker Float} (h : g.spawn = .ok (m, g')) :
    m.isMoving = true ∧ g'.markers = Keyed.insert m.id m g.markers := by
  obtain ⟨hmoving, -, source, rfl⟩ := spawn_frame h
  exact ⟨hmoving, rfl⟩

/-- Only markers of the fleet are picked. Picking uses up randomness and changes nothing else. -/
theorem pick_cases {picked : Option (Marker Float)} (h : g.pick = .ok (picked, g')) :
    (∃ source, g' = { g with source }) ∧ ∀ m, picked = some m → m ∈ g.snapshot := by
  unfold pick at h
  split at h
  · cases h
    exact ⟨⟨g.source, rfl⟩, fun _ hm => by cases hm⟩
  · obtain ⟨⟨index, source⟩, -, h⟩ := exists_of_bind_eq_ok h
    cases h
    refine ⟨⟨source, rfl⟩, fun m hm => ?_⟩
    obtain ⟨entry, hentry, rfl⟩ := Option.map_eq_some_iff.1 hm
    exact List.mem_map_of_mem (List.mem_of_getElem? hentry)

/-- A marker of a valid fleet that is picked is found under its id. -/
theorem Valid.find?_of_pick {m : Marker Float} (hv : g.Valid) (h : g.pick = .ok (some m, g')) :
    g.find? m.id = some m := hv.find?_of_mem_snapshot ((pick_cases h).2 m rfl)

/-- A marker that moves keeps its id, its name and the fact that it has motion. -/
theorem advance_cases {m moved : Marker Float} {tuning : MotionTuning Float} {source source' : ρ}
    (h : m.advance tuning source = .ok (some moved, source')) :
    moved.id = m.id ∧ moved.name = m.name ∧ moved.isMoving = true := by
  unfold Marker.advance at h
  split at h
  · cases h
  · obtain ⟨⟨jolt, drawn⟩, -, h⟩ := exists_of_bind_eq_ok h
    obtain ⟨stepped, hstep, h⟩ := exists_of_bind_eq_ok h
    cases h
    obtain ⟨lat, -, hstep⟩ := exists_of_bind_eq_ok hstep
    obtain ⟨lng, -, hstep⟩ := exists_of_bind_eq_ok hstep
    cases hstep
    exact ⟨rfl, rfl, rfl⟩

/-- An addition: a new marker with motion is put in place. -/
theorem addRandom_cases {op : MarkerOp} (h : g.addRandom = .ok (op, g')) :
    ∃ m : Marker Float, op = .added m ∧ m.isMoving = true ∧
      g'.markers = Keyed.insert m.id m g.markers := by
  obtain ⟨⟨m, spawned⟩, hm, h⟩ := exists_of_bind_eq_ok h
  cases h
  obtain ⟨hmoving, hmarkers⟩ := spawn_cases hm
  exact ⟨m, rfl, hmoving, hmarkers⟩

/-- A move: there is nothing to move, or a marker of the fleet is put in place again, under its id
and its name. Apart from that only randomness is used up. -/
theorem moveRandom_cases {op? : Option MarkerOp} (h : g.moveRandom = .ok (op?, g')) :
    (op? = none ∧ ∃ source, g' = { g with source }) ∨
    ∃ m ∈ g.snapshot, ∃ moved source, op? = some (.updated moved) ∧ moved.id = m.id ∧
      moved.name = m.name ∧ moved.isMoving = true ∧
      g' = { g with markers := Keyed.insert moved.id moved g.markers, source } := by
  obtain ⟨⟨picked, g₁⟩, hpick, h⟩ := exists_of_bind_eq_ok h
  obtain ⟨⟨source, rfl⟩, hlisted⟩ := pick_cases hpick
  cases picked with
  | none =>
    cases h
    exact Or.inl ⟨rfl, source, rfl⟩
  | some m =>
    obtain ⟨⟨moved?, source'⟩, hadvance, h⟩ := exists_of_bind_eq_ok h
    cases moved? with
    | none =>
      cases h
      exact Or.inl ⟨rfl, source', rfl⟩
    | some moved =>
      cases h
      obtain ⟨hid, hname, hmoving⟩ := advance_cases hadvance
      refine Or.inr ⟨m, hlisted m rfl, moved, source', rfl, hid, hname, hmoving, ?_⟩
      rw [hid]

/-- A removal: there is nothing to remove, or a marker of the fleet leaves. Apart from that only
randomness is used up. -/
theorem deleteRandom_cases {op? : Option MarkerOp} (h : g.deleteRandom = .ok (op?, g')) :
    (op? = none ∧ ∃ source, g' = { g with source }) ∨
    ∃ m ∈ g.snapshot, ∃ source, op? = some (.delete m.id) ∧
      g' = { g with markers := Keyed.erase m.id g.markers, source } := by
  obtain ⟨⟨picked, g₁⟩, hpick, h⟩ := exists_of_bind_eq_ok h
  obtain ⟨⟨source, rfl⟩, hlisted⟩ := pick_cases hpick
  cases picked with
  | none =>
    cases h
    exact Or.inl ⟨rfl, source, rfl⟩
  | some m =>
    cases h
    exact Or.inr ⟨m, hlisted m rfl, source, rfl, rfl⟩

/-- In a valid fleet a marker that moves is found under its id. -/
theorem Valid.moveRandom_cases {op? : Option MarkerOp} (hv : g.Valid)
    (h : g.moveRandom = .ok (op?, g')) :
    (op? = none ∧ g'.markers = g.markers) ∨
    ∃ m moved : Marker Float, g.find? m.id = some m ∧ op? = some (.updated moved) ∧
      moved.id = m.id ∧ moved.name = m.name ∧ moved.isMoving = true ∧
      g'.markers = Keyed.insert moved.id moved g.markers := by
  obtain ⟨hnone, source, rfl⟩ | ⟨m, hm, moved, source, hop, hid, hname, hmoving, rfl⟩ :=
    Generator.moveRandom_cases h
  · exact Or.inl ⟨hnone, rfl⟩
  · exact Or.inr ⟨m, moved, hv.find?_of_mem_snapshot hm, hop, hid, hname, hmoving, rfl⟩

/-- In a valid fleet a marker that leaves was found under its id. -/
theorem Valid.deleteRandom_cases {op? : Option MarkerOp} (hv : g.Valid)
    (h : g.deleteRandom = .ok (op?, g')) :
    (op? = none ∧ g'.markers = g.markers) ∨
    ∃ m : Marker Float, g.find? m.id = some m ∧ op? = some (.delete m.id) ∧
      g'.markers = Keyed.erase m.id g.markers := by
  obtain ⟨hnone, source, rfl⟩ | ⟨m, hm, source, hop, rfl⟩ := Generator.deleteRandom_cases h
  · exact Or.inl ⟨hnone, rfl⟩
  · exact Or.inr ⟨m, hv.find?_of_mem_snapshot hm, hop, rfl⟩

/-- Every operation is the result of one of the three ways to change the fleet, which begins where
the fleet stands but for the randomness used up before. -/
theorem nextOp_calls {op : MarkerOp} (h : g.nextOp = .ok (op, g')) : ∃ source,
    ({ g with source } : Generator ρ).addRandom = .ok (op, g') ∨
    ({ g with source } : Generator ρ).moveRandom = .ok (some op, g') ∨
    ({ g with source } : Generator ρ).deleteRandom = .ok (some op, g') := by
  obtain ⟨⟨roll, source⟩, -, h⟩ := exists_of_bind_eq_ok h
  dsimp only at h
  split at h
  · obtain ⟨⟨op?, g₁⟩, hmove, h⟩ := exists_of_bind_eq_ok h
    cases op? with
    | none =>
      -- An addition stands in for a move that found nothing.
      obtain ⟨-, source', rfl⟩ | ⟨m, -, moved, source', hop, -⟩ := moveRandom_cases hmove
      · exact ⟨source', Or.inl h⟩
      · cases hop
    | some moved =>
      cases h
      exact ⟨source, Or.inr (Or.inl hmove)⟩
  split at h
  · exact ⟨source, Or.inl h⟩
  · obtain ⟨⟨op?, g₁⟩, hremove, h⟩ := exists_of_bind_eq_ok h
    cases op? with
    | none =>
      obtain ⟨-, source', rfl⟩ | ⟨m, -, source', hop, -⟩ := deleteRandom_cases hremove
      · exact ⟨source', Or.inl h⟩
      · cases hop
    | some removed =>
      cases h
      exact ⟨source, Or.inr (Or.inr hremove)⟩

/-- All that a valid fleet does when it picks an operation. A new marker with motion appears; or a
marker of the fleet moves, and keeps its id and its name; or a marker of the fleet leaves. -/
theorem Valid.nextOp_cases {op : MarkerOp} (hv : g.Valid) (h : g.nextOp = .ok (op, g')) :
    (∃ m : Marker Float, op = .added m ∧ m.isMoving = true ∧
      g'.markers = Keyed.insert m.id m g.markers) ∨
    (∃ m moved : Marker Float, g.find? m.id = some m ∧ op = .updated moved ∧ moved.id = m.id ∧
      moved.name = m.name ∧ moved.isMoving = true ∧
      g'.markers = Keyed.insert moved.id moved g.markers) ∨
    (∃ m : Marker Float, g.find? m.id = some m ∧ op = .delete m.id ∧
      g'.markers = Keyed.erase m.id g.markers) := by
  obtain ⟨source, hadd | hmove | hremove⟩ := nextOp_calls h
  · have hadded := addRandom_cases hadd
    exact Or.inl hadded
  · obtain ⟨hnone, -⟩ | ⟨m, moved, hfound, hop, hrest⟩ :=
      (hv.of_source source).moveRandom_cases hmove
    · cases hnone
    · cases hop
      exact Or.inr (Or.inl ⟨m, moved, hfound, rfl, hrest⟩)
  · obtain ⟨hnone, -⟩ | ⟨m, hfound, hop, hmarkers⟩ :=
      (hv.of_source source).deleteRandom_cases hremove
    · cases hnone
    · cases hop
      exact Or.inr (Or.inr ⟨m, hfound, rfl, hmarkers⟩)

/-- Picking an operation keeps a fleet valid. -/
theorem Valid.nextOp {op : MarkerOp} (hv : g.Valid) (h : g.nextOp = .ok (op, g')) : g'.Valid := by
  obtain ⟨m, -, hmoving, hg⟩ | ⟨m, moved, -, -, -, -, hmoving, hg⟩ | ⟨m, -, -, hg⟩ :=
    hv.nextOp_cases h
  · exact hv.of_insert hmoving hg
  · exact hv.of_insert hmoving hg
  · exact hv.of_erase hg

/-- A new fleet is valid, whatever ids are drawn. -/
theorem valid_create {initial : Nat} {tuning : MotionTuning Float} {source : ρ}
    (h : create initial tuning source = .ok g) : g.Valid := by
  have hspawned : ∀ (n : Nat) {first last : Generator ρ}, first.Valid →
      spawnMany n first = .ok last → last.Valid := by
    intro n
    induction n with
    | zero =>
      intro first last hv h
      cases h
      exact hv
    | succ n ih =>
      intro first last hv h
      obtain ⟨⟨m, next⟩, hm, h⟩ := exists_of_bind_eq_ok h
      obtain ⟨hmoving, hmarkers⟩ := spawn_cases hm
      exact ih (hv.of_insert hmoving hmarkers) h
  exact hspawned initial (valid_of_nil rfl) h

/-- Every fleet that can be made is valid. -/
theorem Reachable.valid (h : Reachable g) : g.Valid := by
  induction h with
  | create made => exact valid_create made
  | nextOp _ picked ih => exact ih.nextOp picked
  | forget _ id ih => exact ih.of_erase (markers_forget _ id)

end

end LiveMap.Generator
