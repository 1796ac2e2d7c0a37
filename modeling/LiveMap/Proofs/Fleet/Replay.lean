import LiveMap.Proofs.Fleet.Size
import LiveMap.Proofs.Hub.OpLog

/-!
# The operations of a fleet are its history

What a fleet shows is the chart of its snapshot. Each operation that a fleet picks is about what the
fleet shows before it, and the chart after it is what the operation makes of the chart before
(`Valid.chart_nextOp`). So the operations of any number of picks, replayed over the snapshot that
was taken before them, give the snapshot that is taken after them (`Valid.replays_picks`). It does
not matter whether a new marker draws an id that is in use: the addition replaces the marker in the
fleet, and in every chart.
-/

namespace LiveMap.Generator

variable {ρ : Type} {g g' : Generator ρ}

/-- What the fleet shows under each id. -/
def chart (g : Generator ρ) : Chart := fun id => (g.find? id).map Marker.pin

/-- The markers of the snapshot have distinct ids. -/
theorem Valid.nodup_snapshot (hv : g.Valid) : (g.snapshot.map Marker.id).Nodup :=
  Chart.nodup_ids_of_filed hv.ascending.nodup_keys hv.filed

/-- A client that adds the markers of the snapshot shows what the fleet shows. -/
theorem Valid.ofMarkers_snapshot (hv : g.Valid) : Chart.ofMarkers g.snapshot = g.chart :=
  Chart.ofMarkers_of_filed hv.ascending.nodup_keys hv.filed

/-- A marker that is put in place is shown, and the others as before. -/
theorem chart_of_insert {m : Marker Float} (h : g'.markers = Keyed.insert m.id m g.markers) :
    g'.chart = Function.update g.chart m.id (some m.pin) := by
  rw [Function.eq_update_iff]
  constructor
  · rw [chart, find?_of_insert h, Option.map_some]
  · intro id hid
    rw [chart, find?_of_insert_of_ne h hid, chart]

/-- A marker that is taken out is not shown any more, and the others as before. -/
theorem Valid.chart_of_erase {id : String} (hv : g.Valid)
    (h : g'.markers = Keyed.erase id g.markers) :
    g'.chart = Function.update g.chart id none := by
  rw [Function.eq_update_iff]
  constructor
  · rw [chart, hv.find?_of_erase h, Option.map_none]
  · intro j hj
    rw [chart, find?_of_erase_of_ne h hj, chart]

variable [FleetDraws ρ]

/-- The operation that a fleet picks is about what the fleet shows, and makes of it what the fleet
shows then. -/
theorem Valid.chart_nextOp {op : MarkerOp} (hv : g.Valid) (h : g.nextOp = .ok (op, g')) :
    g.chart.Fits op ∧ g'.chart = g.chart.apply op := by
  obtain ⟨m, rfl, -, hmarkers⟩ | ⟨m, moved, hfound, rfl, hid, hname, -, hmarkers⟩ |
    ⟨m, hfound, rfl, hmarkers⟩ := hv.nextOp_cases h
  · exact ⟨trivial, chart_of_insert hmarkers⟩
  · -- The marker has moved under its id and its name.
    have hshown : g.chart moved.id = some m.pin := by rw [hid, chart, hfound, Option.map_some]
    have hpin : moved.pin = { m.pin with position := moved.position } := by
      rw [Marker.pin, Marker.pin, hname]
    refine ⟨⟨m.pin, hshown, hname.symm⟩, ?_⟩
    rw [chart_of_insert hmarkers, MarkerOp.updated, Chart.apply, hshown, Option.map_some, hpin]
  · have hshown : g.chart m.id = some m.pin := by rw [chart, hfound, Option.map_some]
    refine ⟨?_, hv.chart_of_erase hmarkers⟩
    show g.chart m.id ≠ none
    rw [hshown]
    exact Option.some_ne_none _

/-- The operations of some picks in turn, and the fleet after them. -/
def picks : Nat → Generator ρ → Except Fault (List MarkerOp × Generator ρ)
  | 0, g => .ok ([], g)
  | n + 1, g => do
    let (op, g) ← g.nextOp
    let (ops, g) ← picks n g
    return (op :: ops, g)

/-- A pick, then some more. -/
theorem picks_succ_cases {n : Nat} {ops : List MarkerOp} (h : g.picks (n + 1) = .ok (ops, g')) :
    ∃ op next rest, g.nextOp = .ok (op, next) ∧ next.picks n = .ok (rest, g') ∧
      ops = op :: rest := by
  obtain ⟨⟨op, next⟩, hop, h⟩ := exists_of_bind_eq_ok h
  obtain ⟨⟨rest, last⟩, hrest, h⟩ := exists_of_bind_eq_ok h
  cases h
  exact ⟨op, next, rest, hop, hrest, rfl⟩

/-- Picks after picks are picks. -/
theorem picks_add {m n : Nat} {next : Generator ρ} {first second : List MarkerOp}
    (h₁ : g.picks m = .ok (first, next)) (h₂ : next.picks n = .ok (second, g')) :
    g.picks (m + n) = .ok (first ++ second, g') := by
  induction m generalizing g first with
  | zero =>
    cases h₁
    rw [Nat.zero_add]
    exact h₂
  | succ m ih =>
    obtain ⟨op, mid, rest, hop, hrest, rfl⟩ := picks_succ_cases h₁
    rw [Nat.succ_add]
    exact bind_eq_ok_of hop (bind_eq_ok_of (ih hrest) rfl)

/-- A sound fleet picks as often as it is asked to, and stays sound. -/
theorem Sound.exists_picks [LawfulDraws ρ] (hs : g.Sound) (n : Nat) :
    ∃ ops g', g.picks n = .ok (ops, g') ∧ g'.Sound := by
  induction n generalizing g with
  | zero => exact ⟨[], g, rfl, hs⟩
  | succ n ih =>
    obtain ⟨op, next, hnext⟩ := hs.exists_nextOp
    obtain ⟨rest, g', hrest, hs'⟩ := ih (hs.nextOp hnext)
    exact ⟨op :: rest, g', bind_eq_ok_of hnext (bind_eq_ok_of hrest rfl), hs'⟩

/-- What some operations say of the fleet before them and the fleet after them. -/
structure Replays (n : Nat) (ops : List MarkerOp) (g g' : Generator ρ) : Prop where
  /-- The snapshot lists an id once. -/
  distinct : (g'.snapshot.map Marker.id).Nodup
  /-- There is one operation for each pick. -/
  length : ops.length = n
  /-- Each move and each removal is about a marker that is shown when its turn comes, and a move
  carries the name that is shown. -/
  coherent : (Chart.ofMarkers g.snapshot).Coherent ops
  /-- Replayed over the snapshot before, they give the snapshot after. -/
  snapshot : Chart.ofMarkers g'.snapshot = (Chart.ofMarkers g.snapshot).replay ops

/-- The operations that a valid fleet picks turn its snapshot into the one after them. -/
theorem Valid.replays_picks {n : Nat} {ops : List MarkerOp} (hv : g.Valid)
    (h : g.picks n = .ok (ops, g')) : g'.Valid ∧ Replays n ops g g' := by
  induction n generalizing g ops with
  | zero =>
    cases h
    exact ⟨hv, hv.nodup_snapshot, rfl, trivial, rfl⟩
  | succ n ih =>
    obtain ⟨op, next, rest, hop, hrest, rfl⟩ := picks_succ_cases h
    obtain ⟨hfits, hchart⟩ := hv.chart_nextOp hop
    have hnext : Chart.ofMarkers next.snapshot = (Chart.ofMarkers g.snapshot).apply op := by
      rw [(hv.nextOp hop).ofMarkers_snapshot, hchart, hv.ofMarkers_snapshot]
    obtain ⟨hv', hdistinct, hlength, hcoherent, hsnapshot⟩ := ih (hv.nextOp hop) hrest
    refine ⟨hv', hdistinct, by rw [List.length_cons, hlength], ⟨?_, ?_⟩, ?_⟩
    · rw [hv.ofMarkers_snapshot]
      exact hfits
    · rw [← hnext]
      exact hcoherent
    · rw [hsnapshot, hnext, Chart.replay_cons]

end LiveMap.Generator
