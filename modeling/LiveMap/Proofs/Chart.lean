import LiveMap.Session
import Mathlib.Logic.Function.Basic
import Mathlib.Data.List.Induction
import Mathlib.Data.List.Nodup

/-!
# Charts: what a client shows

A chart gives the name and the position that a client shows under each id. Operations and view
deltas change a chart in the same way: an addition inserts or replaces, a move changes the position
of a known id and is ignored for an unknown one, a removal takes away.

Under one id, some operations in turn either decide what is shown there, whatever was shown before,
or only move what was shown (`replay_cases`). So a replay changes nothing when it is repeated
(`replay_replay`): a client may apply once more what its first look already contained.

What is shown at the end of a history is what was added last, if it was not removed since, at the
place where it was moved last (`replay_empty_eq_some_iff`).
-/

namespace LiveMap

/-- What a client shows of a marker. -/
structure Pin where
  /-- The label. -/
  name : String
  /-- The place. -/
  position : LatLng Float

/-- What a client shows of this marker. -/
def Marker.pin (m : Marker Float) : Pin := ⟨m.name, m.position⟩

/-- Where an operation moves the marker of an id, if it does. -/
def MarkerOp.move? (id : String) : MarkerOp → Option (LatLng Float)
  | update id' _ position => if id' = id then some position else none
  | add .. | delete _ => none

/-- What is shown under each id. -/
abbrev Chart : Type := String → Option Pin

namespace Chart

/-- The chart that shows nothing. -/
def empty : Chart := fun _ => none

/-- The chart after an operation. -/
def apply (c : Chart) : MarkerOp → Chart
  | .add id name position => Function.update c id (some ⟨name, position⟩)
  | .update id _ position => Function.update c id ((c id).map ({ · with position }))
  | .delete id => Function.update c id none

/-- The chart after some operations in turn. -/
def replay (c : Chart) (ops : List MarkerOp) : Chart := ops.foldl apply c

/-- The chart after a client has carried out a delta. A command changes no marker. -/
def draw (c : Chart) : ViewDelta → Chart
  | .addMarker id name position => Function.update c id (some ⟨name, position⟩)
  | .moveMarker id position => Function.update c id ((c id).map ({ · with position }))
  | .removeMarker id => Function.update c id none
  | .command _ => c

/-- The chart after a client has carried out some deltas in turn. -/
def drawAll (c : Chart) (deltas : List ViewDelta) : Chart := deltas.foldl draw c

/-- The chart of a client that adds the markers of a list one by one. -/
def ofMarkers (markers : List (Marker Float)) : Chart := empty.replay (markers.map .added)

@[simp] theorem replay_nil (c : Chart) : c.replay [] = c := rfl

@[simp] theorem replay_cons (c : Chart) (op : MarkerOp) (ops : List MarkerOp) :
    c.replay (op :: ops) = (c.apply op).replay ops := rfl

theorem replay_append (c : Chart) (first second : List MarkerOp) :
    c.replay (first ++ second) = (c.replay first).replay second := List.foldl_append

@[simp] theorem drawAll_nil (c : Chart) : c.drawAll [] = c := rfl

@[simp] theorem drawAll_cons (c : Chart) (d : ViewDelta) (deltas : List ViewDelta) :
    c.drawAll (d :: deltas) = (c.draw d).drawAll deltas := rfl

theorem drawAll_append (c : Chart) (first second : List ViewDelta) :
    c.drawAll (first ++ second) = (c.drawAll first).drawAll second := List.foldl_append

/-- The delta of an operation does what the operation does. -/
theorem draw_ofOp (c : Chart) (op : MarkerOp) : c.draw (.ofOp op) = c.apply op := by
  cases op <;> rfl

/-- The deltas of some operations do what the operations do. -/
theorem drawAll_map_ofOp (c : Chart) (ops : List MarkerOp) :
    c.drawAll (ops.map .ofOp) = c.replay ops := by
  induction ops generalizing c with
  | nil => rfl
  | cons op ops ih => rw [List.map_cons, drawAll_cons, draw_ofOp, ih, replay_cons]

/-- Commands change no marker. -/
theorem drawAll_map_command (c : Chart) (commands : List MapCommand) :
    c.drawAll (commands.map .command) = c := by
  induction commands with
  | nil => rfl
  | cons command commands ih => exact ih

/-- An operation changes what is shown under its own id only. -/
theorem apply_of_ne (c : Chart) {op : MarkerOp} {id : String} (h : id ≠ op.id) :
    c.apply op id = c id := by
  cases op <;> exact Function.update_of_ne h _ _

/-- Some operations none of which is about an id leave it as it was. -/
theorem replay_of_forall_ne (c : Chart) {ops : List MarkerOp} {id : String}
    (h : ∀ op ∈ ops, id ≠ op.id) : c.replay ops id = c id := by
  induction ops generalizing c with
  | nil => rfl
  | cons op ops ih =>
    rw [replay_cons, ih _ fun op' hop => h op' (List.mem_cons_of_mem _ hop),
      apply_of_ne c (h op List.mem_cons_self)]

/-- Under one id, some operations either decide what is shown, or only move what was shown. -/
theorem replay_cases (ops : List MarkerOp) (id : String) :
    (∃ shown, ∀ c : Chart, c.replay ops id = shown) ∨
    (∃ moved : Option (LatLng Float), ∀ c : Chart,
      c.replay ops id = (c id).map fun pin => { pin with position := moved.getD pin.position }) := by
  induction ops with
  | nil =>
    refine Or.inr ⟨none, fun c => ?_⟩
    exact Option.map_id'.symm
  | cons op ops ih =>
    rcases ih with ⟨shown, h⟩ | ⟨moved, h⟩
    · -- What comes later decides already.
      exact Or.inl ⟨shown, fun c => h (c.apply op)⟩
    · -- What comes later only moves, so the first operation has its say.
      by_cases hid : id = op.id
      · cases op with
        | add i name position =>
          have hi : id = i := hid
          subst hi
          refine Or.inl ⟨some ⟨name, moved.getD position⟩, fun c => ?_⟩
          rw [replay_cons, h, apply, Function.update_self, Option.map_some]
        | delete i =>
          have hi : id = i := hid
          subst hi
          refine Or.inl ⟨none, fun c => ?_⟩
          rw [replay_cons, h, apply, Function.update_self, Option.map_none]
        | update i name position =>
          have hi : id = i := hid
          subst hi
          refine Or.inr ⟨some (moved.getD position), fun c => ?_⟩
          rw [replay_cons, h, apply, Function.update_self, Option.map_map]
          rfl
      · -- The first operation is about another id.
        refine Or.inr ⟨moved, fun c => ?_⟩
        rw [replay_cons, h, apply_of_ne c hid]

/-- A replay changes nothing when it is repeated. -/
theorem replay_replay (c : Chart) (ops : List MarkerOp) :
    (c.replay ops).replay ops = c.replay ops := by
  funext id
  rcases replay_cases ops id with ⟨shown, h⟩ | ⟨moved, h⟩
  · rw [h, h]
  · -- Moving to the same place twice is moving there once.
    rw [h, h, Option.map_map]
    cases moved <;> rfl

/-! ## Charts of lists of markers -/

/-- A client that adds some markers shows nothing under an id that none of them has. -/
theorem ofMarkers_eq_none {markers : List (Marker Float)} {id : String}
    (h : id ∉ markers.map Marker.id) : ofMarkers markers id = none := by
  rw [ofMarkers, replay_of_forall_ne]
  · rfl
  · intro op hop he
    obtain ⟨m, hm, rfl⟩ := List.mem_map.1 hop
    exact h (List.mem_map.2 ⟨m, hm, he.symm⟩)

/-- A client that adds some markers with distinct ids shows each of them. -/
theorem ofMarkers_of_mem {markers : List (Marker Float)} (hd : (markers.map Marker.id).Nodup)
    {m : Marker Float} (hm : m ∈ markers) : ofMarkers markers m.id = some m.pin := by
  obtain ⟨first, second, rfl⟩ := List.append_of_mem hm
  rw [List.map_append, List.map_cons, List.nodup_append] at hd
  -- The markers that are added later have other ids.
  have hlater : m.id ∉ second.map Marker.id := (List.nodup_cons.1 hd.2.1).1
  rw [ofMarkers, List.map_append, replay_append, List.map_cons, replay_cons, replay_of_forall_ne]
  · exact Function.update_self _ _ _
  · intro op hop he
    obtain ⟨m', hm', rfl⟩ := List.mem_map.1 hop
    exact hlater (List.mem_map.2 ⟨m', hm', he.symm⟩)

/-- The order in which markers with distinct ids are added does not matter. -/
theorem ofMarkers_perm {first second : List (Marker Float)} (hp : first.Perm second)
    (hd : (second.map Marker.id).Nodup) : ofMarkers first = ofMarkers second := by
  have hids := hp.map Marker.id
  funext id
  by_cases h : id ∈ second.map Marker.id
  · obtain ⟨m, hm, rfl⟩ := List.mem_map.1 h
    have hd' : (first.map Marker.id).Nodup := hids.nodup_iff.2 hd
    have hm' : m ∈ first := hp.mem_iff.2 hm
    rw [ofMarkers_of_mem hd hm, ofMarkers_of_mem hd' hm']
  · have h' : id ∉ first.map Marker.id := fun hf => h (hids.mem_iff.1 hf)
    rw [ofMarkers_eq_none h, ofMarkers_eq_none h']

/-! ## Charts of tables -/

section

variable {table : List (String × Marker Float)} (hd : (table.map Prod.fst).Nodup)
  (hfiled : ∀ id m, Keyed.find? id table = some m → m.id = id)

include hd hfiled

/-- If each marker is filed under its own id, the markers of a table have distinct ids. -/
theorem nodup_ids_of_filed : ((table.map Prod.snd).map Marker.id).Nodup := by
  have hids : (table.map Prod.snd).map Marker.id = table.map Prod.fst := by
    rw [List.map_map]
    refine List.map_congr_left fun e he => ?_
    exact hfiled e.1 e.2 (Keyed.find?_eq_some_of_mem hd he)
  rw [hids]
  exact hd

/-- A client that adds the markers of a table shows what is found in it. -/
theorem ofMarkers_of_filed :
    ofMarkers (table.map Prod.snd) = fun id => (Keyed.find? id table).map Marker.pin := by
  funext id
  cases hm : Keyed.find? id table with
  | none =>
    -- A marker with this id would be filed under it.
    refine ofMarkers_eq_none fun hmem => ?_
    obtain ⟨m, hlisted, rfl⟩ := List.mem_map.1 hmem
    obtain ⟨e, he, rfl⟩ := List.mem_map.1 hlisted
    have hfind := Keyed.find?_eq_some_of_mem hd he
    rw [hfiled e.1 e.2 hfind, hfind] at hm
    cases hm
  | some m =>
    have hid := hfiled id m hm
    subst hid
    exact ofMarkers_of_mem (nodup_ids_of_filed hd hfiled)
      (List.mem_map.2 ⟨(m.id, m), Keyed.mem_of_find?_eq_some hm, rfl⟩)

end

/-! ## Charts of histories -/

/-- The last addition of a marker is not followed by its removal. It gave the name, and the place is
where the marker was put last, then or later. -/
def LastAdded (history : List MarkerOp) (id : String) (pin : Pin) : Prop :=
  ∃ early placed late, history = early ++ .add id pin.name placed :: late ∧
    (∀ op ∈ late, op.id = id → op.kind = .update) ∧
    pin.position = (late.filterMap (MarkerOp.move? id)).getLastD placed

/-- An operation about another id does not move the marker of an id. -/
theorem move?_of_ne {op : MarkerOp} {id : String} (h : op.id ≠ id) : op.move? id = none := by
  cases op with
  | add i name position => rfl
  | update i name position => exact if_neg h
  | delete i => rfl

/-- Operations that only move a marker leave it under its name, at the last place. -/
theorem replay_of_moves {c : Chart} {id : String} {pin : Pin} (hc : c id = some pin)
    {ops : List MarkerOp} (h : ∀ op ∈ ops, op.id = id → op.kind = .update) :
    c.replay ops id =
      some ⟨pin.name, (ops.filterMap (MarkerOp.move? id)).getLastD pin.position⟩ := by
  induction ops generalizing c pin with
  | nil => exact hc
  | cons op rest ih =>
    have hrest : ∀ op' ∈ rest, op'.id = id → op'.kind = .update := fun op' hop =>
      h op' (List.mem_cons_of_mem _ hop)
    rw [replay_cons]
    by_cases hid : op.id = id
    · cases op with
      | add i name position => cases h _ List.mem_cons_self hid
      | delete i => cases h _ List.mem_cons_self hid
      | update i name position =>
        have hi : i = id := hid
        have hmoved : c.apply (.update i name position) id = some { pin with position } := by
          rw [apply, hi, Function.update_self, hc, Option.map_some]
        rw [ih hmoved hrest, List.filterMap_cons, MarkerOp.move?, if_pos hi]
        exact congrArg (fun p => some (Pin.mk _ p)) List.getLastD_cons.symm
    · have hsame : c.apply op id = some pin := by rw [apply_of_ne c (Ne.symm hid), hc]
      rw [ih hsame hrest, List.filterMap_cons, move?_of_ne hid]

/-- A marker that a history shows was added last by one of its operations. -/
theorem lastAdded_of_replay {history : List MarkerOp} {id : String} {pin : Pin}
    (h : empty.replay history id = some pin) : LastAdded history id pin := by
  induction history using List.reverseRecOn generalizing pin with
  | nil => cases h
  | append_singleton history op ih =>
    rw [replay_append, replay_cons, replay_nil] at h
    by_cases hid : op.id = id
    · cases op with
      | add i name position =>
        have hi : i = id := hid
        rw [apply, hi, Function.update_self] at h
        cases h
        exact ⟨history, position, [], by rw [hi], fun op hop => absurd hop List.not_mem_nil, rfl⟩
      | update i name position =>
        have hi : i = id := hid
        rw [apply, hi, Function.update_self] at h
        obtain ⟨old, hold, rfl⟩ := Option.map_eq_some_iff.1 h
        obtain ⟨early, placed, late, hsplit, hmoves, -⟩ := ih hold
        refine ⟨early, placed, late ++ [.update i name position], ?_, fun op hop hop' => ?_, ?_⟩
        · rw [hsplit, List.append_assoc, List.cons_append]
        · rcases List.mem_append.1 hop with hlate | hlast
          · exact hmoves op hlate hop'
          · rw [List.mem_singleton.1 hlast]
            rfl
        · -- This is the last place.
          have hmove : [MarkerOp.update i name position].filterMap (MarkerOp.move? id) =
              [position] := by rw [List.filterMap_cons, MarkerOp.move?, if_pos hi]; rfl
          rw [List.filterMap_append, hmove, List.getLastD_concat]
      | delete i =>
        have hi : i = id := hid
        rw [apply, hi, Function.update_self] at h
        cases h
    · rw [apply_of_ne _ (Ne.symm hid)] at h
      obtain ⟨early, placed, late, hsplit, hmoves, hplace⟩ := ih h
      refine ⟨early, placed, late ++ [op], ?_, fun op' hop hop' => ?_, ?_⟩
      · rw [hsplit, List.append_assoc, List.cons_append]
      · rcases List.mem_append.1 hop with hlate | hlast
        · exact hmoves op' hlate hop'
        · rw [List.mem_singleton.1 hlast] at hop'
          exact absurd hop' hid
      · have hmove : [op].filterMap (MarkerOp.move? id) = [] := by
          rw [List.filterMap_cons, move?_of_ne hid]
          rfl
        rw [List.filterMap_append, hmove, List.append_nil, hplace]

/-- A history shows what was added last and not removed since, where it was put last. -/
theorem replay_empty_eq_some_iff {history : List MarkerOp} {id : String} {pin : Pin} :
    empty.replay history id = some pin ↔ LastAdded history id pin := by
  refine ⟨lastAdded_of_replay, ?_⟩
  rintro ⟨early, placed, late, rfl, hmoves, hplace⟩
  have hadded : (empty.replay early).apply (.add id pin.name placed) id = some ⟨pin.name, placed⟩ :=
    Function.update_self _ _ _
  rw [replay_append, replay_cons, replay_of_moves hadded hmoves, ← hplace]

end Chart

end LiveMap
