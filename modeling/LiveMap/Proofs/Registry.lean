import LiveMap.Proofs.Chart

/-!
# What every mutation does to the registry

A registry is valid if its ids are distinct and each marker is filed under its own id. All that a
mutation can do is said once, in `commit_cases`; everything else follows from it. A mutation keeps
the registry valid and touches one id at most. It yields an operation exactly if there is something
for it to act on (`commit_fst`), and then the registry's chart changes as the operation says
(`chart_commit`).
-/

namespace LiveMap

/-- The id that a mutation is about. -/
def Mutation.id : Mutation → String
  | add m => m.id
  | update id _ | updateMoving id _ | delete id | deleteMoving id => id

/-- The operation that a mutation should yield: one that names the stored marker for a move, and
none if there is nothing to act on. -/
def Mutation.outcome (r : Registry) : Mutation → Option MarkerOp
  | add m => some (.add m.id m.name m.position)
  | update id position => (r.find? id).map fun m => .update id m.name position
  | updateMoving id position =>
    ((r.find? id).filter Marker.isMoving).map fun m => .update id m.name position
  | delete id => (r.find? id).map fun _ => .delete id
  | deleteMoving id => ((r.find? id).filter Marker.isMoving).map fun _ => .delete id

/-- What a mutation makes of the entry under its id. -/
def Mutation.entry : Mutation → Option (Marker Float) → Option (Marker Float)
  | add m, _ => some m
  | update _ position, stored => stored.map ({ · with position })
  | updateMoving _ position, stored =>
    stored.map fun m => if m.isMoving then { m with position } else m
  | delete _, _ => none
  | deleteMoving _, stored => stored.filter (!·.isMoving)

namespace Registry

/-- Each id once, each marker under its own id. -/
structure Valid (r : Registry) : Prop where
  /-- An id has one marker at most. -/
  ids_nodup : (r.entries.map Prod.fst).Nodup
  /-- A marker is filed under its own id. -/
  filed : ∀ id m, r.find? id = some m → m.id = id

/-- What the registry shows under each id. -/
def chart (r : Registry) : Chart := fun id => (r.find? id).map Marker.pin

/-- The registry with a marker written under its id. -/
def write (r : Registry) (m : Marker Float) : Registry := ⟨Keyed.put m.id m r.entries⟩

/-- The registry without the marker of an id. -/
def erase (r : Registry) (id : String) : Registry := ⟨Keyed.erase id r.entries⟩

@[simp] theorem find?_write_self (r : Registry) (m : Marker Float) :
    (r.write m).find? m.id = some m := Keyed.find?_put_self

theorem find?_write_of_ne (r : Registry) (m : Marker Float) {id : String} (h : id ≠ m.id) :
    (r.write m).find? id = r.find? id := Keyed.find?_put_of_ne h

theorem find?_erase_of_ne (r : Registry) {id j : String} (h : j ≠ id) :
    (r.erase id).find? j = r.find? j := Keyed.find?_erase_of_ne h

theorem Valid.find?_erase_self {r : Registry} (hv : r.Valid) (id : String) :
    (r.erase id).find? id = none := Keyed.find?_erase_self hv.ids_nodup

/-- The registry without markers is valid. -/
theorem valid_empty : empty.Valid where
  ids_nodup := List.nodup_nil
  filed _ _ h := by cases h

/-- Writing a marker keeps a registry valid. -/
theorem Valid.write {r : Registry} (hv : r.Valid) (m : Marker Float) : (r.write m).Valid where
  ids_nodup := Keyed.nodup_keys_put hv.ids_nodup
  filed id m' h := by
    by_cases hid : id = m.id
    · rw [hid, find?_write_self] at h
      cases h
      exact hid.symm
    · rw [find?_write_of_ne r m hid] at h
      exact hv.filed id m' h

/-- Erasing an id keeps a registry valid. -/
theorem Valid.erase {r : Registry} (hv : r.Valid) (id : String) : (r.erase id).Valid where
  ids_nodup := Keyed.nodup_keys_erase hv.ids_nodup
  filed j m h := by
    by_cases hj : j = id
    · rw [hj, hv.find?_erase_self] at h
      cases h
    · rw [find?_erase_of_ne r hj] at h
      exact hv.filed j m h

/-- A written marker is shown. -/
theorem chart_write (r : Registry) (m : Marker Float) :
    (r.write m).chart = Function.update r.chart m.id (some m.pin) := by
  funext id
  by_cases hid : id = m.id
  · subst hid
    rw [chart, find?_write_self, Function.update_self, Option.map_some]
  · rw [chart, find?_write_of_ne r m hid, Function.update_of_ne hid, chart]

/-- An erased marker is not shown. -/
theorem Valid.chart_erase {r : Registry} (hv : r.Valid) (id : String) :
    (r.erase id).chart = Function.update r.chart id none := by
  funext j
  by_cases hj : j = id
  · subst hj
    rw [chart, hv.find?_erase_self, Function.update_self, Option.map_none]
  · rw [chart, find?_erase_of_ne r hj, Function.update_of_ne hj, chart]

/-! ## Mutations -/

/-- Moving: nothing happens, or the marker under the id is written with its new position. -/
theorem updateWhere_cases {r : Registry} (hv : r.Valid) (id : String) (position : LatLng Float)
    (p : Marker Float → Bool) :
    ((r.find? id).filter p = none ∧ r.updateWhere id position p = (none, r)) ∨
    (∃ m, m.id = id ∧ r.find? id = some m ∧ p m = true ∧ r.updateWhere id position p =
      (some (.updated { m with position }), r.write { m with position })) := by
  cases hm : r.find? id with
  | none =>
    refine Or.inl ⟨rfl, ?_⟩
    rw [updateWhere, hm]
  | some m =>
    have hid := hv.filed id m hm
    cases hp : p m with
    | false =>
      refine Or.inl ⟨Option.filter_some_neg hp, ?_⟩
      simp [updateWhere, hm, hp]
    | true =>
      refine Or.inr ⟨m, hid, rfl, hp, ?_⟩
      simp [updateWhere, hm, hp, Registry.write, hid]

/-- Removing: nothing happens, or the marker under the id is erased. -/
theorem deleteWhere_cases {r : Registry} (hv : r.Valid) (id : String) (p : Marker Float → Bool) :
    ((r.find? id).filter p = none ∧ r.deleteWhere id p = (none, r)) ∨
    (∃ m, m.id = id ∧ r.find? id = some m ∧ p m = true ∧ r.deleteWhere id p =
      (some (.delete id), r.erase id)) := by
  cases hm : r.find? id with
  | none =>
    refine Or.inl ⟨rfl, ?_⟩
    rw [deleteWhere, hm]
  | some m =>
    have hid := hv.filed id m hm
    cases hp : p m with
    | false =>
      refine Or.inl ⟨Option.filter_some_neg hp, ?_⟩
      simp [deleteWhere, hm, hp]
    | true =>
      refine Or.inr ⟨m, hid, rfl, hp, ?_⟩
      simp [deleteWhere, hm, hp, Registry.erase, hid]

/-- All that a mutation can do. There is nothing to act on; or it writes a new marker; or it writes
a known marker with a new position; or it erases a known marker. -/
theorem commit_cases {r : Registry} (hv : r.Valid) (mutation : Mutation) :
    (mutation.outcome r = none ∧ r.commit mutation = (none, r)) ∨
    (∃ m, mutation = .add m ∧ r.commit mutation = (some (.added m), r.write m)) ∨
    (∃ m position, m.id = mutation.id ∧ r.find? m.id = some m ∧
      (mutation = .update m.id position ∨
        mutation = .updateMoving m.id position ∧ m.isMoving = true) ∧
      r.commit mutation = (some (.updated { m with position }), r.write { m with position })) ∨
    (∃ m, m.id = mutation.id ∧ r.find? m.id = some m ∧
      (mutation = .delete m.id ∨ mutation = .deleteMoving m.id ∧ m.isMoving = true) ∧
      r.commit mutation = (some (.delete m.id), r.erase m.id)) := by
  cases mutation with
  | add m => exact Or.inr (Or.inl ⟨m, rfl, rfl⟩)
  | update id position =>
    obtain ⟨hn, hc⟩ | ⟨m, rfl, hm, -, hc⟩ := updateWhere_cases hv id position fun _ => true
    · -- Every marker satisfies the condition, so there is none.
      have hnone : r.find? id = none := Option.eq_none_iff_forall_ne_some.2 fun m hm =>
        Option.filter_eq_none_iff.1 hn m hm rfl
      refine Or.inl ⟨?_, hc⟩
      rw [Mutation.outcome, hnone, Option.map_none]
    · exact Or.inr (Or.inr (Or.inl ⟨m, position, rfl, hm, Or.inl rfl, hc⟩))
  | updateMoving id position =>
    obtain ⟨hn, hc⟩ | ⟨m, rfl, hm, hp, hc⟩ := updateWhere_cases hv id position Marker.isMoving
    · refine Or.inl ⟨?_, hc⟩
      rw [Mutation.outcome, hn, Option.map_none]
    · exact Or.inr (Or.inr (Or.inl ⟨m, position, rfl, hm, Or.inr ⟨rfl, hp⟩, hc⟩))
  | delete id =>
    obtain ⟨hn, hc⟩ | ⟨m, rfl, hm, -, hc⟩ := deleteWhere_cases hv id fun _ => true
    · have hnone : r.find? id = none := Option.eq_none_iff_forall_ne_some.2 fun m hm =>
        Option.filter_eq_none_iff.1 hn m hm rfl
      refine Or.inl ⟨?_, hc⟩
      rw [Mutation.outcome, hnone, Option.map_none]
    · exact Or.inr (Or.inr (Or.inr ⟨m, rfl, hm, Or.inl rfl, hc⟩))
  | deleteMoving id =>
    obtain ⟨hn, hc⟩ | ⟨m, rfl, hm, hp, hc⟩ := deleteWhere_cases hv id Marker.isMoving
    · refine Or.inl ⟨?_, hc⟩
      rw [Mutation.outcome, hn, Option.map_none]
    · exact Or.inr (Or.inr (Or.inr ⟨m, rfl, hm, Or.inr ⟨rfl, hp⟩, hc⟩))

/-- A mutation yields the operation that it should yield. -/
theorem Valid.commit_fst {r : Registry} (hv : r.Valid) (mutation : Mutation) :
    (r.commit mutation).1 = mutation.outcome r := by
  obtain ⟨hn, hc⟩ | ⟨m, rfl, hc⟩ | ⟨m, position, -, hm, hkind, hc⟩ | ⟨m, -, hm, hkind, hc⟩ :=
    commit_cases hv mutation
  · rw [hc, hn]
  · rw [hc]
    rfl
  · rw [hc]
    rcases hkind with rfl | ⟨rfl, hp⟩
    · rw [Mutation.outcome, hm]
      rfl
    · rw [Mutation.outcome, hm, Option.filter_some_pos hp]
      rfl
  · rw [hc]
    rcases hkind with rfl | ⟨rfl, hp⟩
    · rw [Mutation.outcome, hm, Option.map_some]
    · rw [Mutation.outcome, hm, Option.filter_some_pos hp, Option.map_some]

/-- Without anything to act on, a mutation yields nothing and leaves the registry as it was. -/
theorem Valid.commit_of_outcome_none {r : Registry} (hv : r.Valid) {mutation : Mutation}
    (h : mutation.outcome r = none) : r.commit mutation = (none, r) := by
  have hfst := hv.commit_fst mutation
  rw [h] at hfst
  obtain ⟨-, hc⟩ | ⟨m, -, hc⟩ | ⟨m, position, -, -, -, hc⟩ | ⟨m, -, -, -, hc⟩ :=
    commit_cases hv mutation
  · exact hc
  all_goals
    -- The other cases yield an operation.
    rw [hc] at hfst
    cases hfst

/-- A mutation keeps a registry valid. -/
theorem Valid.commit {r : Registry} (hv : r.Valid) (mutation : Mutation) :
    (r.commit mutation).2.Valid := by
  obtain ⟨-, hc⟩ | ⟨m, -, hc⟩ | ⟨m, position, -, -, -, hc⟩ | ⟨m, -, -, -, hc⟩ :=
    commit_cases hv mutation
  · rw [hc]
    exact hv
  · rw [hc]
    exact hv.write m
  · rw [hc]
    exact hv.write _
  · rw [hc]
    exact hv.erase m.id

/-- Without anything to act on, a mutation makes the entry under its id what it was. -/
theorem entry_of_outcome_none {r : Registry} {mutation : Mutation}
    (h : mutation.outcome r = none) :
    mutation.entry (r.find? mutation.id) = r.find? mutation.id := by
  cases mutation with
  | add m => cases h
  | update id position =>
    have hnone : r.find? id = none := Option.map_eq_none_iff.1 h
    rw [Mutation.id, hnone]
    rfl
  | updateMoving id position =>
    have hstill := Option.filter_eq_none_iff.1 (Option.map_eq_none_iff.1 h)
    rw [Mutation.id]
    cases hm : r.find? id with
    | none => rfl
    | some m => rw [Mutation.entry, Option.map_some, if_neg (hstill m hm)]
  | delete id =>
    have hnone : r.find? id = none := Option.map_eq_none_iff.1 h
    rw [Mutation.id, hnone]
    rfl
  | deleteMoving id =>
    have hstill := Option.filter_eq_none_iff.1 (Option.map_eq_none_iff.1 h)
    rw [Mutation.id]
    cases hm : r.find? id with
    | none => rfl
    | some m =>
      have hkept : (!m.isMoving) = true := by
        rw [Bool.not_eq_true']
        exact Bool.eq_false_iff.2 (hstill m hm)
      rw [Mutation.entry, Option.filter_some, if_pos hkept]

/-- What a mutation makes of the entry under its id depends on this entry alone. -/
theorem Valid.find?_commit_self {r : Registry} (hv : r.Valid) (mutation : Mutation) :
    (r.commit mutation).2.find? mutation.id = mutation.entry (r.find? mutation.id) := by
  obtain ⟨hn, hc⟩ | ⟨m, rfl, hc⟩ | ⟨m, position, hid, hm, hkind, hc⟩ | ⟨m, hid, hm, hkind, hc⟩ :=
    commit_cases hv mutation
  · rw [hc, entry_of_outcome_none hn]
  · rw [hc]
    exact find?_write_self r m
  · have hwritten : (r.write { m with position }).find? m.id = some { m with position } :=
      find?_write_self r { m with position }
    rw [hc, ← hid, hwritten, hm]
    rcases hkind with rfl | ⟨rfl, hmoving⟩
    · rfl
    · rw [Mutation.entry, Option.map_some, if_pos hmoving]
  · rw [hc, ← hid, hv.find?_erase_self, hm]
    rcases hkind with rfl | ⟨rfl, hmoving⟩
    · rfl
    · have hdropped : (!m.isMoving) = false := by rw [hmoving, Bool.not_true]
      rw [Mutation.entry, Option.filter_some, hdropped]
      rfl

/-- A mutation touches no other id. -/
theorem Valid.find?_commit_of_ne {r : Registry} (hv : r.Valid) {mutation : Mutation} {id : String}
    (h : id ≠ mutation.id) : (r.commit mutation).2.find? id = r.find? id := by
  obtain ⟨-, hc⟩ | ⟨m, rfl, hc⟩ | ⟨m, position, hid, -, -, hc⟩ | ⟨m, hid, -, -, hc⟩ :=
    commit_cases hv mutation
  · rw [hc]
  · rw [hc, find?_write_of_ne r m h]
  · rw [hc]
    exact find?_write_of_ne r { m with position } (hid ▸ h)
  · rw [hc, find?_erase_of_ne r (hid ▸ h)]

/-- The operation that a mutation yields is about the mutation's id. -/
theorem Valid.id_of_commit {r : Registry} (hv : r.Valid) {mutation : Mutation} {op : MarkerOp}
    (h : (r.commit mutation).1 = some op) : op.id = mutation.id := by
  obtain ⟨-, hc⟩ | ⟨m, rfl, hc⟩ | ⟨m, position, hid, -, -, hc⟩ | ⟨m, hid, -, -, hc⟩ :=
    commit_cases hv mutation <;> rw [hc] at h <;> cases h
  · rfl
  · exact hid
  · exact hid

/-- The chart of a registry changes as the yielded operation says, and not at all if there is
none. -/
theorem Valid.chart_commit {r : Registry} (hv : r.Valid) (mutation : Mutation) :
    (r.commit mutation).2.chart = r.chart.replay (r.commit mutation).1.toList := by
  obtain ⟨-, hc⟩ | ⟨m, -, hc⟩ | ⟨m, position, -, hm, -, hc⟩ | ⟨m, -, -, -, hc⟩ :=
    commit_cases hv mutation
  · rw [hc]
    rfl
  · rw [hc]
    exact chart_write r m
  · rw [hc]
    have hshown : r.chart m.id = some m.pin := by rw [chart, hm, Option.map_some]
    show (r.write { m with position }).chart = Function.update r.chart m.id _
    rw [chart_write, hshown]
    rfl
  · rw [hc]
    exact hv.chart_erase m.id

/-! ## The first look -/

/-- The listed markers of a valid registry have distinct ids. -/
theorem Valid.nodup_markers {r : Registry} (hv : r.Valid) : (r.markers.map Marker.id).Nodup :=
  Chart.nodup_ids_of_filed hv.ids_nodup hv.filed

/-- A client that adds the listed markers, in whatever order, shows what the registry shows. -/
theorem Valid.ofMarkers_eq_chart {r : Registry} (hv : r.Valid) {listed : List (Marker Float)}
    (hp : listed.Perm r.markers) : Chart.ofMarkers listed = r.chart := by
  rw [Chart.ofMarkers_perm hp hv.nodup_markers]
  exact Chart.ofMarkers_of_filed hv.ids_nodup hv.filed

/-! ## The order of the entries -/

/-- The order of the entries does not matter to what is found. -/
theorem Valid.find?_of_perm {r r' : Registry} (hv : r.Valid) (hp : r.entries.Perm r'.entries)
    (id : String) : r'.find? id = r.find? id := (Keyed.find?_eq_of_perm hp hv.ids_nodup).symm

/-- The order of the entries does not matter to validity. -/
theorem Valid.of_perm {r r' : Registry} (hv : r.Valid) (hp : r.entries.Perm r'.entries) :
    r'.Valid where
  ids_nodup := (hp.map Prod.fst).nodup_iff.1 hv.ids_nodup
  filed id m h := hv.filed id m (by rwa [hv.find?_of_perm hp] at h)

/-- The order of the entries does not matter to what is shown. -/
theorem Valid.chart_of_perm {r r' : Registry} (hv : r.Valid) (hp : r.entries.Perm r'.entries) :
    r'.chart = r.chart := by
  funext id
  rw [chart, chart, hv.find?_of_perm hp]

/-- What the listing in ascending order shows: each id with its pin. -/
def listing (r : Registry) : List (String × Pin) := r.sortedMarkers.map fun m => (m.id, m.pin)

/-- The listing shows what the registry shows. -/
theorem Valid.mem_listing_iff {r : Registry} (hv : r.Valid) {id : String} {pin : Pin} :
    (id, pin) ∈ r.listing ↔ r.chart id = some pin := by
  have hmem : ∀ m, m ∈ r.sortedMarkers ↔ m ∈ r.markers := fun m => List.mem_mergeSort
  constructor
  · intro h
    obtain ⟨m, hm, heq⟩ := List.mem_map.1 h
    cases heq
    obtain ⟨e, he, rfl⟩ := List.mem_map.1 ((hmem m).1 hm)
    have hfind : r.find? e.1 = some e.2 := Keyed.find?_eq_some_of_mem hv.ids_nodup he
    rw [chart, hv.filed e.1 e.2 hfind, hfind, Option.map_some]
  · intro h
    obtain ⟨m, hm, rfl⟩ := Option.map_eq_some_iff.1 h
    have hlisted : m ∈ r.markers := List.mem_map.2 ⟨(id, m), Keyed.mem_of_find?_eq_some hm, rfl⟩
    exact List.mem_map.2 ⟨m, (hmem m).2 hlisted, by rw [hv.filed id m hm]⟩

/-- The ids of the listing ascend, so each is listed once. -/
theorem Valid.listing_ascends {r : Registry} (hv : r.Valid) :
    r.listing.Pairwise fun a b => a.1 < b.1 := by
  have hsorted : r.sortedMarkers.Pairwise fun a b => decide (a.id ≤ b.id) = true := by
    refine List.pairwise_mergeSort (fun a b c hab hbc => ?_) (fun a b => ?_) r.markers
    · exact decide_eq_true (String.le_trans (of_decide_eq_true hab) (of_decide_eq_true hbc))
    · rw [Bool.or_eq_true, decide_eq_true_iff, decide_eq_true_iff]
      exact String.le_total a.id b.id
  have hids : (r.sortedMarkers.map Marker.id).Nodup :=
    ((List.mergeSort_perm r.markers _).map Marker.id).nodup_iff.2 hv.nodup_markers
  have hdistinct : r.sortedMarkers.Pairwise fun a b => a.id ≠ b.id := List.pairwise_map.1 hids
  rw [listing, List.pairwise_map]
  refine (hsorted.and hdistinct).imp fun {a b} ⟨hle, hne⟩ => ?_
  exact Decidable.byContradiction fun hnot =>
    hne (String.le_antisymm (of_decide_eq_true hle) (String.not_lt.1 hnot))

end Registry

end LiveMap
