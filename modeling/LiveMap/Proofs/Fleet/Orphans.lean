import LiveMap.Proofs.Fleet.Generator
import LiveMap.Proofs.Fleet.Takeover

/-!
# No marker with motion is orphaned

A fleet keeps its markers twice: in its own table, from which it picks what to do next, and in the
registry, which clients change as well. A marker with motion in the registry that the fleet does not
know would never move again and never leave. The two tables are kept in step by applying one
operation at a time, and by forgetting the marker of an operation that does not apply.

The invariant (`Manned`) is that every marker with motion in the registry is one of the fleet's,
under the same name. Between the halves of a step one id is exempt, that of a pending addition or
removal: the fleet's table is one operation ahead there. It does not matter whether a new marker
draws an id that is in use.

Main statement: `fleet_orphans_nothing`, for every fleet that can be made, all draws and every
interleaving with calls of clients.
-/

namespace LiveMap

variable {ρ : Type}

/-- What a fleet has put into an empty registry are its own markers. -/
theorem Hub.find?_seedFleet {hub : Hub} (hempty : hub.registry = .empty) {g : Generator ρ}
    (hv : g.Valid) {id : String} {m : Marker Float}
    (h : (hub.seedFleet g).registry.find? id = some m) : g.find? id = some m := by
  -- A marker that is found after some additions was found before, or was added under its id.
  have hadded : ∀ (markers : List (Marker Float)) (hub : Hub),
      (markers.foldl (fun hub m => (hub.perform (.add m)).2) hub).registry.find? id = some m →
        hub.registry.find? id = some m ∨ (m ∈ markers ∧ m.id = id) := by
    intro markers
    induction markers with
    | nil => exact fun hub h => Or.inl h
    | cons first rest ih =>
      intro hub h
      rcases ih _ h with hfound | ⟨hmem, hid⟩
      · rw [registry_perform] at hfound
        have hwritten : (hub.registry.write first).find? id = some m := hfound
        by_cases hid : id = first.id
        · rw [hid, Registry.find?_write_self] at hwritten
          cases hwritten
          exact Or.inr ⟨List.mem_cons_self, hid.symm⟩
        · rw [Registry.find?_write_of_ne _ _ hid] at hwritten
          exact Or.inl hwritten
      · exact Or.inr ⟨List.mem_cons_of_mem first hmem, hid⟩
  rcases hadded g.snapshot hub h with hfound | ⟨hmem, rfl⟩
  · rw [hempty] at hfound
    cases hfound
  · exact hv.find?_of_mem_snapshot hmem

namespace FleetTask

/-! ## Both halves of a step -/

/-- The operation that applying the pending one yields by now, if it still applies. -/
def applied? (t : FleetTask ρ) : Option MarkerOp :=
  t.upcoming?.bind fun mutation => (t.hub.perform mutation).1

/-- Applying an operation settles it, and the fleet forgets its marker if it does not apply. -/
theorem applyPending_of_pending {t : FleetTask ρ} {op : MarkerOp} (h : t.pending = some op) :
    t.applyPending.pending = none ∧
      t.applyPending.generator =
        if t.applied?.isSome then t.generator else (t.generator.forget op.id).2 := by
  unfold applyPending applied? upcoming?
  rw [h, Option.bind_some]
  dsimp only
  unfold Hub.applyFleetOp
  cases Hub.mutationOf? t.generator op with
  | none => exact ⟨rfl, rfl⟩
  | some mutation =>
    rw [Option.map_some, Option.bind_some]
    cases t.hub.perform mutation with
    | mk yielded hub => cases yielded <;> exact ⟨rfl, rfl⟩

/-- Without a pending operation there is nothing to apply. -/
theorem applyPending_of_no_pending {t : FleetTask ρ} (h : t.pending = none) :
    t.applyPending = t := by
  rw [applyPending, h]

/-- An operation that does not apply leaves a valid hub as it was. -/
theorem hub_applyPending_of_stale {t : FleetTask ρ} (hv : t.hub.Valid) (h : t.applied? = none) :
    t.applyPending.hub = t.hub := by
  rw [hub_applyPending]
  unfold applied? at h
  cases hup : t.upcoming? with
  | none => rfl
  | some mutation =>
    rw [hup, Option.bind_some, Hub.perform_fst, hv.registry.commit_fst] at h
    show (t.hub.perform mutation).2 = t.hub
    rw [hv.perform_of_outcome_none h]

/-- Applying an operation changes no entry under another id. -/
theorem find?_applyPending_of_ne {t : FleetTask ρ} (hv : t.hub.Valid)
    (hfleet : t.generator.Valid) {op : MarkerOp} (h : t.pending = some op) {id : String}
    (hid : id ≠ op.id) :
    t.applyPending.hub.registry.find? id = t.hub.registry.find? id := by
  rw [hub_applyPending, upcoming?, h, Option.bind_some]
  cases hm : Hub.mutationOf? t.generator op with
  | none => rfl
  | some mutation =>
    -- The mutation is about the id of the operation.
    have habout : mutation.id = op.id := by
      cases op with
      | add i name position =>
        obtain ⟨m, hfound, rfl⟩ := Option.map_eq_some_iff.1 hm
        exact hfleet.filed i m hfound
      | update i name position =>
        cases hm
        rfl
      | delete i =>
        cases hm
        rfl
    show (t.hub.perform mutation).2.registry.find? id = _
    rw [Hub.registry_perform]
    exact hv.registry.find?_commit_of_ne (habout ▸ hid)

section

variable [FleetDraws ρ]

/-- What the fleet picks by an action. -/
def picked (t : FleetTask ρ) : Action → List MarkerOp
  | .choose =>
    match t.pending, t.generator.nextOp with
    | none, .ok (op, _) => [op]
    | _, _ => []
  | .call _ | .apply => []

/-- What the fleet picks in the course of some actions, in order. -/
def picks : FleetTask ρ → List Action → List MarkerOp
  | _, [] => []
  | t, a :: rest => t.picked a ++ picks (t.act a) rest

/-- Picking: nothing happens, or the next operation of the fleet is pending. -/
theorem choose_cases (t : FleetTask ρ) :
    (t.choose = t ∧ t.picked .choose = []) ∨
    ∃ op generator, t.pending = none ∧ t.generator.nextOp = .ok (op, generator) ∧
      t.choose = ⟨t.hub, generator, some op⟩ ∧ t.picked .choose = [op] := by
  unfold choose picked
  cases hp : t.pending with
  | some op => exact Or.inl ⟨rfl, rfl⟩
  | none =>
    cases hn : t.generator.nextOp with
    | error fault => exact Or.inl ⟨rfl, rfl⟩
    | ok next => exact Or.inr ⟨next.1, next.2, rfl, rfl, rfl, rfl⟩

end

/-! ## The fleet knows every marker with motion -/

/-- Whether the fleet's table is one operation ahead of the registry under an id. -/
def Ahead (t : FleetTask ρ) (id : String) : Prop :=
  ∃ op, t.pending = some op ∧ op.kind ≠ .update ∧ op.id = id

/-- What holds at any moment of a fleet at work. -/
structure Manned (t : FleetTask ρ) : Prop where
  /-- The hub is valid. -/
  hub : t.hub.Valid
  /-- The fleet is valid. -/
  fleet : t.generator.Valid
  /-- A marker that is about to be added is one of the fleet's. -/
  adding : ∀ id name position, t.pending = some (.add id name position) →
    t.generator.find? id ≠ none
  /-- A marker with motion in the registry is one of the fleet's, under the same name. -/
  owned : ∀ id m, t.hub.registry.find? id = some m → m.isMoving = true → ¬t.Ahead id →
    ∃ own, t.generator.find? id = some own ∧ own.name = m.name

/-- A fleet that has put its markers into an empty registry knows them all. -/
theorem manned_start {hub : Hub} (hv : hub.Valid) (hempty : hub.registry = .empty)
    {g : Generator ρ} (hg : g.Valid) : (start hub g).Manned where
  hub := hv.seedFleet g
  fleet := hg
  adding _ _ _ h := by cases h
  owned id m hm _ _ := ⟨m, Hub.find?_seedFleet hempty hg hm, rfl⟩

/-- A call gives motion to no marker and a new name to none that has it. -/
theorem Manned.call [FleetDraws ρ] {t : FleetTask ρ} (h : t.Manned) (c : RpcCall) :
    (t.act (.call c)).Manned where
  hub := valid_act h.hub (.call c)
  fleet := h.fleet
  adding := h.adding
  owned id m hm hmoving hahead := by
    by_cases hid : id = c.id
    · subst hid
      rw [find?_call_self h.hub] at hm
      cases c with
      | add id name position =>
        cases hm
        cases hmoving
      | update id position =>
        obtain ⟨old, hold, rfl⟩ := Option.map_eq_some_iff.1 hm
        exact h.owned id old hold hmoving hahead
      | delete id => cases hm
    · rw [find?_call_of_ne h.hub hid] at hm
      exact h.owned id m hm hmoving hahead

/-- Picking an operation changes the fleet's table under the id of the operation only, and a move
keeps the name. -/
theorem Manned.choose [FleetDraws ρ] {t : FleetTask ρ} (h : t.Manned) : t.choose.Manned := by
  obtain ⟨hsame, -⟩ | ⟨op, g, hnone, hnext, hchosen, -⟩ := t.choose_cases
  · rw [hsame]
    exact h
  rw [hchosen]
  have hcases := h.fleet.nextOp_cases hnext
  -- Nothing was pending, so nothing was ahead.
  have hbefore : ∀ id, ¬t.Ahead id := by
    rintro id ⟨op, hop, -⟩
    rw [hnone] at hop
    cases hop
  constructor
  case hub => exact h.hub
  case fleet => exact h.fleet.nextOp hnext
  case adding =>
    intro id name position hop
    obtain ⟨m, rfl, -, hg⟩ | ⟨m, moved, -, rfl, -⟩ | ⟨m, -, rfl, -⟩ := hcases
    · cases hop
      rw [Generator.find?_of_insert hg]
      exact Option.some_ne_none m
    · cases hop
    · cases hop
  case owned =>
    intro id m hm hmoving hahead
    obtain ⟨own, hown, hname⟩ := h.owned id m hm hmoving (hbefore id)
    obtain ⟨m', rfl, -, hg⟩ | ⟨m', moved, hm', rfl, hid', hname', -, hg⟩ | ⟨m', -, rfl, hg⟩ :=
      hcases
    · have hid : id ≠ m'.id := fun he => hahead ⟨_, rfl, OpKind.noConfusion, he.symm⟩
      exact ⟨own, by rw [← hown]; exact Generator.find?_of_insert_of_ne hg hid, hname⟩
    · by_cases hid : id = moved.id
      · -- The marker that moves is still there, under its name.
        rw [hid, hid', hm'] at hown
        cases hown
        exact ⟨moved, by rw [hid]; exact Generator.find?_of_insert hg, hname'.trans hname⟩
      · exact ⟨own, by rw [← hown]; exact Generator.find?_of_insert_of_ne hg hid, hname⟩
    · have hid : id ≠ m'.id := fun he => hahead ⟨_, rfl, OpKind.noConfusion, he.symm⟩
      exact ⟨own, by rw [← hown]; exact Generator.find?_of_erase_of_ne hg hid, hname⟩

/-- What a fleet holds after it has applied an operation: what it held before, or that without the
marker of the operation. -/
theorem find?_generator_applyPending {t : FleetTask ρ} {op : MarkerOp} (h : t.pending = some op)
    {id : String} (hid : id ≠ op.id ∨ t.applied?.isSome = true) :
    t.applyPending.generator.find? id = t.generator.find? id := by
  rw [(applyPending_of_pending h).2]
  split
  · rfl
  · next hstale =>
    have hother : id ≠ op.id := hid.resolve_right hstale
    exact Generator.find?_of_erase_of_ne (t.generator.markers_forget op.id) hother

/-- Applying keeps a fleet valid. -/
theorem valid_generator_applyPending {t : FleetTask ρ} (hv : t.generator.Valid) :
    t.applyPending.generator.Valid := by
  cases hp : t.pending with
  | none =>
    rw [applyPending_of_no_pending hp]
    exact hv
  | some op =>
    rw [(applyPending_of_pending hp).2]
    split
    · exact hv
    · exact hv.of_erase (t.generator.markers_forget op.id)

/-- The entry under the id of a pending operation, after the operation is applied: a marker with
motion there is one of the fleet's. -/
theorem Manned.owned_applyPending {t : FleetTask ρ} (h : t.Manned) {op : MarkerOp}
    (hp : t.pending = some op) {m : Marker Float}
    (hm : t.applyPending.hub.registry.find? op.id = some m) (hmoving : m.isMoving = true) :
    ∃ own, t.applyPending.generator.find? op.id = some own ∧ own.name = m.name := by
  rw [hub_applyPending, upcoming?, hp, Option.bind_some] at hm
  cases op with
  | add id name position =>
    -- The marker that is added is one of the fleet's.
    obtain ⟨own, hown⟩ := Option.ne_none_iff_exists'.1 (h.adding id name position hp)
    have hup : Hub.mutationOf? t.generator (.add id name position) = some (.add own) :=
      congrArg (Option.map Mutation.add) hown
    have happlied : t.applied?.isSome = true := by
      rw [applied?, upcoming?, hp, Option.bind_some, hup, Option.bind_some, Hub.perform_fst]
      rfl
    rw [hup] at hm
    have hwritten : (t.hub.registry.write own).find? id = some m := hm
    rw [← h.fleet.filed id own hown, Registry.find?_write_self] at hwritten
    have hsame : own = m := Option.some.inj hwritten
    exact ⟨own, by rw [find?_generator_applyPending hp (Or.inr happlied)]; exact hown,
      congrArg Marker.name hsame⟩
  | update id name position =>
    -- The marker had motion before, so the move applies and the fleet keeps the marker.
    have hentry : ((t.hub.registry.commit (.updateMoving id position)).2).find? id = some m := by
      rw [← Hub.registry_perform]
      exact hm
    have hself := h.hub.registry.find?_commit_self (.updateMoving id position)
    rw [Mutation.id, hentry] at hself
    obtain ⟨old, hold, hmoved⟩ := Option.map_eq_some_iff.1 hself.symm
    have hboth : old.isMoving = true ∧ old.name = m.name := by
      split at hmoved
      · next hmov =>
        rw [← hmoved]
        exact ⟨hmov, rfl⟩
      · rw [hmoved]
        exact ⟨hmoving, rfl⟩
    have happlied : t.applied?.isSome = true := by
      rw [applied?, upcoming?, hp, Option.bind_some, Hub.mutationOf?, Option.bind_some,
        Hub.perform_fst, h.hub.registry.commit_fst, Mutation.outcome, hold,
        Option.filter_some_pos hboth.1]
      rfl
    have hahead : ¬t.Ahead id := by
      rintro ⟨op, hop, hkind, -⟩
      rw [hp] at hop
      cases hop
      exact hkind rfl
    obtain ⟨own, hown, hname⟩ := h.owned id old hold hboth.1 hahead
    exact ⟨own, by rw [find?_generator_applyPending hp (Or.inr happlied)]; exact hown,
      hname.trans hboth.2⟩
  | delete id =>
    -- A removal leaves a marker only if it has no motion.
    have hentry : ((t.hub.registry.commit (.deleteMoving id)).2).find? id = some m := by
      rw [← Hub.registry_perform]
      exact hm
    have hself := h.hub.registry.find?_commit_self (.deleteMoving id)
    rw [Mutation.id, hentry] at hself
    have hstill := (Option.filter_eq_some_iff.1 hself.symm).2
    rw [hmoving] at hstill
    cases hstill

/-- Applying an operation brings the two tables in step again. -/
theorem Manned.apply [FleetDraws ρ] {t : FleetTask ρ} (h : t.Manned) : t.applyPending.Manned := by
  cases hp : t.pending with
  | none =>
    rw [applyPending_of_no_pending hp]
    exact h
  | some op =>
    have hsettled := (applyPending_of_pending hp).1
    constructor
    case hub => exact valid_act h.hub .apply
    case fleet => exact valid_generator_applyPending h.fleet
    case adding =>
      intro id name position hop
      rw [hsettled] at hop
      cases hop
    case owned =>
      intro id m hm hmoving _
      by_cases hid : id = op.id
      · subst hid
        exact h.owned_applyPending hp hm hmoving
      · have hahead : ¬t.Ahead id := by
          rintro ⟨op', hop', -, hid'⟩
          rw [hp] at hop'
          cases hop'
          exact hid hid'.symm
        rw [find?_applyPending_of_ne h.hub h.fleet hp hid] at hm
        rw [find?_generator_applyPending hp (Or.inl hid)]
        exact h.owned id m hm hmoving hahead

variable [FleetDraws ρ]

/-- Every action keeps the fleet and the registry in step. -/
theorem Manned.act {t : FleetTask ρ} (h : t.Manned) (a : Action) : (t.act a).Manned := by
  cases a with
  | call c => exact h.call c
  | choose => exact h.choose
  | apply => exact h.apply

/-- Every run keeps the fleet and the registry in step. -/
theorem Manned.run {t : FleetTask ρ} (h : t.Manned) (actions : List Action) :
    (t.run actions).Manned := by
  induction actions generalizing t with
  | nil => exact h
  | cons a rest ih => exact ih (h.act a)

/-! ## What the fleet does not know -/

/-- A fleet without a marker under an id picks no operation on it but to add one, and has none after
any action but that. -/
theorem find?_act_of_none {t : FleetTask ρ} (hv : t.generator.Valid) {id : String}
    (h : t.generator.find? id = none) {a : Action}
    (hadds : ∀ op ∈ t.picked a, op.kind = .add → op.id ≠ id) :
    (∀ op ∈ t.picked a, op.id ≠ id) ∧ (t.act a).generator.Valid ∧
      (t.act a).generator.find? id = none := by
  cases a with
  | call c => exact ⟨fun _ hop => absurd hop List.not_mem_nil, hv, h⟩
  | apply =>
    refine ⟨fun _ hop => absurd hop List.not_mem_nil, valid_generator_applyPending hv, ?_⟩
    show t.applyPending.generator.find? id = none
    cases hp : t.pending with
    | none => rwa [applyPending_of_no_pending hp]
    | some op =>
      rw [(applyPending_of_pending hp).2]
      split
      · exact h
      · by_cases hid : id = op.id
        · rw [hid]
          exact hv.find?_of_erase (t.generator.markers_forget op.id)
        · rw [Generator.find?_of_erase_of_ne (t.generator.markers_forget op.id) hid]
          exact h
  | choose =>
    obtain ⟨hsame, hpicked⟩ | ⟨op, g, -, hnext, hchosen, hpicked⟩ := t.choose_cases
    · rw [hpicked]
      refine ⟨fun _ hop => absurd hop List.not_mem_nil, ?_⟩
      rw [FleetTask.act, hsame]
      exact ⟨hv, h⟩
    · rw [hpicked] at hadds ⊢
      have hop : op ∈ [op] := List.mem_singleton.2 rfl
      rw [FleetTask.act, hchosen]
      -- A marker that is found is another one.
      have hother : ∀ m, t.generator.find? m.id = some m → id ≠ m.id := by
        rintro m hm rfl
        rw [h] at hm
        cases hm
      have hboth : op.id ≠ id ∧ g.find? id = none := by
        obtain ⟨m, rfl, -, hg⟩ | ⟨m, moved, hm, rfl, hid, -, -, hg⟩ | ⟨m, hm, rfl, hg⟩ :=
          hv.nextOp_cases hnext
        · have hne : m.id ≠ id := hadds _ hop rfl
          exact ⟨hne, by rw [Generator.find?_of_insert_of_ne hg hne.symm]; exact h⟩
        · have hne : id ≠ moved.id := hid ▸ hother m hm
          exact ⟨hne.symm, by rw [Generator.find?_of_insert_of_ne hg hne]; exact h⟩
        · have hne := hother m hm
          exact ⟨hne.symm, by rw [Generator.find?_of_erase_of_ne hg hne]; exact h⟩
      refine ⟨fun picked hmem => ?_, hv.nextOp hnext, hboth.2⟩
      rw [List.mem_singleton.1 hmem]
      exact hboth.1

/-- A fleet without a marker under an id picks no operation on it, unless it adds one. -/
theorem picks_of_none {t : FleetTask ρ} (hv : t.generator.Valid) {id : String}
    (h : t.generator.find? id = none) {actions : List Action}
    (hadds : ∀ op ∈ picks t actions, op.kind = .add → op.id ≠ id) :
    ∀ op ∈ picks t actions, op.id ≠ id := by
  induction actions generalizing t with
  | nil => exact fun _ hop => absurd hop List.not_mem_nil
  | cons a rest ih =>
    obtain ⟨hfirst, hv', h'⟩ := find?_act_of_none hv h fun op hop =>
      hadds op (List.mem_append_left _ hop)
    have hrest := ih hv' h' fun op hop => hadds op (List.mem_append_right _ hop)
    intro op hop
    rcases List.mem_append.1 hop with hop | hop
    · exact hfirst op hop
    · exact hrest op hop

/-! ## A fleet at work -/

/-- Whether a marker in the registry is in the fleet's hands. -/
structure InHand (t : FleetTask ρ) (id : String) (m : Marker Float) : Prop where
  /-- The fleet has a marker with motion under this id and this name. -/
  own : ∃ own, t.generator.find? id = some own ∧ own.name = m.name ∧ own.isMoving = true
  /-- The fleet's next move of it will apply. -/
  moves : ∀ position,
    (t.hub.perform (.updateMoving id position)).1 = some (.update id m.name position)
  /-- The fleet's removal of it will apply. -/
  leaves : (t.hub.perform (.deleteMoving id)).1 = some (.delete id)

/-- What holds of a fleet at work at any moment. -/
structure Upkeep (t : FleetTask ρ) : Prop where
  /-- Between steps every marker with motion in the registry is in the fleet's hands. -/
  manned : t.pending = none →
    ∀ id m, t.hub.registry.find? id = some m → m.isMoving = true → t.InHand id m
  /-- A move or a removal that does not apply changes nothing in the hub, and leaves the fleet
  without the marker. -/
  forgets : ∀ op, t.pending = some op → op.kind ≠ .add → t.applied? = none →
    (t.act .apply).hub = t.hub ∧ (t.act .apply).generator.find? op.id = none
  /-- After that the fleet picks no operation on this id, until it adds a marker under it. -/
  silent : ∀ op, t.pending = some op → op.kind ≠ .add → t.applied? = none → ∀ later,
    (∀ next ∈ picks (t.act .apply) later, next.kind = .add → next.id ≠ op.id) →
      ∀ next ∈ picks (t.act .apply) later, next.id ≠ op.id

/-- What is in step is kept up. -/
theorem Manned.upkeep {t : FleetTask ρ} (h : t.Manned) : t.Upkeep := by
  have hforgets : ∀ op, t.pending = some op → t.applied? = none →
      (t.act .apply).generator.find? op.id = none := by
    intro op hp hstale
    show t.applyPending.generator.find? op.id = none
    rw [(applyPending_of_pending hp).2, hstale]
    exact h.fleet.find?_of_erase (t.generator.markers_forget op.id)
  constructor
  case manned =>
    intro hnone id m hm hmoving
    have hahead : ¬t.Ahead id := by
      rintro ⟨op, hop, -⟩
      rw [hnone] at hop
      cases hop
    obtain ⟨own, hown, hname⟩ := h.owned id m hm hmoving hahead
    have hfiltered : (t.hub.registry.find? id).filter Marker.isMoving = some m := by
      rw [hm, Option.filter_some_pos hmoving]
    refine ⟨⟨own, hown, hname, h.fleet.moving id own hown⟩, fun position => ?_, ?_⟩
    · rw [Hub.perform_fst, h.hub.registry.commit_fst, Mutation.outcome, hfiltered,
        Option.map_some]
    · rw [Hub.perform_fst, h.hub.registry.commit_fst, Mutation.outcome, hfiltered,
        Option.map_some]
  case forgets =>
    intro op hp _ hstale
    exact ⟨hub_applyPending_of_stale h.hub hstale, hforgets op hp hstale⟩
  case silent =>
    intro op hp _ hstale later
    exact picks_of_none (valid_generator_applyPending h.fleet) (hforgets op hp hstale)

/-- For every fleet that can be made, all draws, and every hub in use whose registry is empty at
first: however calls and the halves of the fleet's steps take turns, no marker with motion is
orphaned, and the fleet lets go of what it cannot reach. -/
theorem fleet_orphans_nothing (capacity : Nat) (history : List Hub.Action) {g : Generator ρ}
    (hg : g.Reachable) (hempty : ((Hub.create capacity).run history).registry = .empty)
    (actions : List Action) :
    ((start ((Hub.create capacity).run history) g).run actions).Upkeep := by
  have hvalid : ((Hub.create capacity).run history).Valid :=
    (Hub.valid_create capacity).run history
  have hstart : (start ((Hub.create capacity).run history) g).Manned :=
    manned_start hvalid hempty hg.valid
  exact (hstart.run actions).upkeep

/-- Seven words that are read over and over. -/
def sevenDraws : Tape := .ofList [0x11, 0x22, 0x33, 0x44, 0xE4000000, 0x55, 0x66]

/-- A fleet of three, made from given draws, has picked the removal of a marker when a client
replaces the marker. The two others stay in its hands, and it lets go of the one that it lost. -/
theorem fleet_orphans_nothing_after_replacement :
    ∃ g : Generator Tape, g.Reachable ∧ ((Hub.create 4).run []).registry = .empty ∧
      let c := RpcCall.add "11223344" "A" ⟨1, 2⟩
      let t := (start ((Hub.create 4).run []) g).run [.choose, .call c]
      t.pending.map MarkerOp.kind = some .delete ∧ t.pending.map MarkerOp.id = some c.id ∧
        t.applied?.isNone = true ∧ t.hub.registry.size = 3 ∧ t.Upkeep := by
  have hfacts : ((Generator.create 3 .standard sevenDraws).toOption.map fun g =>
      let t := (start ((Hub.create 4).run []) g).run
        [.choose, .call (.add "11223344" "A" ⟨1, 2⟩)]
      (t.pending.map MarkerOp.kind, t.pending.map MarkerOp.id, t.applied?.isNone,
        t.hub.registry.size)) = some (some .delete, some "11223344", true, 3) := by decide +kernel
  obtain ⟨g, hmade, hg⟩ := Option.map_eq_some_iff.1 hfacts
  have hcreated : Generator.create 3 .standard sevenDraws = .ok g := by
    cases hc : Generator.create 3 .standard sevenDraws with
    | error fault =>
      rw [hc] at hmade
      cases hmade
    | ok made =>
      rw [hc] at hmade
      cases hmade
      rfl
  injection hg with hkind hrest
  injection hrest with hid hrest
  injection hrest with hstale hsize
  exact ⟨g, .create hcreated, rfl, hkind, hid, hstale, hsize,
    fleet_orphans_nothing 4 [] (.create hcreated) rfl _⟩

end FleetTask

end LiveMap
