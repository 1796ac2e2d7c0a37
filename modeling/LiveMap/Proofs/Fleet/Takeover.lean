import LiveMap.Fleet.Shared
import LiveMap.Proofs.Failable
import LiveMap.Proofs.Hub.Run
import LiveMap.Random.Tape
import LiveMap.Random.Uniform

/-!
# What a client takes over is out of the fleet's reach

A fleet drives the shared registry in two halves: it picks an operation, and later it applies the
operation. Clients change the registry before, between and after the halves, so an operation may be
stale when it is applied. A client that adds or deletes an id takes it over: the entry under the id
is then a marker without motion, or there is none, and moves and removals of the fleet reach only
markers with motion.

The invariant of an id that was taken over is that no marker with motion is stored under it
(`OutOfReach`). Every call keeps it, and so does the fleet as long as it adds no marker with this
id. While it holds, the fleet neither changes the entry nor publishes anything about it.

Main statement: `fleet_avoids_taken_over`, for every fleet, all draws and every interleaving.
-/

namespace LiveMap

variable {ρ : Type}

/-! ## Calls -/

/-- What an RPC client asks of the registry. -/
inductive RpcCall where
  /-- Put a marker in place, without motion. -/
  | add (id name : String) (position : LatLng Float)
  /-- Move a marker. -/
  | update (id : String) (position : LatLng Float)
  /-- Remove a marker. -/
  | delete (id : String)

namespace RpcCall

/-- The mutation that a call performs. -/
def mutation : RpcCall → Mutation
  | add id name position => .add { id, name, position }
  | update id position => .update id position
  | delete id => .delete id

/-- The id that a call names. -/
def id (c : RpcCall) : String := c.mutation.id

/-- Whether a call takes its id over. -/
def takesOver : RpcCall → Bool
  | add .. | delete _ => true
  | update .. => false

/-- A call leaves no motion under its id where there was none. -/
theorem still_entry (c : RpcCall) {stored : Option (Marker Float)}
    (hstill : ∀ m, stored = some m → m.isMoving = false) {m : Marker Float}
    (h : c.mutation.entry stored = some m) : m.isMoving = false := by
  cases c with
  | add id name position =>
    cases h
    rfl
  | update id position =>
    obtain ⟨old, hold, rfl⟩ := Option.map_eq_some_iff.1 h
    exact hstill old hold
  | delete id => cases h

/-- A call that takes its id over leaves no motion under it. -/
theorem still_entry_of_takesOver {c : RpcCall} (htakes : c.takesOver = true)
    {stored : Option (Marker Float)} {m : Marker Float}
    (h : c.mutation.entry stored = some m) : m.isMoving = false := by
  cases c with
  | add id name position =>
    cases h
    rfl
  | update id position => cases htakes
  | delete id => cases h

end RpcCall

/-! ## A fleet at work -/

/-- A fleet that drives the registry of a hub. -/
structure FleetTask (ρ : Type) where
  /-- The hub. -/
  hub : Hub
  /-- The fleet. -/
  generator : Generator ρ
  /-- The operation that is picked and not yet applied. -/
  pending : Option MarkerOp

namespace FleetTask

/-- What happens while a fleet is at work. -/
inductive Action where
  /-- A client calls. -/
  | call (c : RpcCall)
  /-- The fleet picks its next operation. -/
  | choose
  /-- The fleet applies the operation that it picked. -/
  | apply

/-- Whether an action is a client's. -/
def Action.isCall : Action → Bool
  | call _ => true
  | choose | apply => false

/-- A fleet that has put its markers into the registry. -/
def start (hub : Hub) (g : Generator ρ) : FleetTask ρ := ⟨hub.seedFleet g, g, none⟩

/-- The mutation that the pending operation would be applied by now. -/
def upcoming? (t : FleetTask ρ) : Option Mutation :=
  t.pending.bind (Hub.mutationOf? t.generator)

/-- The fleet applies the pending operation, if there is one. -/
def applyPending (t : FleetTask ρ) : FleetTask ρ :=
  match t.pending with
  | some op =>
    let (hub, generator) := t.hub.applyFleetOp t.generator op
    ⟨hub, generator, none⟩
  | none => t

/-- Applying the pending operation performs its mutation, if there still is one. -/
theorem hub_applyPending (t : FleetTask ρ) :
    t.applyPending.hub =
      match t.upcoming? with
      | some mutation => (t.hub.perform mutation).2
      | none => t.hub := by
  unfold applyPending upcoming?
  cases t.pending with
  | none => rfl
  | some op =>
    show (t.hub.applyFleetOp t.generator op).1 = _
    unfold Hub.applyFleetOp
    rw [Option.bind_some]
    cases Hub.mutationOf? t.generator op with
    | none => rfl
    | some mutation =>
      show _ = (t.hub.perform mutation).2
      rw [Option.map_some]
      cases t.hub.perform mutation with
      | mk announced hub => cases announced <;> rfl

section

variable [FleetDraws ρ]

/-- The fleet picks its next operation, unless one is pending. Where a draw has no result, nothing
is picked. -/
def choose (t : FleetTask ρ) : FleetTask ρ :=
  match t.pending, t.generator.nextOp with
  | none, .ok (op, generator) => { t with generator, pending := some op }
  | _, _ => t

/-- What an action leads to. -/
def act (t : FleetTask ρ) : Action → FleetTask ρ
  | .call c => { t with hub := (t.hub.perform c.mutation).2 }
  | .choose => t.choose
  | .apply => t.applyPending

/-- What some actions in turn lead to. -/
def run (t : FleetTask ρ) (actions : List Action) : FleetTask ρ := actions.foldl act t

@[simp] theorem run_nil (t : FleetTask ρ) : t.run [] = t := rfl

@[simp] theorem run_cons (t : FleetTask ρ) (a : Action) (rest : List Action) :
    t.run (a :: rest) = (t.act a).run rest := rfl

theorem run_append (t : FleetTask ρ) (first second : List Action) :
    t.run (first ++ second) = (t.run first).run second := List.foldl_append

/-- A step of a fleet is both halves in turn. -/
theorem run_choose_apply {t : FleetTask ρ} (hnone : t.pending = none) {hub' : Hub}
    {g' : Generator ρ} (h : t.hub.fleetStep t.generator = .ok (hub', g')) :
    t.run [.choose, .apply] = ⟨hub', g', none⟩ := by
  obtain ⟨hub, g, pending⟩ := t
  cases hnone
  obtain ⟨⟨op, picked⟩, hop, h⟩ := exists_of_bind_eq_ok h
  have hchosen : (⟨hub, g, none⟩ : FleetTask ρ).choose = ⟨hub, picked, some op⟩ := by
    unfold choose
    dsimp only
    rw [hop]
  have happlied : (⟨hub, picked, some op⟩ : FleetTask ρ).applyPending = ⟨hub', g', none⟩ := by
    have hdone : hub.applyFleetOp picked op = (hub', g') := Except.ok.inj h
    unfold applyPending
    dsimp only
    rw [hdone]
  rw [run_cons, act, hchosen, run_cons, act, happlied, run_nil]

/-- Picking does nothing to the hub. -/
theorem hub_choose (t : FleetTask ρ) : t.choose.hub = t.hub := by
  unfold choose
  split <;> rfl

end

end FleetTask

/-! ## Leaving an id alone -/

namespace Hub

/-- Whether a hub changes without a trace of an id: the entry under the id stays, and all that is
published are operations about other ids. -/
structure Avoids (id : String) (before after : Hub) : Prop where
  /-- The entry stays. -/
  entry : after.registry.find? id = before.registry.find? id
  /-- What is published, to views and to listeners, is about other ids. -/
  published : ∃ ops : List MarkerOp, (∀ op ∈ ops, op.id ≠ id) ∧
    after.ops = before.ops.run (ops.map .publish) ∧
    after.events = before.events.run (ops.map fun op => .publish (.markerOp (.ofOp op)))

theorem Avoids.refl (id : String) (hub : Hub) : hub.Avoids id hub :=
  ⟨rfl, [], fun _ hop => absurd hop List.not_mem_nil, rfl, rfl⟩

/-- A mutation leaves an id alone if it is about another id or has nothing to act on. -/
theorem Valid.avoids_perform {hub : Hub} (hv : hub.Valid) {mutation : Mutation} {id : String}
    (h : mutation.id = id → mutation.outcome hub.registry = none) :
    hub.Avoids id (hub.perform mutation).2 := by
  by_cases hid : mutation.id = id
  · rw [hv.perform_of_outcome_none (h hid)]
    exact .refl id hub
  · refine ⟨?_, (hub.perform mutation).1.toList, ?_, hub.ops_perform mutation,
      hub.events_perform mutation⟩
    · rw [registry_perform]
      exact hv.registry.find?_commit_of_ne (Ne.symm hid)
    · intro op hop
      have hyield : (hub.registry.commit mutation).1 = some op := by
        rw [← perform_fst]
        exact Option.mem_toList.1 hop
      rw [hv.registry.id_of_commit hyield]
      exact hid

/-- Putting a fleet's markers into the registry keeps a hub valid. -/
theorem Valid.seedFleet {hub : Hub} (hv : hub.Valid) (g : Generator ρ) :
    (hub.seedFleet g).Valid := by
  unfold Hub.seedFleet
  induction g.snapshot generalizing hub with
  | nil => exact hv
  | cons m markers ih => exact ih (hv.perform (.add m))

end Hub

namespace FleetTask

/-- Whether an id is out of the fleet's reach: no marker with motion is stored under it. -/
structure OutOfReach (id : String) (t : FleetTask ρ) : Prop where
  /-- The hub is valid. -/
  hub : t.hub.Valid
  /-- The marker under the id, if there is one, has no motion. -/
  still : ∀ m, t.hub.registry.find? id = some m → m.isMoving = false

/-- The pending operation leaves an id alone that is out of reach, unless it adds a marker under
it. -/
theorem OutOfReach.avoids_applyPending {id : String} {t : FleetTask ρ} (h : t.OutOfReach id)
    (hother : ∀ m, t.upcoming? = some (.add m) → m.id ≠ id) :
    t.hub.Avoids id t.applyPending.hub := by
  rw [hub_applyPending]
  have hstill : (t.hub.registry.find? id).filter Marker.isMoving = none := by
    refine Option.filter_eq_none_iff.2 fun m hm => ?_
    rw [h.still m hm]
    exact Bool.false_ne_true
  cases hup : t.upcoming? with
  | none => exact .refl id t.hub
  | some mutation =>
    -- A mutation about this id is a move or a removal of a marker with motion, and there is none.
    refine h.hub.avoids_perform fun hid => ?_
    obtain ⟨op, -, hop⟩ := Option.bind_eq_some_iff.1 hup
    cases op with
    | add i name position =>
      obtain ⟨m, -, rfl⟩ := Option.map_eq_some_iff.1 hop
      exact absurd hid (hother m hup)
    | update i name position =>
      cases hop
      have hi : i = id := hid
      rw [Mutation.outcome, hi, hstill, Option.map_none]
    | delete i =>
      cases hop
      have hi : i = id := hid
      rw [Mutation.outcome, hi, hstill, Option.map_none]

variable [FleetDraws ρ]

/-- What the fleet does leaves an id alone that is out of reach, unless it adds a marker under
it. -/
theorem OutOfReach.avoids_act {id : String} {t : FleetTask ρ} (h : t.OutOfReach id) {a : Action}
    (hfleet : a.isCall = false)
    (hother : a = .apply → ∀ m, t.upcoming? = some (.add m) → m.id ≠ id) :
    t.hub.Avoids id (t.act a).hub := by
  cases a with
  | call c => cases hfleet
  | choose =>
    rw [act, hub_choose]
    exact .refl id t.hub
  | apply => exact h.avoids_applyPending (hother rfl)

/-- Every action keeps a hub valid. -/
theorem valid_act {t : FleetTask ρ} (hv : t.hub.Valid) (a : Action) : (t.act a).hub.Valid := by
  cases a with
  | call c => exact hv.perform c.mutation
  | choose =>
    rw [act, hub_choose]
    exact hv
  | apply =>
    rw [act, hub_applyPending]
    cases t.upcoming? with
    | none => exact hv
    | some mutation => exact hv.perform mutation

/-- Every run keeps a hub valid. -/
theorem valid_run {t : FleetTask ρ} (hv : t.hub.Valid) (actions : List Action) :
    (t.run actions).hub.Valid := by
  induction actions generalizing t with
  | nil => exact hv
  | cons a rest ih => exact ih (valid_act hv a)

/-- The entry under the id of a call, after the call. -/
theorem find?_call_self {t : FleetTask ρ} (hv : t.hub.Valid) (c : RpcCall) :
    (t.act (.call c)).hub.registry.find? c.id = c.mutation.entry (t.hub.registry.find? c.id) := by
  rw [act, Hub.registry_perform]
  exact hv.registry.find?_commit_self c.mutation

/-- A call does nothing to the entries under other ids. -/
theorem find?_call_of_ne {t : FleetTask ρ} (hv : t.hub.Valid) {c : RpcCall} {id : String}
    (h : id ≠ c.id) : (t.act (.call c)).hub.registry.find? id = t.hub.registry.find? id := by
  rw [act, Hub.registry_perform]
  exact hv.registry.find?_commit_of_ne h

/-- A call that takes its id over puts it out of reach. -/
theorem outOfReach_of_takesOver {t : FleetTask ρ} (hv : t.hub.Valid) {c : RpcCall}
    (htakes : c.takesOver = true) : (t.act (.call c)).OutOfReach c.id where
  hub := valid_act hv (.call c)
  still m hm := by
    rw [find?_call_self hv] at hm
    exact RpcCall.still_entry_of_takesOver htakes hm

/-- What is out of reach stays so, unless the fleet adds a marker under the id. -/
theorem OutOfReach.act {id : String} {t : FleetTask ρ} (h : t.OutOfReach id) {a : Action}
    (hother : a = .apply → ∀ m, t.upcoming? = some (.add m) → m.id ≠ id) :
    (t.act a).OutOfReach id where
  hub := valid_act h.hub a
  still m hm := by
    cases hcall : a.isCall with
    | false =>
      have hstays := (h.avoids_act hcall hother).entry
      rw [hstays] at hm
      exact h.still m hm
    | true =>
      -- A call gives no motion to an entry, whether it is about this id or not.
      cases a with
      | choose => cases hcall
      | apply => cases hcall
      | call c =>
        by_cases hid : id = c.id
        · subst hid
          rw [find?_call_self h.hub] at hm
          exact c.still_entry h.still hm
        · rw [find?_call_of_ne h.hub hid] at hm
          exact h.still m hm

/-! ## Runs -/

/-- Whether the fleet adds no marker under an id in the course of a run. -/
def AddsOther (id : String) (t : FleetTask ρ) (actions : List Action) : Prop :=
  ∀ early late m, actions = early ++ .apply :: late →
    (t.run early).upcoming? = some (.add m) → m.id ≠ id

theorem AddsOther.head {id : String} {t : FleetTask ρ} {a : Action} {rest : List Action}
    (h : AddsOther id t (a :: rest)) :
    a = .apply → ∀ m, t.upcoming? = some (.add m) → m.id ≠ id := by
  rintro rfl m hm
  exact h [] rest m rfl hm

theorem AddsOther.tail {id : String} {t : FleetTask ρ} {a : Action} {rest : List Action}
    (h : AddsOther id t (a :: rest)) : AddsOther id (t.act a) rest := by
  intro early late m hsplit hm
  refine h (a :: early) late m ?_ hm
  rw [hsplit, List.cons_append]

theorem AddsOther.initial {id : String} {t : FleetTask ρ} {early late : List Action}
    (h : AddsOther id t (early ++ late)) : AddsOther id t early := by
  intro first second m hsplit hm
  refine h first (second ++ late) m ?_ hm
  rw [hsplit, List.append_assoc, List.cons_append]

/-- What is out of reach is so throughout a run in which the fleet adds no marker under the id; and
at each of its turns the fleet leaves the id alone. -/
theorem OutOfReach.avoids_run {id : String} {t : FleetTask ρ} (h : t.OutOfReach id)
    {early late : List Action} {a : Action} (hother : AddsOther id t (early ++ a :: late))
    (hfleet : a.isCall = false) : (t.run early).hub.Avoids id ((t.run early).act a).hub := by
  induction early generalizing t with
  | nil => exact h.avoids_act hfleet hother.head
  | cons b early ih => exact ih (h.act hother.head) hother.tail

/-- The entry under an id that is out of reach is what the calls alone make of it, even if they
start from another registry that has the same entry. -/
theorem OutOfReach.entry_run {id : String} {t u : FleetTask ρ} (h : t.OutOfReach id)
    (hu : u.hub.Valid) (hsame : u.hub.registry.find? id = t.hub.registry.find? id)
    {actions : List Action} (hother : AddsOther id t actions) :
    (t.run actions).hub.registry.find? id =
      (u.run (actions.filter Action.isCall)).hub.registry.find? id := by
  induction actions generalizing t u with
  | nil => exact hsame.symm
  | cons a rest ih =>
    have hnext := h.act hother.head
    cases hcall : a.isCall with
    | false =>
      -- The fleet's turn is missing from the other run, and leaves the entry alone in this one.
      have hskip : (a :: rest).filter Action.isCall = rest.filter Action.isCall :=
        List.filter_cons_of_neg (Bool.eq_false_iff.1 hcall)
      have hstays := (h.avoids_act hcall hother.head).entry
      rw [hskip, run_cons]
      exact ih hnext hu (hsame.trans hstays.symm) hother.tail
    | true =>
      -- A call makes the same of the same entry in both runs.
      have hboth : (u.act a).hub.registry.find? id = (t.act a).hub.registry.find? id := by
        cases a with
        | choose => cases hcall
        | apply => cases hcall
        | call c =>
          by_cases hid : id = c.id
          · subst hid
            rw [find?_call_self hu, find?_call_self h.hub, hsame]
          · rw [find?_call_of_ne hu hid, find?_call_of_ne h.hub hid, hsame]
      rw [List.filter_cons_of_pos hcall, run_cons, run_cons]
      exact ih hnext (valid_act hu a) hboth hother.tail

/-- What holds of an id from the moment at which a client has taken it over. -/
structure TakenOver (id : String) (t : FleetTask ρ) (later : List Action) : Prop where
  /-- At each of its turns the fleet leaves the id alone. -/
  avoided : ∀ early a late, later = early ++ a :: late → a.isCall = false →
    (t.run early).hub.Avoids id ((t.run early).act a).hub
  /-- So does a whole step of the fleet, which is two turns of it. -/
  steps : ∀ early late hub' g', later = early ++ .choose :: .apply :: late →
    (t.run early).pending = none →
    (t.run early).hub.fleetStep (t.run early).generator = .ok (hub', g') →
      t.run (early ++ [.choose, .apply]) = ⟨hub', g', none⟩ ∧ (t.run early).hub.Avoids id hub'
  /-- The entry under the id is what the calls alone make of it. -/
  entry : ∀ early late, later = early ++ late →
    (t.run early).hub.registry.find? id =
      (t.run (early.filter Action.isCall)).hub.registry.find? id

/-- Whether the fleet adds no marker under an id that a call named before. -/
def AddsUnnamed (t : FleetTask ρ) (actions : List Action) : Prop :=
  ∀ early late m, actions = early ++ .apply :: late →
    (t.run early).upcoming? = some (.add m) → ∀ c, .call c ∈ early → c.id ≠ m.id

/-- A fleet that adds only under ids that no call named before adds none under the id of a call that
is over. -/
theorem AddsUnnamed.addsOther {t : FleetTask ρ} {before later : List Action} {c : RpcCall}
    (h : AddsUnnamed t (before ++ .call c :: later)) :
    AddsOther c.id ((t.run before).act (.call c)) later := by
  intro early late m hsplit hm
  have hwhole : before ++ .call c :: later = (before ++ .call c :: early) ++ .apply :: late := by
    rw [hsplit, List.append_assoc, List.cons_append]
  have hadds : (t.run (before ++ .call c :: early)).upcoming? = some (.add m) := by
    rw [run_append, run_cons]
    exact hm
  have hnamed : .call c ∈ before ++ .call c :: early :=
    List.mem_append_right before List.mem_cons_self
  exact Ne.symm (h _ late m hwhole hadds c hnamed)

/-- A step of a fleet leaves an id alone if its second half does. -/
theorem avoids_of_apply {t : FleetTask ρ} (hnone : t.pending = none) {id : String} {hub' : Hub}
    {g' : Generator ρ} (h : t.hub.fleetStep t.generator = .ok (hub', g'))
    (happly : (t.act .choose).hub.Avoids id ((t.act .choose).act .apply).hub) :
    t.hub.Avoids id hub' := by
  have hwhole : (t.act .choose).act .apply = ⟨hub', g', none⟩ := run_choose_apply hnone h
  rwa [hwhole, act, hub_choose] at happly

/-- A call that takes its id over does so for good, on any hub that is valid. -/
theorem takenOver_of_takesOver {t : FleetTask ρ} (hv : t.hub.Valid) {before later : List Action}
    {c : RpcCall} (htakes : c.takesOver = true)
    (hadds : AddsUnnamed t (before ++ .call c :: later)) :
    TakenOver c.id ((t.run before).act (.call c)) later := by
  have hout : ((t.run before).act (.call c)).OutOfReach c.id :=
    outOfReach_of_takesOver (valid_run hv before) htakes
  have hother : AddsOther c.id ((t.run before).act (.call c)) later := hadds.addsOther
  have havoided : ∀ early a late, later = early ++ a :: late → a.isCall = false →
      (((t.run before).act (.call c)).run early).hub.Avoids c.id
        ((((t.run before).act (.call c)).run early).act a).hub := by
    intro early a late hsplit hfleet
    rw [hsplit] at hother
    exact hout.avoids_run hother hfleet
  constructor
  case avoided => exact havoided
  case steps =>
    intro early late hub' g' hsplit hnone hstep
    have happly := havoided (early ++ [.choose]) .apply late (by rw [hsplit]; simp) rfl
    rw [run_append] at happly ⊢
    exact ⟨run_choose_apply hnone hstep, avoids_of_apply hnone hstep happly⟩
  case entry =>
    intro early late hsplit
    rw [hsplit] at hother
    exact hout.entry_run hout.hub rfl hother.initial

/-- Over any hub in use, for every fleet and all draws in which the fleet adds no marker under an id
that a call named before: however calls and the halves of the fleet's steps take turns, the fleet
leaves an id alone once a call has added or deleted it. -/
theorem fleet_avoids_taken_over (capacity : Nat) (history : List Hub.Action) (g : Generator ρ)
    (before later : List Action) (c : RpcCall) (htakes : c.takesOver = true)
    (hadds : AddsUnnamed (start ((Hub.create capacity).run history) g)
      (before ++ .call c :: later)) :
    TakenOver c.id (((start ((Hub.create capacity).run history) g).run before).act (.call c))
      later := by
  have hvalid : ((Hub.create capacity).run history).Valid :=
    (Hub.valid_create capacity).run history
  have hseeded : (start ((Hub.create capacity).run history) g).hub.Valid := hvalid.seedFleet g
  exact takenOver_of_takesOver hseeded htakes hadds

/-- A fleet of three whose first draws pick the removal of the first. -/
def trio : Generator Tape where
  markers := ["a", "b", "c"].map fun id =>
    (id, { id, name := id, position := ⟨0, 0⟩, motion := some ⟨0, 1⟩ })
  usedNames := ∅
  counter := 3
  tuning := .standard
  source := .ofList [0xE4000000, 0]

/-- A fleet has picked the removal of a marker with motion when a client replaces the marker. The
removal is applied after that, and leaves the client's marker alone. -/
theorem fleet_avoids_taken_over_stale_removal :
    let t := (start ((Hub.create 4).run []) trio).run [.choose]
    let c := RpcCall.add "a" "A" ⟨1, 2⟩
    t.pending = some (.delete "a") ∧ (t.hub.registry.find? "a").map Marker.isMoving = some true ∧
      c.takesOver = true ∧
      AddsUnnamed (start ((Hub.create 4).run []) trio) ([.choose] ++ .call c :: [.apply]) ∧
      TakenOver c.id (t.act (.call c)) [.apply] := by
  have hadds : AddsUnnamed (start ((Hub.create 4).run []) trio)
      ([.choose] ++ .call (.add "a" "A" ⟨1, 2⟩) :: [.apply]) := by
    intro early late m hsplit hm
    rcases early with _ | ⟨first, _ | ⟨second, _ | ⟨third, early⟩⟩⟩
    · cases hsplit
    · cases hsplit
    · cases hsplit
      -- What is pending at the only application is a removal.
      have hremoves : ((start ((Hub.create 4).run []) trio).run
          [.choose, .call (.add "a" "A" ⟨1, 2⟩)]).upcoming? = some (.deleteMoving "a") := rfl
      rw [hremoves] at hm
      cases hm
    · simp at hsplit
  exact ⟨rfl, rfl, rfl, hadds, fleet_avoids_taken_over 4 [] trio [.choose] [.apply] _ rfl hadds⟩

end FleetTask

end LiveMap
