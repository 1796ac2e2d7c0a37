import LiveMap.Proofs.Session.Tick
import LiveMap.Random.Tape
import LiveMap.Random.Uniform
import Mathlib.Logic.Relation

/-!
# A view that joins late shows what the registry shows

Many writers share one registry. A mutation changes the map, reports the change to the listeners,
announces it to the views and then releases the lock of the registry. A first look waits for the
lock and a subscription does not, so a view may subscribe between any two of these steps, and look
at any time after that.

A scene is a hub, how far the mutation is that holds the lock, one watched view, and what a client
of that view shows. `Scene.Step` lists all that can happen next. What is due to a view is what is
queued for it, followed by the operation that the holder of the lock has yet to announce. The
invariant is that what is due turns the client's chart into the chart of the registry, and that it
so turns some chart, even before there is a client. By the latter a first look, which may already
contain what is due, is not spoilt by applying it once more.

Main statement: `client_catches_up`, for every scene that can be reached from a new hub.
-/

namespace LiveMap

open Relation (ReflTransGen)
open Channel (received published)

variable {ρ : Type}

/-- How far the mutation is that holds the lock of the registry. -/
inductive Holding where
  /-- The map is changed, and nobody knows. -/
  | changed (op : MarkerOp)
  /-- The listeners know, and the views do not. -/
  | reported (op : MarkerOp)
  /-- There is nothing left to tell. -/
  | settled

/-- The operation that the holder of the lock has yet to announce to the views. -/
def Holding.untold : Holding → List MarkerOp
  | changed op | reported op => [op]
  | settled => []

/-- How a mutation holds the lock at first, given its operation. -/
def Holding.ofCommit : Option MarkerOp → Holding
  | some op => changed op
  | none => settled

/-- The watched view. -/
inductive Watch (ρ : Type) where
  /-- It does not exist yet. -/
  | absent
  /-- It has a source and no session. -/
  | attached (source : Source ρ)
  /-- It has a session. -/
  | mounted (s : Session ρ)

/-- The subscription to the operations that the watched view holds. -/
def Watch.ops? : Watch ρ → Option SubscriberId
  | absent => none
  | attached source => source.ops?
  | mounted s => s.ops?

/-- Whether an action can be somebody else's. Mutations have steps of their own, and only its holder
asks a queue for items or lets go of it. -/
def Watch.Allows (w : Watch ρ) : Hub.Action → Prop
  | .mutate _ => False
  | .listenOps (.receive id) | .listenOps (.leave id) => w.ops? ≠ some id
  | _ => True

/-- A hub in use by many, with the one view that is watched. -/
structure Scene (ρ : Type) where
  /-- The hub. -/
  hub : Hub
  /-- The mutation that holds the lock of the registry, if one does. -/
  holding : Option Holding
  /-- The watched view. -/
  watch : Watch ρ
  /-- What a client of the watched view shows, from its first look on. -/
  client : Option Chart

namespace Scene

/-- A new hub, on which nothing has happened. -/
def create (capacity : Nat) : Scene ρ := ⟨.create capacity, none, .absent, none⟩

/-- All that can happen next. -/
inductive Step [FleetDraws ρ] : Scene ρ → Scene ρ → Prop where
  /-- A mutation takes the lock and changes the map, if there is something for it to act on. -/
  | lock (σ : Scene ρ) (mutation : Mutation) (free : σ.holding = none) :
    Step σ { σ with
      hub := { σ.hub with registry := (σ.hub.registry.commit mutation).2 }
      holding := some (.ofCommit (σ.hub.registry.commit mutation).1) }
  /-- The mutation reports its operation to the listeners. -/
  | report (σ : Scene ρ) (op : MarkerOp) (held : σ.holding = some (.changed op)) :
    Step σ { σ with hub := σ.hub.announceEvent op, holding := some (.reported op) }
  /-- The mutation announces its operation to the views. -/
  | announce (σ : Scene ρ) (op : MarkerOp) (held : σ.holding = some (.reported op)) :
    Step σ { σ with hub := σ.hub.announceOp op, holding := some .settled }
  /-- The mutation releases the lock. -/
  | unlock (σ : Scene ρ) (held : σ.holding = some .settled) :
    Step σ { σ with holding := none }
  /-- A new view subscribes, and is the watched one from now on. -/
  | attach (σ : Scene ρ) :
    Step σ { σ with
      hub := (Source.attach σ.hub : Source ρ × Hub).2
      watch := .attached (Source.attach σ.hub).1
      client := none }
  /-- The view gets its session. -/
  | mount (σ : Scene ρ) (source : Source ρ) (seen : σ.watch = .attached source) :
    Step σ { σ with
      hub := (Session.mount source σ.hub).2
      watch := .mounted (Session.mount source σ.hub).1 }
  /-- A client takes a first look, once the lock is free. The markers are listed in any order. -/
  | look (σ : Scene ρ) (s : Session ρ) (listed : List (Marker Float)) (free : σ.holding = none)
      (seen : σ.watch = .mounted s) (order : listed.Perm (s.initialMarkers σ.hub)) :
    Step σ { σ with client := some (.ofMarkers listed) }
  /-- The transport of the view is up. -/
  | connect (σ : Scene ρ) (s : Session ρ) (seen : σ.watch = .mounted s) :
    Step σ { σ with watch := .mounted s.connect }
  /-- The session ticks, and the client carries out the changes. -/
  | tick (σ : Scene ρ) (s s' : Session ρ) (hub' : Hub) (deltas : List ViewDelta)
      (seen : σ.watch = .mounted s) (ticks : s.tick σ.hub = .ok (deltas, s', hub')) :
    Step σ { σ with
      hub := hub'
      watch := .mounted s'
      client := σ.client.map (·.drawAll deltas) }
  /-- The session tells the listeners what its user did. -/
  | forward (σ : Scene ρ) (s : Session ρ) (event : MapEvent) (seen : σ.watch = .mounted s) :
    Step σ { σ with hub := (s.forward event σ.hub).2 }
  /-- The session is closed. -/
  | close (σ : Scene ρ) (s : Session ρ) (reason : CloseReason) (seen : σ.watch = .mounted s) :
    Step σ { σ with
      hub := (s.close reason σ.hub).2
      watch := .mounted (s.close reason σ.hub).1 }
  /-- Somebody else does something. -/
  | other (σ : Scene ρ) (a : Hub.Action) (allowed : σ.watch.Allows a) :
    Step σ { σ with hub := σ.hub.act a }

/-- A scene that can be reached from a new hub. -/
def Reachable [FleetDraws ρ] (capacity : Nat) (σ : Scene ρ) : Prop :=
  ReflTransGen Step (create capacity) σ

/-! ## The steps of a mutation make up the mutation -/

/-- A mutation whose steps nobody interrupts performs it. -/
theorem reaches_perform [FleetDraws ρ] {σ : Scene ρ} (free : σ.holding = none)
    (mutation : Mutation) :
    ReflTransGen Step σ { σ with hub := (σ.hub.perform mutation).2 } := by
  obtain ⟨hub, holding, watch, client⟩ := σ
  have hfree : holding = none := free
  subst hfree
  have hlocked := ReflTransGen.single (Step.lock ⟨hub, none, watch, client⟩ mutation rfl)
  unfold Hub.perform
  cases hc : hub.registry.commit mutation with
  | mk op registry =>
    rw [hc] at hlocked
    cases op with
    | none => exact hlocked.tail (.unlock _ rfl)
    | some op =>
      have hannounced := (hlocked.tail (.report _ op rfl)).tail (.announce _ op rfl)
      exact hannounced.tail (.unlock _ rfl)

/-! ## What is due -/

/-- The operation that the views have yet to be told, if there is one. -/
def untold (σ : Scene ρ) : List MarkerOp := (σ.holding.map Holding.untold).getD []

/-- Nothing is untold while nobody holds the lock. -/
theorem untold_of_free {σ : Scene ρ} (free : σ.holding = none) : σ.untold = [] := by
  rw [untold, free]
  rfl

/-- While the lock is held, its holder says what is untold. -/
theorem untold_of_held {σ : Scene ρ} {holding : Holding} (held : σ.holding = some holding) :
    σ.untold = holding.untold := by
  rw [untold, held]
  rfl

/-- What is due to a subscriber: what is queued for it, then what the views have yet to be told. -/
def due (σ : Scene ρ) (id : SubscriberId) : List MarkerOp := σ.hub.ops.queued id ++ σ.untold

/-- Whether what is due to a subscriber turns a chart into what the registry shows. -/
def Tracks (σ : Scene ρ) (id : SubscriberId) (c : Chart) : Prop :=
  c.replay (σ.due id) = σ.hub.registry.chart

/-- What holds of every scene that can be reached. -/
structure Invariant (σ : Scene ρ) : Prop where
  /-- The hub is valid. -/
  hub : σ.hub.Valid
  /-- The untold operation leads to what the registry shows. -/
  untold : ∃ c : Chart, c.replay σ.untold = σ.hub.registry.chart
  /-- The view's subscription was given out. -/
  lt_nextId : ∀ id, σ.watch.ops? = some id → id < σ.hub.ops.nextId
  /-- Some chart tracks the registry. -/
  tracked : ∀ id, σ.watch.ops? = some id → σ.hub.ops.isSubscribed id = true → ∃ c, σ.Tracks id c
  /-- The client's chart tracks the registry. -/
  client : ∀ id, σ.watch.ops? = some id → σ.hub.ops.isSubscribed id = true →
    ∀ c, σ.client = some c → σ.Tracks id c

/-- Nothing has happened to a new hub. -/
theorem invariant_create (capacity : Nat) : (create capacity : Scene ρ).Invariant where
  hub := Hub.valid_create capacity
  untold := ⟨.empty, rfl⟩
  lt_nextId _ h := by cases h
  tracked _ h := by cases h
  client _ h := by cases h

/-- A chart keeps tracking the registry when the client takes in what its subscriber receives, the
announced operations are those that were untold before, and the registry changes by those that are
untold afterwards. -/
theorem Tracks.of_run {σ σ' : Scene ρ} (hi : σ.Invariant)
    {actions : List (Channel.Action MarkerOp)} {changes : List MarkerOp}
    (hops : σ'.hub.ops = σ.hub.ops.run actions)
    (huntold : published actions ++ σ'.untold = σ.untold ++ changes)
    (hchart : σ'.hub.registry.chart = σ.hub.registry.chart.replay changes)
    {id : SubscriberId} (hid : σ.watch.ops? = some id)
    (hlive : σ'.hub.ops.isSubscribed id = true) {c : Chart} (ht : σ.Tracks id c) :
    σ'.Tracks id (c.replay (received id σ.hub.ops actions)) := by
  rw [hops] at hlive
  -- The law of the channel, for a subscriber that is still live.
  have hlaw : received id σ.hub.ops actions ++ σ'.hub.ops.queued id =
      σ.hub.ops.queued id ++ published actions := by
    rw [hops]
    exact Channel.received_append_queued_of_live hi.hub.ops (hi.lt_nextId id hid) hlive
  -- What is taken in and what is due then are what was due before and what has changed.
  have hdue : received id σ.hub.ops actions ++ σ'.due id = σ.due id ++ changes := by
    calc received id σ.hub.ops actions ++ σ'.due id
        = σ.hub.ops.queued id ++ (published actions ++ σ'.untold) := by
          rw [due, ← List.append_assoc, hlaw, List.append_assoc]
      _ = σ.due id ++ changes := by
          rw [huntold, due, List.append_assoc]
  unfold Tracks at ht ⊢
  rw [← Chart.replay_append, hdue, Chart.replay_append, ht, hchart]

/-- The invariant is kept by all that runs the channel of operations, lets the client take in what
its subscriber receives, announces what was untold and leaves untold what changes the registry. -/
theorem Invariant.of_run {σ σ' : Scene ρ} (hi : σ.Invariant) (hhub : σ'.hub.Valid)
    (actions : List (Channel.Action MarkerOp)) (changes : List MarkerOp)
    (hops : σ'.hub.ops = σ.hub.ops.run actions)
    (huntold : published actions ++ σ'.untold = σ.untold ++ changes)
    (hchart : σ'.hub.registry.chart = σ.hub.registry.chart.replay changes)
    (hwatch : ∀ id, σ'.watch.ops? = some id → σ.watch.ops? = some id ∧
      σ'.client = σ.client.map (·.replay (received id σ.hub.ops actions))) : σ'.Invariant := by
  have hbefore : ∀ id, σ'.watch.ops? = some id → σ'.hub.ops.isSubscribed id = true →
      σ.hub.ops.isSubscribed id = true := by
    intro id hid hlive
    rw [hops] at hlive
    exact Channel.isSubscribed_of_run (hi.lt_nextId id (hwatch id hid).1) hlive
  constructor
  case hub => exact hhub
  case untold =>
    obtain ⟨c, hc⟩ := hi.untold
    refine ⟨c.replay (published actions), ?_⟩
    calc (c.replay (published actions)).replay σ'.untold
        = c.replay (σ.untold ++ changes) := by rw [← Chart.replay_append, huntold]
      _ = σ'.hub.registry.chart := by rw [Chart.replay_append, hc, hchart]
  case lt_nextId =>
    intro id hid
    have hlt := hi.lt_nextId id (hwatch id hid).1
    rw [hops]
    exact Nat.lt_of_lt_of_le hlt (Channel.nextId_le_run _ actions)
  case tracked =>
    intro id hid hlive
    have hheld := (hwatch id hid).1
    obtain ⟨c, hc⟩ := hi.tracked id hheld (hbefore id hid hlive)
    exact ⟨_, hc.of_run hi hops huntold hchart hheld hlive⟩
  case client =>
    intro id hid hlive c hc
    obtain ⟨hheld, hclient⟩ := hwatch id hid
    rw [hclient] at hc
    obtain ⟨old, hold, rfl⟩ := Option.map_eq_some_iff.1 hc
    have hlast := hi.client id hheld (hbefore id hid hlive) old hold
    exact hlast.of_run hi hops huntold hchart hheld hlive

/-- The invariant is kept by all that the channel of operations, the registry, the mutation that
holds the lock and the client take no notice of. -/
theorem Invariant.of_spares {σ σ' : Scene ρ} (hi : σ.Invariant) (hspares : σ.hub.Spares σ'.hub)
    (hops : σ'.hub.ops = σ.hub.ops) (huntold : σ'.untold = σ.untold)
    (hclient : σ'.client = σ.client)
    (hwatch : ∀ id, σ'.watch.ops? = some id → σ.watch.ops? = some id) : σ'.Invariant := by
  refine hi.of_run (hspares.valid hi.hub) [] [] hops ?_ ?_ fun id hid => ⟨hwatch id hid, ?_⟩
  · rw [huntold, List.append_nil]
    rfl
  · rw [hspares.registry, Chart.replay_nil]
  · rw [hclient]
    exact Option.map_id'.symm

/-- Without a subscription of the watched view there is little to keep. -/
theorem Invariant.of_unwatched {σ σ' : Scene ρ} (hi : σ.Invariant)
    (hspares : σ.hub.Spares σ'.hub) (huntold : σ'.untold = σ.untold)
    (hnone : σ'.watch.ops? = none) : σ'.Invariant where
  hub := hspares.valid hi.hub
  untold := by
    rw [huntold, hspares.registry]
    exact hi.untold
  lt_nextId id hid := by
    rw [hnone] at hid
    cases hid
  tracked id hid := by
    rw [hnone] at hid
    cases hid
  client id hid := by
    rw [hnone] at hid
    cases hid

/-! ## The steps keep the invariant -/

/-- Taking the lock: the operation of the mutation is untold, and it changes the registry. -/
theorem Invariant.lock {σ : Scene ρ} (hi : σ.Invariant) (mutation : Mutation)
    (free : σ.holding = none) :
    Invariant { σ with
      hub := { σ.hub with registry := (σ.hub.registry.commit mutation).2 }
      holding := some (.ofCommit (σ.hub.registry.commit mutation).1) } := by
  have huntold : (Holding.ofCommit (σ.hub.registry.commit mutation).1).untold =
      (σ.hub.registry.commit mutation).1.toList := by
    cases (σ.hub.registry.commit mutation).1 <;> rfl
  refine hi.of_run { hi.hub with registry := hi.hub.registry.commit mutation } []
    (σ.hub.registry.commit mutation).1.toList rfl ?_ (hi.hub.registry.chart_commit mutation)
    fun id hid => ⟨hid, Option.map_id'.symm⟩
  rw [untold_of_free free]
  exact huntold

/-- Announcing: the operation that was untold is published. -/
theorem Invariant.announce {σ : Scene ρ} (hi : σ.Invariant) {op : MarkerOp}
    (held : σ.holding = some (.reported op)) :
    Invariant { σ with hub := σ.hub.announceOp op, holding := some .settled } := by
  refine hi.of_run { hi.hub with ops := hi.hub.ops.publish op } [.publish op] [] rfl ?_ rfl
    fun id hid => ⟨hid, Option.map_id'.symm⟩
  rw [untold_of_held held]
  rfl

/-- Subscribing: nothing is queued for a new view, so the untold operation is all that is due. -/
theorem Invariant.attach {σ : Scene ρ} (hi : σ.Invariant) :
    ({ σ with
      hub := (Source.attach σ.hub : Source ρ × Hub).2
      watch := .attached (Source.attach σ.hub).1
      client := none } : Scene ρ).Invariant where
  hub := hi.hub.act (.listenOps .subscribe)
  untold := hi.untold
  lt_nextId id hid := by
    cases hid
    exact Nat.lt_succ_self σ.hub.ops.nextId
  tracked id hid _ := by
    cases hid
    obtain ⟨c, hc⟩ := hi.untold
    refine ⟨c, ?_⟩
    have hqueued : (σ.hub.ops.subscribe.2).queued σ.hub.ops.nextId = [] :=
      Channel.queued_subscribe_self hi.hub.ops
    show c.replay (σ.hub.ops.subscribe.2.queued σ.hub.ops.nextId ++ σ.untold) = _
    rw [hqueued, List.nil_append]
    exact hc
  client _ _ _ c hc := by cases hc

/-- A first look shows what the registry shows. What is due has turned some chart into just that, so
turning this by it once more changes nothing. -/
theorem Invariant.look {σ : Scene ρ} (hi : σ.Invariant) {s : Session ρ}
    {listed : List (Marker Float)} (seen : σ.watch = .mounted s)
    (order : listed.Perm (s.initialMarkers σ.hub)) :
    Invariant { σ with client := some (.ofMarkers listed) } where
  hub := hi.hub
  untold := hi.untold
  lt_nextId := hi.lt_nextId
  tracked := hi.tracked
  client id hid hlive c hc := by
    cases hc
    -- The view holds a subscription, so it looks at the shared registry.
    have hsource : s.source = some (.shared id) := by
      rw [seen] at hid
      obtain ⟨source, hs, hshared⟩ := Option.bind_eq_some_iff.1 hid
      cases source with
      | shared own =>
        cases hshared
        exact hs
      | simulated fleet => cases hshared
    have hlisted : listed.Perm σ.hub.registry.markers := by
      rw [Session.initialMarkers, hsource] at order
      exact order
    have hchart : Chart.ofMarkers listed = σ.hub.registry.chart :=
      hi.hub.registry.ofMarkers_eq_chart hlisted
    obtain ⟨c, hc⟩ := hi.tracked id hid hlive
    unfold Tracks at hc
    calc (Chart.ofMarkers listed).replay (σ.due id)
        = (c.replay (σ.due id)).replay (σ.due id) := by rw [hchart, hc]
      _ = c.replay (σ.due id) := Chart.replay_replay c (σ.due id)
      _ = σ.hub.registry.chart := hc

/-- A tick: the client takes in what the session receives. -/
theorem Invariant.tick [FleetDraws ρ] {σ : Scene ρ} (hi : σ.Invariant) {s s' : Session ρ}
    {hub' : Hub} {deltas : List ViewDelta} (seen : σ.watch = .mounted s)
    (ticks : s.tick σ.hub = .ok (deltas, s', hub')) :
    Invariant { σ with
      hub := hub'
      watch := .mounted s'
      client := σ.client.map (·.drawAll deltas) } := by
  have hspares := Session.spares_tick ticks
  cases hid : s'.ops? with
  | none => exact hi.of_unwatched hspares rfl hid
  | some id =>
    obtain ⟨hheld, ⟨rfl, hops⟩ | ⟨commands, rfl, hops⟩⟩ := Session.ops_tick ticks hid
    all_goals
      have hbefore : σ.watch.ops? = some id := by
        rw [seen]
        exact hheld
    · -- Nothing happened.
      refine hi.of_spares hspares hops rfl Option.map_id' fun j hj => ?_
      rw [← hj, hbefore, ← hid]
      rfl
    · -- The first operation that was queued is received, and the client carries it out.
      refine hi.of_run (hspares.valid hi.hub) [.listen (.receive id)] [] hops ?_ ?_ fun j hj => ?_
      · exact (List.append_nil _).symm
      · rw [hspares.registry, Chart.replay_nil]
      · have hj' : id = j := Option.some.inj (hid.symm.trans hj)
        subst hj'
        refine ⟨hbefore, ?_⟩
        have hreceived : received id σ.hub.ops [.listen (.receive id)] =
            (σ.hub.ops.queued id).head?.toList := by
          rw [received, received, Channel.taken, if_pos rfl, Channel.item?_receive, List.append_nil]
        rw [hreceived]
        refine congrArg (σ.client.map ·) (funext fun c => ?_)
        rw [Chart.drawAll_append, Chart.drawAll_map_ofOp, Chart.drawAll_map_command]

/-- What somebody else does: the watched subscriber receives nothing by it. -/
theorem Invariant.other {σ : Scene ρ} (hi : σ.Invariant) {a : Hub.Action}
    (allowed : σ.watch.Allows a) : Invariant { σ with hub := σ.hub.act a } := by
  have hvalid : (σ.hub.act a).Valid := hi.hub.act a
  cases a with
  | mutate mutation => exact allowed.elim
  | listenOps l =>
    refine hi.of_run hvalid [.listen l] [] rfl (List.append_nil _).symm rfl
      fun id hid => ⟨hid, ?_⟩
    have hreceived : received id σ.hub.ops [.listen l] = [] := by
      cases l with
      | receive j =>
        have hne : j ≠ id := by
          rintro rfl
          exact allowed hid
        rw [received, received, Channel.taken, if_neg hne, List.append_nil]
      | subscribe => rfl
      | unsubscribe j => rfl
      | leave j => rfl
    rw [hreceived]
    exact Option.map_id'.symm
  | issue command =>
    exact hi.of_spares ⟨rfl, fun _ => hvalid⟩ rfl rfl rfl fun _ hid => hid
  | interact interaction =>
    exact hi.of_spares ⟨rfl, fun _ => hvalid⟩ rfl rfl rfl fun _ hid => hid
  | listenCommands l =>
    exact hi.of_spares ⟨rfl, fun _ => hvalid⟩ rfl rfl rfl fun _ hid => hid
  | listenEvents l =>
    exact hi.of_spares ⟨rfl, fun _ => hvalid⟩ rfl rfl rfl fun _ hid => hid

/-- Every step keeps the invariant. -/
theorem Invariant.step [FleetDraws ρ] {σ σ' : Scene ρ} (hi : σ.Invariant) (h : Step σ σ') :
    σ'.Invariant := by
  cases h with
  | lock mutation free => exact hi.lock mutation free
  | report op held =>
    refine hi.of_spares ⟨rfl, fun hv => { hv with events := hv.events.publish _ }⟩ rfl ?_ rfl
      fun _ hid => hid
    exact (untold_of_held held).symm
  | announce op held => exact hi.announce held
  | unlock held =>
    refine hi.of_spares (.refl _) rfl ?_ rfl fun _ hid => hid
    exact (untold_of_held held).symm
  | attach => exact hi.attach
  | mount source seen =>
    refine hi.of_spares (Session.spares_mount source σ.hub) (Session.ops_mount source σ.hub) rfl rfl
      fun id hid => ?_
    rw [seen]
    exact hid
  | look s listed free seen order => exact hi.look seen order
  | connect s seen =>
    refine hi.of_spares (.refl _) rfl rfl rfl fun id hid => ?_
    rw [seen]
    rw [Watch.ops?, Session.ops?, Session.source_connect] at hid
    exact hid
  | tick s s' hub' deltas seen ticks => exact hi.tick seen ticks
  | forward s event seen =>
    exact hi.of_spares (Session.spares_forward s event σ.hub) (Session.ops_forward s event σ.hub)
      rfl rfl fun _ hid => hid
  | close s reason seen =>
    have hspares := Session.spares_close s reason σ.hub
    obtain ⟨hsame, hhub⟩ | hnone := Session.source_close s reason σ.hub
    · refine hi.of_spares hspares (congrArg Hub.ops hhub) rfl rfl fun id hid => ?_
      rw [seen, ← hsame]
      exact hid
    · refine hi.of_unwatched hspares rfl ?_
      rw [Watch.ops?, Session.ops?, hnone]
      rfl
  | other a allowed => exact hi.other allowed

/-- The invariant holds of every scene that can be reached. -/
theorem invariant_of_reachable [FleetDraws ρ] {capacity : Nat} {σ : Scene ρ}
    (h : Reachable capacity σ) : σ.Invariant := by
  induction h with
  | refl => exact invariant_create capacity
  | tail _ hstep ih => exact ih.step hstep

/-- However mutations, the view and everyone else take turns: while nobody holds the lock and the
view's subscription is not cut off, a client that goes on to show what is still queued for the view
shows the markers of the registry, under each id the name and the position. -/
theorem client_catches_up [FleetDraws ρ] {capacity : Nat} {σ : Scene ρ} {id : SubscriberId}
    {c : Chart} (hreach : Reachable capacity σ) (hfree : σ.holding = none)
    (hheld : σ.watch.ops? = some id) (hlive : σ.hub.ops.isSubscribed id = true)
    (hclient : σ.client = some c) :
    c.drawAll ((σ.hub.ops.queued id).map .ofOp) = σ.hub.registry.chart := by
  have hi := invariant_of_reachable hreach
  have htracks : σ.Tracks id c := hi.client id hheld hlive c hclient
  rw [Tracks, due, untold_of_free hfree, List.append_nil] at htracks
  rw [Chart.drawAll_map_ofOp]
  exact htracks

/-- A view that subscribes while an addition is half told, looks before the marker is removed, and
ticks once, has the removal queued. Showing it makes the client agree with the registry. -/
theorem client_catches_up_after_late_subscription :
    ∃ (σ : Scene Tape) (c : Chart), Reachable 4 σ ∧ σ.holding = none ∧
      σ.watch.ops? = some 1 ∧ σ.hub.ops.isSubscribed 1 = true ∧ σ.client = some c ∧
      (σ.hub.ops.queued 1).length = 1 ∧ (c "m").isSome = true ∧
      c.drawAll ((σ.hub.ops.queued 1).map .ofOp) = σ.hub.registry.chart := by
  let m : Marker Float := { id := "m", name := "M", position := ⟨1, 2⟩ }
  have hlocked : Reachable 4 _ := .single (.lock (create 4 : Scene Tape) (.add m) rfl)
  have hattached := (hlocked.tail (.report _ _ rfl)).tail (.attach _)
  have hfree := (hattached.tail (.announce _ _ rfl)).tail (.unlock _ rfl)
  have hlooked := (hfree.tail (.mount _ _ rfl)).tail (.look _ _ _ rfl rfl (.refl _))
  have hdeleted := hlooked.trans (reaches_perform rfl (.delete "m"))
  have hticked := (hdeleted.tail (.connect _ _ rfl)).tail (.tick _ _ _ _ _ rfl rfl)
  exact ⟨_, _, hticked, rfl, rfl, rfl, rfl, rfl, rfl, client_catches_up hticked rfl rfl rfl rfl⟩

end Scene

end LiveMap
