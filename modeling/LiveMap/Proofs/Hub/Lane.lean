import LiveMap.Proofs.Channel.Holding
import LiveMap.Proofs.Hub.Run

/-!
# The three channels alike

A hub has three channels, for three kinds of items. What holds of each of them is stated once, for a
lane: `Hub.lane` is the channel of a lane, and what an action of the hub does to it is `Hub.on`.
Whoever uses a hub holds one subscription of each lane at most, and in one turn makes one move on
each of them (`Hub.Moves`).
-/

namespace LiveMap

/-- One of the channels of a hub. -/
inductive Lane where
  /-- The marker operations. -/
  | ops
  /-- The map commands. -/
  | commands
  /-- The map events. -/
  | events
  deriving DecidableEq

/-- What is published on a lane. -/
abbrev Lane.Item : Lane → Type
  | ops => MarkerOp
  | commands => MapCommand
  | events => MapEvent

namespace Hub

/-- The channel of a lane. -/
def lane (hub : Hub) : (l : Lane) → Channel l.Item
  | .ops => hub.ops
  | .commands => hub.commands
  | .events => hub.events

/-- What an action does to the channel of commands. -/
def onCommands : Action → List (Channel.Action MapCommand)
  | .issue command => [.publish command]
  | .listenCommands l => [.listen l]
  | _ => []

/-- What an action does to the channel of a lane. -/
def on (hub : Hub) (a : Action) : (l : Lane) → List (Channel.Action l.Item)
  | .ops => onOps hub a
  | .commands => onCommands a
  | .events => onEvents hub a

/-- A valid hub has valid channels. -/
theorem Valid.lane {hub : Hub} (hv : hub.Valid) (l : Lane) : (hub.lane l).Valid := by
  cases l with
  | ops => exact hv.ops
  | commands => exact hv.commands
  | events => exact hv.events

/-- An action does to the channel of each lane what its trace says. -/
theorem lane_act (hub : Hub) (a : Action) (l : Lane) :
    (hub.act a).lane l = (hub.lane l).run (hub.on a l) := by
  cases l with
  | ops => exact ops_act hub a
  | events => exact events_act hub a
  | commands =>
    show (hub.act a).commands = hub.commands.run (onCommands a)
    cases a with
    | mutate mutation => exact commands_perform hub mutation
    | issue command => rfl
    | interact interaction => rfl
    | listenOps l => rfl
    | listenCommands l => rfl
    | listenEvents l => rfl

/-- The channels of a new hub are new, and all of the same capacity. -/
theorem lane_create (capacity : Nat) (l : Lane) :
    ∃ name, (create capacity).lane l = .create name capacity := by
  cases l with
  | ops => exact ⟨_, rfl⟩
  | commands => exact ⟨_, rfl⟩
  | events => exact ⟨_, rfl⟩

/-- Nothing that happens changes the capacity of a channel. -/
theorem capacity_lane_run (hub : Hub) (actions : List Action) (l : Lane) :
    ((hub.run actions).lane l).capacity = (hub.lane l).capacity := by
  induction actions generalizing hub with
  | nil => rfl
  | cons a rest ih => rw [run_cons, ih, lane_act, Channel.capacity_run]

/-! ## Holders -/

/-- Somebody who holds subscriptions on the lanes makes one move on each of them. -/
structure Moves (hub hub' : Hub) (held held' : Lane → Option SubscriberId)
    (does : (l : Lane) → List (Channel.Action l.Item)) : Prop where
  /-- The registry stays valid. -/
  registry : hub.registry.Valid → hub'.registry.Valid
  /-- The channel of each lane runs through what is done to it. -/
  lane : ∀ l, hub'.lane l = (hub.lane l).run (does l)
  /-- On each lane this is one move. -/
  move : ∀ l, (hub.lane l).Move (held l) (does l) (held' l)

/-- A move keeps a hub valid. -/
theorem Moves.valid {hub hub' : Hub} {held held' : Lane → Option SubscriberId}
    {does : (l : Lane) → List (Channel.Action l.Item)} (h : hub.Moves hub' held held' does)
    (hv : hub.Valid) : hub'.Valid := by
  have hlane : ∀ l, (hub'.lane l).Valid := by
    intro l
    rw [h.lane]
    exact (hv.lane l).run _
  exact ⟨h.registry hv.registry, hlane .ops, hlane .commands, hlane .events⟩

/-- Whoever does nothing makes a move. -/
theorem Moves.nothing (hub : Hub) (held : Lane → Option SubscriberId) :
    hub.Moves hub held held fun _ => [] where
  registry := id
  lane _ := rfl
  move l := .nothing (hub.lane l) (held l)

/-- Whether an action is one by which something is published, and not one of a listener. -/
def Action.publishes : Action → Bool
  | .mutate _ | .issue _ | .interact _ => true
  | .listenOps _ | .listenCommands _ | .listenEvents _ => false

/-- An action by which something is published does nothing else to a channel. -/
theorem isPublication_of_mem_on {hub : Hub} {a : Action} (ha : a.publishes = true) {l : Lane} :
    ∀ b ∈ hub.on a l, b.isPublication = true := by
  intro b hb
  cases a with
  | mutate mutation =>
    cases l with
    | commands => exact absurd hb List.not_mem_nil
    | ops | events =>
      obtain ⟨op, -, rfl⟩ := List.mem_map.1 hb
      rfl
  | issue command =>
    cases l with
    | ops | events => exact absurd hb List.not_mem_nil
    | commands =>
      rw [List.mem_singleton.1 hb]
      rfl
  | interact interaction =>
    cases l with
    | ops | commands => exact absurd hb List.not_mem_nil
    | events =>
      rw [List.mem_singleton.1 hb]
      rfl
  | listenOps l | listenCommands l | listenEvents l => cases ha

/-- An action by which something is published is a move, whatever is held. -/
theorem moves_act (hub : Hub) (a : Action) (ha : a.publishes = true)
    (held : Lane → Option SubscriberId) : hub.Moves (hub.act a) held held (hub.on a) where
  registry hr := by
    rw [registry_act]
    split
    · exact hr.commit _
    · exact hr
  lane l := hub.lane_act a l
  move l := by
    rw [Channel.eq_map_publish (isPublication_of_mem_on ha)]
    exact .tells (held l) _

end Hub

end LiveMap
