import LiveMap.Proofs.Channel.Delivery
import LiveMap.Proofs.Registry

/-!
# Runs of a hub

All that happens to a hub is a list of actions: mutations of the registry, commands, what users do
in their browsers, and what subscribers of its three channels do. A run of the hub is a run of each
of its channels, under the actions that a trace lists (`ops_run`, `events_run`). Every hub in use is
what some run makes of a new one, and it is valid.
-/

namespace LiveMap

/-- What a user does in a browser. -/
inductive Interaction where
  /-- With a marker. -/
  | marker (e : MarkerInteraction)
  /-- With the map. -/
  | map (e : MapInteraction)

/-- The event that tells the listeners of it. -/
def Interaction.toEvent : Interaction → MapEvent
  | marker e => .marker e
  | map e => .map e

/-- The operation that an event reports, if it reports one. -/
def MapEvent.markerOp? : MapEvent → Option MarkerOpEvent
  | markerOp e => some e
  | marker _ | map _ => none

namespace Hub

open Channel (Listening published)

/-- The registry and the channels of a hub in use. -/
structure Valid (hub : Hub) : Prop where
  /-- Distinct ids, each marker under its own. -/
  registry : hub.registry.Valid
  /-- The channel of operations. -/
  ops : hub.ops.Valid
  /-- The channel of commands. -/
  commands : hub.commands.Valid
  /-- The channel of events. -/
  events : hub.events.Valid

/-- A new hub is valid. -/
theorem valid_create (capacity : Nat) : (create capacity).Valid where
  registry := Registry.valid_empty
  ops := Channel.valid_create _ _
  commands := Channel.valid_create _ _
  events := Channel.valid_create _ _

/-! ## Mutations -/

/-- All that a mutation does: it leaves the registry that the commit leaves, and publishes the
operation that the commit yields, if there is one, to the views and, as a report, to the
listeners. -/
theorem perform_eq (hub : Hub) (mutation : Mutation) :
    hub.perform mutation = ((hub.registry.commit mutation).1,
      { registry := (hub.registry.commit mutation).2
        ops := hub.ops.run ((hub.registry.commit mutation).1.toList.map .publish)
        commands := hub.commands
        events := hub.events.run ((hub.registry.commit mutation).1.toList.map fun op =>
          .publish (.markerOp (.ofOp op))) }) := by
  unfold perform
  cases hub.registry.commit mutation with
  | mk op r => cases op <;> rfl

/-- A mutation yields what the registry's commit yields. -/
theorem perform_fst (hub : Hub) (mutation : Mutation) :
    (hub.perform mutation).1 = (hub.registry.commit mutation).1 := by
  rw [perform_eq]

/-- A mutation leaves the registry that the commit leaves. -/
theorem registry_perform (hub : Hub) (mutation : Mutation) :
    (hub.perform mutation).2.registry = (hub.registry.commit mutation).2 := by
  rw [perform_eq]

/-- A mutation publishes its operation, if there is one, on the channel of operations. -/
theorem ops_perform (hub : Hub) (mutation : Mutation) :
    (hub.perform mutation).2.ops =
      hub.ops.run ((hub.perform mutation).1.toList.map .publish) := by
  rw [perform_eq]

/-- A mutation publishes the report of its operation, if there is one, on the channel of events. -/
theorem events_perform (hub : Hub) (mutation : Mutation) :
    (hub.perform mutation).2.events = hub.events.run
      ((hub.perform mutation).1.toList.map fun op => .publish (.markerOp (.ofOp op))) := by
  rw [perform_eq]

/-- A mutation sends no command. -/
theorem commands_perform (hub : Hub) (mutation : Mutation) :
    (hub.perform mutation).2.commands = hub.commands := by
  rw [perform_eq]

/-- A mutation with nothing to act on leaves the hub as it was. -/
theorem Valid.perform_of_outcome_none {hub : Hub} (hv : hub.Valid) {mutation : Mutation}
    (h : mutation.outcome hub.registry = none) : hub.perform mutation = (none, hub) := by
  unfold perform
  rw [hv.registry.commit_of_outcome_none h]

/-- A mutation keeps a hub valid. -/
theorem Valid.perform {hub : Hub} (hv : hub.Valid) (mutation : Mutation) :
    (hub.perform mutation).2.Valid where
  registry := by
    rw [registry_perform]
    exact hv.registry.commit mutation
  ops := by
    rw [ops_perform]
    exact hv.ops.run _
  commands := by
    rw [commands_perform]
    exact hv.commands
  events := by
    rw [events_perform]
    exact hv.events.run _

/-! ## Actions -/

/-- All that happens to a hub. -/
inductive Action where
  /-- Someone changes the registry. -/
  | mutate (mutation : Mutation)
  /-- Someone sends a command to every view. -/
  | issue (command : MapCommand)
  /-- A view tells the listeners what its user did. -/
  | interact (interaction : Interaction)
  /-- A subscriber of the operations does something. -/
  | listenOps (l : Listening)
  /-- A subscriber of the commands does something. -/
  | listenCommands (l : Listening)
  /-- A subscriber of the events does something. -/
  | listenEvents (l : Listening)

/-- The hub after an action. -/
def act (hub : Hub) : Action → Hub
  | .mutate mutation => (hub.perform mutation).2
  | .issue command => (hub.issueCommand command).2
  | .interact interaction => (hub.publishEvent interaction.toEvent).2
  | .listenOps l => { hub with ops := hub.ops.listen l }
  | .listenCommands l => { hub with commands := hub.commands.listen l }
  | .listenEvents l => { hub with events := hub.events.listen l }

/-- The hub after some actions in turn. -/
def run (hub : Hub) (actions : List Action) : Hub := actions.foldl act hub

/-- What the actions of a run contribute one after the other, each seen from the hub it meets. -/
def trace {β : Type} (contribution : Hub → Action → List β) : Hub → List Action → List β
  | _, [] => []
  | hub, a :: rest => contribution hub a ++ trace contribution (hub.act a) rest

/-- The operation that an action returns to its caller. -/
def returned (hub : Hub) : Action → List MarkerOp
  | .mutate mutation => (hub.perform mutation).1.toList
  | _ => []

/-- What an action does to the channel of operations. -/
def onOps (hub : Hub) : Action → List (Channel.Action MarkerOp)
  | .mutate mutation => (hub.perform mutation).1.toList.map .publish
  | .listenOps l => [.listen l]
  | _ => []

/-- What an action does to the channel of events. -/
def onEvents (hub : Hub) : Action → List (Channel.Action MapEvent)
  | .mutate mutation =>
    (hub.perform mutation).1.toList.map fun op => .publish (.markerOp (.ofOp op))
  | .interact interaction => [.publish interaction.toEvent]
  | .listenEvents l => [.listen l]
  | _ => []

/-- The operations that the calls of a run return, in order. -/
abbrev log : Hub → List Action → List MarkerOp := trace returned

@[simp] theorem run_nil (hub : Hub) : hub.run [] = hub := rfl

@[simp] theorem run_cons (hub : Hub) (a : Action) (rest : List Action) :
    hub.run (a :: rest) = (hub.act a).run rest := rfl

theorem run_append (hub : Hub) (first second : List Action) :
    hub.run (first ++ second) = (hub.run first).run second := List.foldl_append

/-- An action does to the channel of operations what its trace says. -/
theorem ops_act (hub : Hub) (a : Action) : (hub.act a).ops = hub.ops.run (onOps hub a) := by
  cases a with
  | mutate mutation => exact ops_perform hub mutation
  | issue command => rfl
  | interact interaction => rfl
  | listenOps l => rfl
  | listenCommands l => rfl
  | listenEvents l => rfl

/-- An action does to the channel of events what its trace says. -/
theorem events_act (hub : Hub) (a : Action) :
    (hub.act a).events = hub.events.run (onEvents hub a) := by
  cases a with
  | mutate mutation => exact events_perform hub mutation
  | issue command => rfl
  | interact interaction => rfl
  | listenOps l => rfl
  | listenCommands l => rfl
  | listenEvents l => rfl

/-- A run of a hub is a run of its channel of operations. -/
theorem ops_run (hub : Hub) (actions : List Action) :
    (hub.run actions).ops = hub.ops.run (trace onOps hub actions) := by
  induction actions generalizing hub with
  | nil => rfl
  | cons a rest ih => rw [run_cons, ih, ops_act, trace, Channel.run_append]

/-- A run of a hub is a run of its channel of events. -/
theorem events_run (hub : Hub) (actions : List Action) :
    (hub.run actions).events = hub.events.run (trace onEvents hub actions) := by
  induction actions generalizing hub with
  | nil => rfl
  | cons a rest ih => rw [run_cons, ih, events_act, trace, Channel.run_append]

/-- Every action keeps a hub valid. -/
theorem Valid.act {hub : Hub} (hv : hub.Valid) (a : Action) : (hub.act a).Valid := by
  cases a with
  | mutate mutation => exact hv.perform mutation
  | issue command => exact { hv with commands := hv.commands.publish command }
  | interact interaction => exact { hv with events := hv.events.publish _ }
  | listenOps l => exact { hv with ops := hv.ops.act (.listen l) }
  | listenCommands l => exact { hv with commands := hv.commands.act (.listen l) }
  | listenEvents l => exact { hv with events := hv.events.act (.listen l) }

/-- Every run keeps a hub valid. -/
theorem Valid.run {hub : Hub} (hv : hub.Valid) (actions : List Action) :
    (hub.run actions).Valid := by
  induction actions generalizing hub with
  | nil => exact hv
  | cons a rest ih => exact ih (hv.act a)

/-- Only mutations change the registry. -/
theorem registry_act (hub : Hub) (a : Action) :
    (hub.act a).registry =
      match a with
      | .mutate mutation => (hub.registry.commit mutation).2
      | _ => hub.registry := by
  cases a with
  | mutate mutation => exact registry_perform hub mutation
  | issue command => rfl
  | interact interaction => rfl
  | listenOps l => rfl
  | listenCommands l => rfl
  | listenEvents l => rfl

end Hub

end LiveMap
