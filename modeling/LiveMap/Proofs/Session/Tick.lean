import LiveMap.Proofs.Failable
import LiveMap.Proofs.Hub.Run

/-!
# What a session does to its hub

Whatever a session does, it leaves the registry alone and keeps the hub valid. A tick of a session
over the shared registry shows the first operation that is queued for it, if there is one, and the
operation leaves the queue; after the tick the session still holds its subscription, or it has let
go of it for good.
-/

namespace LiveMap

variable {ρ : Type}

namespace Hub

/-- What a session may do to a hub: the registry stays, and a valid hub stays valid. -/
structure Spares (before after : Hub) : Prop where
  /-- The registry is as it was. -/
  registry : after.registry = before.registry
  /-- The hub is still valid. -/
  valid : before.Valid → after.Valid

theorem Spares.refl (hub : Hub) : hub.Spares hub := ⟨rfl, fun hv => hv⟩

theorem Spares.trans {first second third : Hub} (h₁ : first.Spares second)
    (h₂ : second.Spares third) : first.Spares third :=
  ⟨h₂.registry.trans h₁.registry, fun hv => h₂.valid (h₁.valid hv)⟩

/-- What subscribers of the operations do spares the hub. -/
theorem spares_listenOps (hub : Hub) (l : Channel.Listening) :
    hub.Spares { hub with ops := hub.ops.listen l } :=
  ⟨rfl, fun hv => hv.act (.listenOps l)⟩

/-- What subscribers of the commands do spares the hub. -/
theorem spares_listenCommands (hub : Hub) (l : Channel.Listening) :
    hub.Spares { hub with commands := hub.commands.listen l } :=
  ⟨rfl, fun hv => hv.act (.listenCommands l)⟩

end Hub

/-! ## Sources -/

/-- The subscription to the operations that a source holds. -/
def Source.ops? : Source ρ → Option SubscriberId
  | shared id => some id
  | simulated _ => none

/-- The subscription to the operations that a session holds. -/
def Session.ops? (s : Session ρ) : Option SubscriberId := s.source.bind Source.ops?

/-- All that asking a source can do. A subscription yields the first operation that was queued, and
the operation is not queued any more; a private fleet does nothing to the hub. -/
theorem Source.poll_cases [FleetDraws ρ] {source source' : Source ρ} {hub hub' : Hub}
    {op : Option MarkerOp} (h : source.poll hub = .ok (op, source', hub')) :
    (∃ id, source = .shared id ∧ source' = .shared id ∧ op = (hub.ops.queued id).head? ∧
      hub' = { hub with ops := (hub.ops.receive id).2 }) ∨
    (source'.ops? = none ∧ hub' = hub) := by
  cases source with
  | shared id =>
    cases h
    exact Or.inl ⟨id, rfl, rfl, Channel.item?_receive hub.ops id, rfl⟩
  | simulated fleet =>
    obtain ⟨picked, -, h⟩ := exists_of_bind_eq_ok h
    cases h
    exact Or.inr ⟨rfl, rfl⟩

/-- Asking a source for its next operation spares the hub. -/
theorem Source.spares_poll [FleetDraws ρ] {source source' : Source ρ} {hub hub' : Hub}
    {op : Option MarkerOp} (h : source.poll hub = .ok (op, source', hub')) : hub.Spares hub' := by
  obtain ⟨id, -, -, -, rfl⟩ | ⟨-, rfl⟩ := poll_cases h
  · exact hub.spares_listenOps (.receive id)
  · exact .refl _

/-- Giving up a source spares the hub. -/
theorem Source.spares_release (source : Source ρ) (hub : Hub) :
    hub.Spares (source.release hub) := by
  cases source with
  | shared id => exact hub.spares_listenOps (.leave id)
  | simulated fleet => exact .refl hub

namespace Session

/-! ## Mounting and closing -/

/-- Mounting spares the hub. -/
theorem spares_mount (source : Source ρ) (hub : Hub) : hub.Spares (mount source hub).2 :=
  hub.spares_listenCommands .subscribe

/-- Mounting does nothing to the channel of operations. -/
theorem ops_mount (source : Source ρ) (hub : Hub) : (mount source hub).2.ops = hub.ops := rfl

/-- The hub after a session has given up its source. -/
def releaseSource (s : Session ρ) (hub : Hub) : Hub :=
  match s.source with
  | some source => source.release hub
  | none => hub

/-- The hub after a session has given up its subscription to the commands. -/
def releaseCommands (s : Session ρ) (hub : Hub) : Hub :=
  match s.commands with
  | some id => { hub with commands := hub.commands.leave id }
  | none => hub

/-- Closing gives up the source, then the subscription to the commands. -/
theorem close_of_ne {s : Session ρ} (h : s.phase ≠ .closed) (reason : CloseReason) (hub : Hub) :
    s.close reason hub =
      ({ s with phase := .closed, source := none, commands := none, closeReason := some reason },
        s.releaseCommands (s.releaseSource hub)) := if_neg h

/-- Closing spares the hub. -/
theorem spares_close (s : Session ρ) (reason : CloseReason) (hub : Hub) :
    hub.Spares (s.close reason hub).2 := by
  by_cases h : s.phase = .closed
  · rw [close, if_pos h]
    exact .refl hub
  · rw [close_of_ne h]
    have hsource : hub.Spares (s.releaseSource hub) := by
      unfold releaseSource
      split
      · exact Source.spares_release _ hub
      · exact .refl hub
    have hcommands : (s.releaseSource hub).Spares (s.releaseCommands (s.releaseSource hub)) := by
      unfold releaseCommands
      split
      · exact Hub.spares_listenCommands _ (.leave _)
      · exact .refl _
    exact hsource.trans hcommands

/-- A session that is closed has no source; one that was closed before keeps what it has. -/
theorem source_close (s : Session ρ) (reason : CloseReason) (hub : Hub) :
    (s.close reason hub).1 = s ∧ (s.close reason hub).2 = hub ∨
      (s.close reason hub).1.source = none := by
  unfold close
  split
  · exact Or.inl ⟨rfl, rfl⟩
  · exact Or.inr rfl

/-- Establishing the transport keeps the source. -/
theorem source_connect (s : Session ρ) : s.connect.source = s.source := by
  unfold connect
  split <;> rfl

/-- Telling the listeners spares the hub. -/
theorem spares_forward (s : Session ρ) (event : MapEvent) (hub : Hub) :
    hub.Spares (s.forward event hub).2 := by
  unfold forward
  split
  · exact .refl hub
  · exact ⟨rfl, fun hv => { hv with events := hv.events.publish event }⟩

/-- Telling the listeners does nothing to the channel of operations. -/
theorem ops_forward (s : Session ρ) (event : MapEvent) (hub : Hub) :
    (s.forward event hub).2.ops = hub.ops := by
  unfold forward
  split <;> rfl

/-! ## Ticks -/

/-- Asking for a command spares the hub. -/
theorem spares_pollCommands (s : Session ρ) (hub : Hub) :
    hub.Spares (s.pollCommands hub).2.2 := by
  unfold pollCommands
  split
  · exact .refl hub
  · exact hub.spares_listenCommands (.receive _)

/-- Asking for a command does nothing to the channel of operations. -/
theorem ops_pollCommands (s : Session ρ) (hub : Hub) : (s.pollCommands hub).2.2.ops = hub.ops := by
  unfold pollCommands
  split <;> rfl

/-- Asking the source spares the hub. -/
theorem spares_pollSource [FleetDraws ρ] {s s' : Session ρ} {hub hub' : Hub}
    {op : Option MarkerOp} {ended : Bool} (h : s.pollSource hub = .ok (op, ended, s', hub')) :
    hub.Spares hub' := by
  unfold pollSource at h
  split at h
  · cases h
    exact .refl hub
  · next source _ =>
    obtain ⟨polled, hp, h⟩ := exists_of_bind_eq_ok h
    cases h
    exact Source.spares_poll hp

/-- The session that a tick asks and that it leaves if it does not close it. -/
def ticked (s : Session ρ) : Session ρ := { s with phase := .ticking, ticks := s.ticks + 1 }

/-- A session that holds a subscription after asking its source held it before; it got the first
operation that was queued, and the operation is not queued any more. -/
theorem pollSource_of_ops? [FleetDraws ρ] {s s' : Session ρ} {hub hub' : Hub}
    {op : Option MarkerOp} {ended : Bool} {id : SubscriberId}
    (h : s.ticked.pollSource hub = .ok (op, ended, s', hub')) (hid : s'.ops? = some id) :
    s.ops? = some id ∧ op = (hub.ops.queued id).head? ∧ hub'.ops = (hub.ops.receive id).2 := by
  unfold pollSource at h
  split at h
  · next hnone =>
    cases h
    rw [ops?, hnone] at hid
    cases hid
  · next source hsome =>
    have hs : s.source = some source := hsome
    obtain ⟨⟨op', source', hub₁⟩, hp, h⟩ := exists_of_bind_eq_ok h
    cases h
    obtain ⟨own, rfl, rfl, hop, rfl⟩ | ⟨hnone, -⟩ := Source.poll_cases hp
    · cases hid
      rw [ops?, hs]
      exact ⟨rfl, hop, rfl⟩
    · rw [ops?, Option.bind_some, hnone] at hid
      cases hid

/-- All that a tick can do. Without a connection nothing happens. Otherwise the source is asked,
then the commands, and the session is closed if one of the two is found at its end. -/
theorem tick_cases [FleetDraws ρ] {s s' : Session ρ} {hub hub' : Hub} {deltas : List ViewDelta}
    (h : s.tick hub = .ok (deltas, s', hub')) :
    (s.isConnected = false ∧ deltas = [] ∧ s' = s ∧ hub' = hub) ∨
    (s.isConnected = true ∧ ∃ op ended s₁ hub₁,
      s.ticked.pollSource hub = .ok (op, ended, s₁, hub₁) ∧
      deltas = (op.map .ofOp).toList ++ ((s₁.pollCommands hub₁).1.map .command).toList ∧
      (s', hub') =
        if ended || (s₁.pollCommands hub₁).2.1 then s₁.close .evicted (s₁.pollCommands hub₁).2.2
        else (s₁, (s₁.pollCommands hub₁).2.2)) := by
  unfold tick at h
  cases hc : s.isConnected with
  | false =>
    rw [hc] at h
    cases h
    exact Or.inl ⟨rfl, rfl, rfl, rfl⟩
  | true =>
    rw [hc, if_pos rfl] at h
    obtain ⟨⟨op, ended, s₁, hub₁⟩, hp, h⟩ := exists_of_bind_eq_ok h
    refine Or.inr ⟨rfl, op, ended, s₁, hub₁, hp, ?_⟩
    dsimp only at h
    split at h
    · next hend =>
      cases h
      exact ⟨rfl, (if_pos hend).symm⟩
    · next hend =>
      cases h
      exact ⟨rfl, (if_neg hend).symm⟩

/-- A tick spares the hub. -/
theorem spares_tick [FleetDraws ρ] {s s' : Session ρ} {hub hub' : Hub} {deltas : List ViewDelta}
    (h : s.tick hub = .ok (deltas, s', hub')) : hub.Spares hub' := by
  obtain ⟨-, -, -, rfl⟩ | ⟨-, op, ended, s₁, hub₁, hp, -, hleft⟩ := tick_cases h
  · exact .refl _
  · -- Both questions spare the hub, and so does closing.
    have hasked := (spares_pollSource hp).trans (spares_pollCommands s₁ hub₁)
    split at hleft
    · have hclosed := spares_close s₁ .evicted (s₁.pollCommands hub₁).2.2
      rw [← hleft] at hclosed
      exact hasked.trans hclosed
    · cases hleft
      exact hasked

/-- What a tick shows to the view of a session that holds a subscription after it. The session held
it before. Either nothing happened; or the first operation that was queued was taken, and it is the
first change to show, ahead of a command. -/
theorem ops_tick [FleetDraws ρ] {s s' : Session ρ} {hub hub' : Hub} {deltas : List ViewDelta}
    {id : SubscriberId} (h : s.tick hub = .ok (deltas, s', hub')) (hid : s'.ops? = some id) :
    s.ops? = some id ∧
      ((deltas = [] ∧ hub'.ops = hub.ops) ∨
        ∃ commands : List MapCommand,
          deltas = (hub.ops.queued id).head?.toList.map .ofOp ++ commands.map .command ∧
            hub'.ops = (hub.ops.receive id).2) := by
  obtain ⟨-, rfl, rfl, rfl⟩ | ⟨-, op, ended, s₁, hub₁, hp, rfl, hleft⟩ := tick_cases h
  · exact ⟨hid, Or.inl ⟨rfl, rfl⟩⟩
  · -- A session that the tick closes has no subscription any more.
    have hopen : s' = s₁ ∧ hub' = (s₁.pollCommands hub₁).2.2 := by
      split at hleft
      · obtain ⟨hs, hh⟩ | hnone := source_close s₁ .evicted (s₁.pollCommands hub₁).2.2
        · rw [← hleft] at hs hh
          exact ⟨hs, hh⟩
        · rw [← hleft] at hnone
          rw [ops?, hnone] at hid
          cases hid
      · cases hleft
        exact ⟨rfl, rfl⟩
    obtain ⟨rfl, rfl⟩ := hopen
    obtain ⟨hheld, hop, hops⟩ := pollSource_of_ops? hp hid
    refine ⟨hheld, Or.inr ⟨(s'.pollCommands hub₁).1.toList, ?_, ?_⟩⟩
    · rw [hop]
      cases (hub.ops.queued id).head? <;> cases (s'.pollCommands hub₁).1 <;> rfl
    · rw [ops_pollCommands, hops]

end Session

end LiveMap
