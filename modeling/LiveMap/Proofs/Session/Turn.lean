import LiveMap.Proofs.Hub.Lane
import LiveMap.Proofs.Session.Convergence

/-!
# What a view does in one turn

A view gets a source, then a session, which is connected, ticks, tells the listeners what its user
did, and is closed or dropped. Whatever it does in one turn is one move on each of the three
channels (`Watch.Intact.moves_turn`), with the subscriptions that it holds before and after. A
session is intact if it holds a source and a subscription to the commands as long as it is not
closed, and neither afterwards; every turn keeps it so.

All that a tick of an intact session does is said once, in `Session.Intact.tick_cases`. What it
shows is what its subscriptions hand out, and it closes the session exactly if one of the two queues
is empty and cut off (`Session.findsEnd_eq`).
-/

namespace LiveMap

open Channel (asks quits published)

variable {ρ : Type}

/-! ## Turns -/

/-- What happens to one session. -/
inductive Session.Turn where
  /-- Its transport is up. -/
  | connect
  /-- It ticks. -/
  | tick
  /-- It tells the listeners what its user did. -/
  | forward (event : MapEvent)
  /-- It is closed. -/
  | close (reason : CloseReason)

namespace Session

/-- The changes to show, the session and the hub after a turn. Only a tick can fail, where a private
fleet does. -/
def turn [FleetDraws ρ] (s : Session ρ) (hub : Hub) :
    Session.Turn → Except Fault (List ViewDelta × Session ρ × Hub)
  | .connect => .ok ([], s.connect, hub)
  | .tick => s.tick hub
  | .forward event => .ok ([], s, (s.forward event hub).2)
  | .close reason => .ok ([], s.close reason hub)

/-- The subscriptions that a session holds. -/
def subscriber? (s : Session ρ) : Lane → Option SubscriberId
  | .ops => s.ops?
  | .commands => s.commands
  | .events => none

/-- What a turn does to the channel of a lane, given the session before and after it. -/
def does (before after : Session ρ) : Session.Turn → (l : Lane) → List (Channel.Action l.Item)
  | .connect, _ => []
  | .tick, l =>
    if before.isConnected then
      if after.phase = .closed then
        asks (before.subscriber? l) ++ quits (before.subscriber? l)
      else asks (before.subscriber? l)
    else []
  | .forward event, .events => if before.phase = .closed then [] else [.publish event]
  | .forward _, .ops | .forward _, .commands => []
  | .close _, l => quits (before.subscriber? l)

/-- Whether a session holds what it should hold: a source and a subscription to the commands, until
it is closed, and neither afterwards. -/
structure Intact (s : Session ρ) : Prop where
  /-- It has a source until it is closed. -/
  source : s.source = none ↔ s.phase = .closed
  /-- It has a subscription to the commands until it is closed. -/
  commands : s.commands = none ↔ s.phase = .closed

/-- A connected session is not closed. -/
theorem phase_ne_closed_of_isConnected {s : Session ρ} (h : s.isConnected = true) :
    s.phase ≠ .closed := by
  intro hclosed
  rw [isConnected, hclosed] at h
  cases h

/-- A closed session holds no subscription. -/
theorem Intact.subscriber?_of_closed {s : Session ρ} (hi : s.Intact) (h : s.phase = .closed)
    (l : Lane) : s.subscriber? l = none := by
  cases l with
  | ops => rw [subscriber?, ops?, hi.source.2 h, Option.bind_none]
  | commands => exact hi.commands.2 h
  | events => rfl

/-- A session that is closed this way, for whatever reason. -/
def closed (s : Session ρ) (reason : CloseReason) : Session ρ :=
  { s with phase := .closed, source := none, commands := none, closeReason := some reason }

/-- A closed session is intact. -/
theorem intact_closed (s : Session ρ) (reason : CloseReason) : (s.closed reason).Intact :=
  ⟨⟨fun _ => rfl, fun _ => rfl⟩, ⟨fun _ => rfl, fun _ => rfl⟩⟩

/-- A session that was closed holds no subscription. -/
theorem subscriber?_closed (s : Session ρ) (reason : CloseReason) (l : Lane) :
    (s.closed reason).subscriber? l = none := by
  cases l <;> rfl

/-! ## What asking and closing do to the hub -/

/-- The hub after a session has asked both of its queues. -/
def asked (s : Session ρ) (hub : Hub) : Hub :=
  { hub with ops := hub.ops.run (asks s.ops?), commands := hub.commands.run (asks s.commands) }

/-- The hub after a session has let go of both of its queues. -/
def released (s : Session ρ) (hub : Hub) : Hub :=
  { hub with ops := hub.ops.run (quits s.ops?), commands := hub.commands.run (quits s.commands) }

/-- Giving up a source gives up its subscription. -/
theorem release_eq (source : Source ρ) (hub : Hub) :
    source.release hub = { hub with ops := hub.ops.run (quits source.ops?) } := by
  cases source <;> rfl

/-- Closing an open session releases what it holds. -/
theorem close_eq {s : Session ρ} (h : s.phase ≠ .closed) (reason : CloseReason) (hub : Hub) :
    s.close reason hub = (s.closed reason, s.released hub) := by
  have hsource : s.releaseSource hub = { hub with ops := hub.ops.run (quits s.ops?) } := by
    unfold releaseSource ops?
    cases s.source with
    | none => rfl
    | some source => exact release_eq source hub
  have hcommands : ∀ hub, s.releaseCommands hub =
      { hub with commands := hub.commands.run (quits s.commands) } := by
    intro hub
    unfold releaseCommands
    cases s.commands <;> rfl
  rw [close_of_ne h, hsource, hcommands]
  rfl

/-- Closing an intact session releases what it holds, which is nothing if it is closed already. -/
theorem Intact.hub_close {s : Session ρ} (hi : s.Intact) (reason : CloseReason) (hub : Hub) :
    (s.close reason hub).2 = s.released hub := by
  by_cases h : s.phase = .closed
  · have hops : s.ops? = none := hi.subscriber?_of_closed h .ops
    rw [close, if_pos h, released, hops, hi.commands.2 h]
    rfl
  · rw [close_eq h]

/-- Asking leaves the channel of each lane as a run of it says. -/
theorem lane_asked (s : Session ρ) (hub : Hub) (l : Lane) :
    (s.asked hub).lane l = (hub.lane l).run (asks (s.subscriber? l)) := by
  cases l <;> rfl

/-- Releasing leaves the channel of each lane as a run of it says. -/
theorem lane_released (s : Session ρ) (hub : Hub) (l : Lane) :
    (s.released hub).lane l = (hub.lane l).run (quits (s.subscriber? l)) := by
  cases l <;> rfl

/-! ## Ticks -/

/-- Asking a source: what it yields, which subscription it still holds, whether it is at its end,
and what is left of the hub. -/
theorem poll_spec [FleetDraws ρ] {source source' : Source ρ} {hub hub' : Hub}
    {op : Option MarkerOp} (h : source.poll hub = .ok (op, source', hub')) :
    source'.ops? = source.ops? ∧ hub' = { hub with ops := hub.ops.run (asks source.ops?) } ∧
      (∀ id, source.ops? = some id → op = (hub.ops.queued id).head?) ∧
      (op.isNone && source'.isClosed hub') = source.ops?.any hub.ops.findsEnd := by
  cases source with
  | shared id =>
    have hitem := Channel.item?_receive hub.ops id
    cases h
    refine ⟨rfl, rfl, fun j hj => ?_, ?_⟩
    · cases hj
      exact hitem
    · show ((hub.ops.receive id).1.item?.isNone && _) = hub.ops.findsEnd id
      rw [hitem]
      rfl
  | simulated fleet =>
    obtain ⟨⟨picked, fleet'⟩, -, h⟩ := exists_of_bind_eq_ok h
    cases h
    exact ⟨rfl, rfl, fun id hid => (by cases hid), rfl⟩

/-- Asking for a command: what is queued first, whether the queue is at its end, and what is left of
the hub. -/
theorem pollCommands_eq (s : Session ρ) (hub : Hub) :
    s.pollCommands hub = (s.commands.bind fun id => (hub.commands.queued id).head?,
      s.commands.any hub.commands.findsEnd,
      { hub with commands := hub.commands.run (asks s.commands) }) := by
  unfold pollCommands
  cases s.commands with
  | none => rfl
  | some id =>
    have hitem := Channel.item?_receive hub.commands id
    show ((hub.commands.receive id).1.item?,
      (hub.commands.receive id).1.item?.isNone && (hub.commands.receive id).2.hasEnded id, _) = _
    rw [hitem]
    rfl

/-- Whether a tick finds one of the session's queues at its end. -/
def findsEnd (s : Session ρ) (hub : Hub) : Bool :=
  s.ops?.any hub.ops.findsEnd || s.commands.any hub.commands.findsEnd

/-- All that a tick of a connected, intact session does. It shows the first operation, which for a
subscription is the first one that was queued, and then the first command that was queued. Both
queues are asked. The session stays open with its subscriptions, or one of its queues is at its end
and it is closed. -/
theorem Intact.tick_cases [FleetDraws ρ] {s s' : Session ρ} {hub hub' : Hub}
    {deltas : List ViewDelta} (hi : s.Intact) (hc : s.isConnected = true)
    (h : s.tick hub = .ok (deltas, s', hub')) :
    ∃ op source, (∀ id, s.ops? = some id → op = (hub.ops.queued id).head?) ∧
      deltas = (op.map ViewDelta.ofOp).toList ++
        ((s.commands.bind fun id => (hub.commands.queued id).head?).map
          ViewDelta.command).toList ∧
      source.ops? = s.ops? ∧
      ((s.findsEnd hub = false ∧ s' = { s.ticked with source := some source } ∧
          hub' = s.asked hub) ∨
        (s.findsEnd hub = true ∧ s' = s.ticked.closed .evicted ∧
          hub' = s.released (s.asked hub))) := by
  have hopen := phase_ne_closed_of_isConnected hc
  obtain ⟨hnot, -⟩ | ⟨-, op, ended, s₁, hub₁, hpoll, hdeltas, hleft⟩ := Session.tick_cases h
  · rw [hc] at hnot
    cases hnot
  -- An open session has a source, and this is what is asked first.
  obtain ⟨source, hsource⟩ := Option.ne_none_iff_exists'.1 fun hn => hopen (hi.source.1 hn)
  have hops : s.ops? = source.ops? := by rw [ops?, hsource, Option.bind_some]
  have hticked : s.ticked.source = some source := hsource
  rw [pollSource, hticked] at hpoll
  obtain ⟨⟨op', source', polled⟩, hp, hpoll⟩ := exists_of_bind_eq_ok hpoll
  cases hpoll
  obtain ⟨hkept, rfl, hop, hend⟩ := poll_spec hp
  rw [pollCommands_eq] at hdeltas hleft
  have hends : ((op.isNone && source'.isClosed
      { hub with ops := hub.ops.run (asks source.ops?) }) ||
      s.commands.any hub.commands.findsEnd) = s.findsEnd hub := by
    rw [hend, findsEnd, hops]
  have hasked : ({ hub with
      ops := hub.ops.run (asks source.ops?)
      commands := hub.commands.run (asks s.commands) } : Hub) = s.asked hub := by
    rw [asked, hops]
  refine ⟨op, source', fun id hid => hop id (hops ▸ hid), hdeltas, hkept.trans hops.symm, ?_⟩
  have hleft' : (s', hub') = if s.findsEnd hub = true then
      ({ s.ticked with source := some source' } : Session ρ).close .evicted (s.asked hub)
      else ({ s.ticked with source := some source' }, s.asked hub) := by
    rw [← hends, ← hasked]
    exact hleft
  cases hfound : s.findsEnd hub with
  | false =>
    rw [hfound, if_neg Bool.false_ne_true] at hleft'
    cases hleft'
    exact Or.inl ⟨rfl, rfl, rfl⟩
  | true =>
    have hphase : ({ s.ticked with source := some source' } : Session ρ).phase ≠ .closed := by
      intro hn
      cases hn
    have hsame : ({ s.ticked with source := some source' } : Session ρ).ops? = s.ops? := by
      rw [ops?, Option.bind_some, hkept, hops]
    rw [hfound, if_pos rfl, close_eq hphase] at hleft'
    obtain ⟨rfl, rfl⟩ := Prod.mk.inj hleft'
    refine Or.inr ⟨rfl, rfl, ?_⟩
    rw [released, released, hsame]
    rfl

/-- A tick finds one of its queues at its end exactly if one of them is empty and cut off. -/
theorem findsEnd_eq {s : Session ρ} {hub : Hub} (hv : hub.Valid)
    (hheld : ∀ l id, s.subscriber? l = some id → (hub.lane l).mailbox? id ≠ none) :
    s.findsEnd hub =
      (s.ops?.any hub.ops.isExhausted || s.commands.any hub.commands.isExhausted) := by
  have hops : s.ops?.any hub.ops.findsEnd = s.ops?.any hub.ops.isExhausted :=
    hv.ops.any_findsEnd_eq (hheld .ops)
  have hcommands : s.commands.any hub.commands.findsEnd =
      s.commands.any hub.commands.isExhausted := hv.commands.any_findsEnd_eq (hheld .commands)
  rw [findsEnd, hops, hcommands]

/-- A tick of a session that is not connected does nothing. -/
theorem tick_of_not_connected [FleetDraws ρ] {s : Session ρ} (h : s.isConnected = false)
    (hub : Hub) : s.tick hub = .ok ([], s, hub) := by
  rw [tick, h, if_neg Bool.false_ne_true]

/-- A tick of an intact session keeps it intact, and is one move on each lane. -/
theorem Intact.moves_tick [FleetDraws ρ] {s s' : Session ρ} {hub hub' : Hub}
    {deltas : List ViewDelta} (hi : s.Intact) (h : s.tick hub = .ok (deltas, s', hub')) :
    s'.Intact ∧ hub.Moves hub' s.subscriber? s'.subscriber? (does s s' .tick) := by
  cases hc : s.isConnected with
  | false =>
    rw [tick_of_not_connected hc] at h
    cases h
    have hnothing : does s s .tick = fun _ => [] := by
      funext l
      rw [does, hc, if_neg Bool.false_ne_true]
    rw [hnothing]
    exact ⟨hi, .nothing hub s.subscriber?⟩
  | true =>
    have hopen := phase_ne_closed_of_isConnected hc
    obtain ⟨op, source, -, -, hkept, ⟨-, rfl, rfl⟩ | ⟨-, rfl, rfl⟩⟩ := hi.tick_cases hc h
    · -- The session stays open with its subscriptions.
      have hcommands : s.commands ≠ none := fun hn => hopen (hi.commands.1 hn)
      have hsame : ∀ l, ({ s.ticked with source := some source } : Session ρ).subscriber? l =
          s.subscriber? l := by
        intro l
        cases l with
        | ops => exact hkept
        | commands => rfl
        | events => rfl
      have hdoes : ∀ l, does s { s.ticked with source := some source } .tick l =
          asks (s.subscriber? l) := by
        intro l
        rw [does, hc, if_pos rfl]
        exact if_neg SessionPhase.noConfusion
      refine ⟨⟨⟨fun hn => (by cases hn), fun hn => (by cases hn)⟩,
        ⟨fun hn => absurd hn hcommands, fun hn => (by cases hn)⟩⟩, id, fun l => ?_, fun l => ?_⟩
      · rw [hdoes, lane_asked]
      · rw [hdoes, hsame]
        exact .asks _
    · have hdoes : ∀ l, does s (s.ticked.closed .evicted) .tick l =
          asks (s.subscriber? l) ++ quits (s.subscriber? l) := by
        intro l
        rw [does, hc, if_pos rfl]
        exact if_pos rfl
      refine ⟨intact_closed _ _, id, fun l => ?_, fun l => ?_⟩
      · rw [hdoes, lane_released, lane_asked, Channel.run_append]
      · rw [hdoes, subscriber?_closed]
        exact .leaves _

/-- Every turn of an intact session keeps it intact, and is one move on each lane. -/
theorem Intact.moves_turn [FleetDraws ρ] {s s' : Session ρ} {hub hub' : Hub} {t : Session.Turn}
    {deltas : List ViewDelta} (hi : s.Intact) (h : s.turn hub t = .ok (deltas, s', hub')) :
    s'.Intact ∧ hub.Moves hub' s.subscriber? s'.subscriber? (does s s' t) := by
  cases t with
  | tick => exact hi.moves_tick h
  | connect =>
    cases h
    have hsame : s.connect.subscriber? = s.subscriber? := by
      unfold connect
      split <;> rfl
    have hintact : s.connect.Intact := by
      unfold connect
      split
      · next hm =>
        have hopen : s.phase ≠ .closed := by
          rw [hm]
          exact SessionPhase.noConfusion
        exact ⟨⟨fun hn => absurd (hi.source.1 hn) hopen, fun hn => (by cases hn)⟩,
          ⟨fun hn => absurd (hi.commands.1 hn) hopen, fun hn => (by cases hn)⟩⟩
      · exact hi
    rw [hsame]
    exact ⟨hintact, .nothing hub s.subscriber?⟩
  | forward event =>
    cases h
    refine ⟨hi, fun hr => ?_, fun l => ?_, fun l => ?_⟩
    · rw [(spares_forward s event hub).registry]
      exact hr
    · unfold forward does
      cases l with
      | ops | commands => split <;> rfl
      | events =>
        dsimp only
        split <;> rfl
    · unfold does
      cases l with
      | ops | commands => exact .nothing _ _
      | events =>
        dsimp only
        split
        · exact .nothing _ _
        · exact .tells _ [event]
  | close reason =>
    have hs : s' = (s.close reason hub).1 := (congrArg (fun r => r.2.1) (Except.ok.inj h)).symm
    have hhub : hub' = s.released hub := by
      rw [← hi.hub_close reason hub]
      exact (congrArg (fun r => r.2.2) (Except.ok.inj h)).symm
    have hafter : s'.Intact ∧ ∀ l, s'.subscriber? l = none := by
      by_cases hc : s.phase = .closed
      · rw [hs, close, if_pos hc]
        exact ⟨hi, hi.subscriber?_of_closed hc⟩
      · rw [hs, close_eq hc]
        exact ⟨intact_closed s reason, subscriber?_closed s reason⟩
    refine ⟨hafter.1, fun hr => ?_, fun l => ?_, fun l => ?_⟩
    · rw [hhub]
      exact hr
    · rw [hhub, lane_released, does]
    · rw [hafter.2, does]
      exact .quits _

/-- A turn in which a session tells the listeners nothing. -/
def Turn.isQuiet : Session.Turn → Bool
  | .forward _ => false
  | .connect | .tick | .close _ => true

/-- In a quiet turn a session publishes nothing. -/
theorem published_does (before after : Session ρ) {t : Session.Turn} (ht : t.isQuiet = true)
    (l : Lane) : published (does before after t l) = [] := by
  cases t with
  | forward event => cases ht
  | connect => rfl
  | close reason => exact Channel.published_quits _
  | tick =>
    unfold does
    dsimp only
    split
    · split
      · rw [Channel.published_append, Channel.published_asks, Channel.published_quits]
        rfl
      · exact Channel.published_asks _
    · rfl

end Session

/-! ## Views -/

/-- What happens to one view. -/
inductive Watch.Turn (ρ : Type) where
  /-- It subscribes to the shared registry. -/
  | attach
  /-- It gets a private fleet. -/
  | simulate (fleet : Generator ρ)
  /-- It gets its session. -/
  | mount
  /-- Something happens to its session. -/
  | act (t : Session.Turn)
  /-- It goes away. -/
  | drop

namespace Watch

/-- The hub after a view has gone away: its session is closed, or its source given up. -/
def release (hub : Hub) : Watch ρ → Hub
  | absent => hub
  | attached source => source.release hub
  | mounted s => (s.close .disconnected hub).2

/-- The changes to show, the view and the hub after a turn. A turn that does not apply changes
nothing, and a session that fails goes away. -/
def turn [FleetDraws ρ] (w : Watch ρ) (hub : Hub) :
    Watch.Turn ρ → List ViewDelta × Watch ρ × Hub
  | .attach =>
    match w with
    | absent => ([], attached (Source.attach hub).1, (Source.attach hub : Source ρ × Hub).2)
    | _ => ([], w, hub)
  | .simulate fleet =>
    match w with
    | absent => ([], attached (.simulated fleet), hub)
    | _ => ([], w, hub)
  | .mount =>
    match w with
    | attached source => ([], mounted (Session.mount source hub).1, (Session.mount source hub).2)
    | _ => ([], w, hub)
  | .act t =>
    match w with
    | mounted s =>
      match s.turn hub t with
      | .ok (deltas, s, hub) => (deltas, mounted s, hub)
      | .error _ => ([], absent, w.release hub)
    | _ => ([], w, hub)
  | .drop => ([], absent, w.release hub)

/-- The subscriptions that a view holds. -/
def subscriber? (w : Watch ρ) (l : Lane) : Option SubscriberId :=
  match w, l with
  | mounted s, l => s.subscriber? l
  | attached source, .ops => source.ops?
  | attached _, .commands | attached _, .events | absent, _ => none

/-- What a turn does to the channel of a lane. -/
def does [FleetDraws ρ] (w : Watch ρ) (hub : Hub) (t : Watch.Turn ρ) (l : Lane) :
    List (Channel.Action l.Item) :=
  match w, t, l with
  | absent, .attach, .ops => [.listen .subscribe]
  | attached _, .mount, .commands => [.listen .subscribe]
  | mounted s, .act t, l =>
    match s.turn hub t with
    | .ok (_, s', _) => s.does s' t l
    | .error _ => quits (s.subscriber? l)
  | w, .drop, l => quits (w.subscriber? l)
  | _, _, _ => []

/-- Whether the session of a view is intact, if it has one. -/
def Intact : Watch ρ → Prop
  | mounted s => s.Intact
  | absent | attached _ => True

/-- Going away lets go of all that an intact view holds. -/
theorem Intact.moves_release {w : Watch ρ} (hi : w.Intact) (hub : Hub) :
    hub.Moves (w.release hub) w.subscriber? (fun _ => none) fun l => quits (w.subscriber? l) where
  registry hr := by
    cases w with
    | absent => exact hr
    | attached source =>
      rw [release, Session.release_eq]
      exact hr
    | mounted s =>
      rw [release, hi.hub_close]
      exact hr
  lane l := by
    cases w with
    | absent => rfl
    | attached source =>
      rw [release, Session.release_eq]
      cases l <;> rfl
    | mounted s =>
      rw [release, hi.hub_close]
      exact s.lane_released hub l
  move l := .quits (w.subscriber? l)

/-- Every turn of an intact view keeps it intact, and is one move on each lane. -/
theorem Intact.moves_turn [FleetDraws ρ] {w : Watch ρ} (hi : w.Intact) (hub : Hub)
    (t : Watch.Turn ρ) :
    (w.turn hub t).2.1.Intact ∧
      hub.Moves (w.turn hub t).2.2 w.subscriber? (w.turn hub t).2.1.subscriber? (w.does hub t) := by
  cases t with
  | drop =>
    have hrelease := hi.moves_release hub
    refine ⟨trivial, ?_⟩
    cases w <;> exact hrelease
  | attach =>
    cases w with
    | attached source => exact ⟨hi, .nothing hub _⟩
    | mounted s => exact ⟨hi, .nothing hub _⟩
    | absent =>
      refine ⟨trivial, id, fun l => ?_, fun l => ?_⟩
      · cases l <;> rfl
      · cases l with
        | ops => exact .joins
        | commands => exact .nothing _ _
        | events => exact .nothing _ _
  | simulate fleet =>
    cases w with
    | attached source => exact ⟨hi, .nothing hub _⟩
    | mounted s => exact ⟨hi, .nothing hub _⟩
    | absent =>
      refine ⟨trivial, id, fun l => ?_, fun l => ?_⟩
      · rfl
      · cases l <;> exact .nothing _ _
  | mount =>
    cases w with
    | absent => exact ⟨hi, .nothing hub _⟩
    | mounted s => exact ⟨hi, .nothing hub _⟩
    | attached source =>
      refine ⟨⟨⟨fun h => (by cases h), fun h => (by cases h)⟩,
        ⟨fun h => (by cases h), fun h => (by cases h)⟩⟩, id, fun l => ?_, fun l => ?_⟩
      · cases l <;> rfl
      · cases l with
        | ops => exact .nothing _ _
        | commands => exact .joins
        | events => exact .nothing _ _
  | act t =>
    cases w with
    | absent => exact ⟨hi, .nothing hub _⟩
    | attached source => exact ⟨hi, .nothing hub _⟩
    | mounted s =>
      unfold turn does
      dsimp only
      cases h : s.turn hub t with
      | error fault => exact ⟨trivial, Intact.moves_release hi hub⟩
      | ok r =>
        obtain ⟨deltas, s', hub'⟩ := r
        exact Session.Intact.moves_turn hi h

/-- A turn in which a view tells the listeners nothing. -/
def Turn.isQuiet : Watch.Turn ρ → Bool
  | .act t => t.isQuiet
  | .attach | .simulate _ | .mount | .drop => true

/-- In a quiet turn a view publishes nothing. -/
theorem published_does [FleetDraws ρ] (w : Watch ρ) (hub : Hub) {t : Watch.Turn ρ}
    (ht : t.isQuiet = true) (l : Lane) : published (w.does hub t l) = [] := by
  cases t with
  | simulate fleet => cases w <;> rfl
  | attach => cases w <;> cases l <;> rfl
  | mount => cases w <;> cases l <;> rfl
  | drop => cases w <;> exact Channel.published_quits _
  | act t =>
    cases w with
    | absent | attached source => rfl
    | mounted s =>
      unfold does
      dsimp only
      cases s.turn hub t with
      | error fault => exact Channel.published_quits _
      | ok r => exact s.published_does r.2.1 ht l

end Watch

end LiveMap
