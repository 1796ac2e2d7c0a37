import LiveMap.Proofs.Channel.Publish
import LiveMap.Proofs.Socket.Conversation

/-!
# What a client sees of a stream of events

While a stream is open, the notifications that a socket sends are what its subscription receives
from the channel of events, and nobody does anything else to that subscription. This is shown for
one turn (`streaming_step`) and carried through the turns by induction (`streaming_run`). The law of
the channel turns it into a statement about what is published: a client gets the events published
since the subscription, in order, each once, from the first one on. A stream that is found at its
end was cut off by the first event that its queue had no room for, and everything before that one
has been sent.

A subscription that was given to the socket holds a place on the channel only as long as its stream
is open (`Owns.step`), so the socket holds one place at most, and no later stream can see what was
queued for an earlier one.

Main statement: `notifications_are_contiguous`, for every conversation on every hub.
-/

namespace LiveMap

namespace Conversation

open Channel (received published attended)

/-- The events that some messages notify of. -/
def notified (messages : List RpcMessage) : List MapEvent := messages.filterMap RpcMessage.event?

/-- A turn that opens a stream. -/
structure Opens (σ : Conversation) (t : Turn) (s : EventStream) : Prop where
  /-- There was none before. -/
  before : σ.socket.stream = none
  /-- It is open afterwards. -/
  stream : (σ.step t).2.socket.stream = some s

/-- The subscription that a turn gives to the socket. -/
def opens (σ : Conversation) (t : Turn) : List SubscriberId :=
  match σ.subscriber?, (σ.step t).2.subscriber? with
  | none, some id => [id]
  | none, none | some _, _ => []

theorem notified_append (first second : List RpcMessage) :
    notified (first ++ second) = notified first ++ notified second := List.filterMap_append

/-- Responses notify of nothing. -/
theorem notified_responses (responses : List Rpc.Response) :
    notified (responses.map .response) = [] := by
  induction responses with
  | nil => rfl
  | cons r rest ih => exact ih

/-- Notifications notify of their events. -/
theorem notified_notifications (events : List MapEvent) :
    notified (events.map .notification) = events := by
  induction events with
  | nil => rfl
  | cons e rest ih => exact congrArg (e :: ·) ih

theorem subscriber?_of_stream {σ : Conversation} {s : EventStream}
    (h : σ.socket.stream = some s) : σ.subscriber? = some s.subscriber := by
  rw [subscriber?, h, Option.map_some]

theorem subscriber?_of_no_stream {σ : Conversation} (h : σ.socket.stream = none) :
    σ.subscriber? = none := by
  rw [subscriber?, h, Option.map_none]

/-! ## Opening -/

/-- A stream is opened by a request for it with an id, which is not answered. The stream gets the
next subscription of the channel. -/
theorem Opens.spec {σ : Conversation} {t : Turn} {s : EventStream} (h : Opens σ t s) :
    ∃ content request, t = .frame (.text content) ∧ Rpc.Request.parse content = .ok request ∧
      request.method = Rpc.subscribeMethod ∧ request.id = some s.requestId ∧
      (σ.step t).1 = [] ∧ s.subscriber = σ.hub.events.nextId ∧
      (σ.step t).2.hub.events = σ.hub.events.subscribe.2 := by
  obtain ⟨hbefore, hstream⟩ := h
  cases effect σ t with
  | untouched _ _ _ stream _ | neighbour _ _ _ stream _ =>
    rw [stream, hbefore] at hstream
    cases hstream
  | opened content request id turn parsed method named _ sends stream does =>
    rw [stream] at hstream
    cases hstream
    refine ⟨content, request, turn, parsed, method, named, sends, rfl, ?_⟩
    rw [events_step, does]
    rfl
  | taken s _ _ before _ _ _ =>
    rw [hbefore] at before
    cases before
  | ended s _ before _ _ _ _ =>
    rw [hbefore] at before
    cases before

/-- A stream that is opened gets a new subscription. -/
theorem Opens.subscribes {σ : Conversation} {t : Turn} {s : EventStream} (h : Opens σ t s) :
    s.subscriber = σ.hub.events.nextId ∧
      (σ.step t).2.hub.events = σ.hub.events.subscribe.2 := by
  obtain ⟨-, -, -, -, -, -, -, hnext, hevents⟩ := h.spec
  exact ⟨hnext, hevents⟩

/-! ## While a stream is open -/

/-- A stream that is open after a turn, with a subscription that was given out before it, was open
before it. -/
theorem subscriber?_of_step {σ : Conversation} {t : Turn} {id : SubscriberId}
    (hid : id < σ.hub.events.nextId) (h : (σ.step t).2.subscriber? = some id) :
    σ.subscriber? = some id := by
  cases effect σ t with
  | untouched _ _ _ stream _ | neighbour _ _ _ stream _ => rwa [subscriber?, stream] at h
  | opened _ _ _ _ _ _ _ _ _ stream _ =>
    rw [subscriber?_of_stream stream] at h
    cases h
    exact absurd hid (Nat.lt_irrefl _)
  | taken s _ _ before _ stream _ =>
    rw [subscriber?_of_stream stream] at h
    rw [subscriber?_of_stream before]
    exact h
  | ended s _ _ _ _ stream _ =>
    rw [subscriber?_of_no_stream stream] at h
    cases h

/-- A stream that is open after some turns, with a subscription that was given out before them, was
open before them. -/
theorem subscriber?_of_run {σ : Conversation} {turns : List Turn} {id : SubscriberId}
    (hid : id < σ.hub.events.nextId) (h : (σ.run turns).subscriber? = some id) :
    σ.subscriber? = some id := by
  induction turns generalizing σ with
  | nil => exact h
  | cons t rest ih =>
    have hle : σ.hub.events.nextId ≤ (σ.step t).2.hub.events.nextId := by
      rw [events_step]
      exact Channel.nextId_le_run _ _
    exact subscriber?_of_step hid (ih (Nat.lt_of_lt_of_le hid hle) h)

/-- What is left to others neither takes from the queue of the stream nor cuts it off. -/
theorem spares_of_not_reserved {σ : Conversation} {id : SubscriberId}
    (hsub : σ.subscriber? = some id) {l : Channel.Listening} (hfree : σ.reserves l = false) :
    (∀ c : Channel MapEvent, received id c [.listen l] = []) ∧
      (Channel.Action.listen l : Channel.Action MapEvent).cutsOff id = false := by
  -- Whoever is left to others is somebody else.
  have hother : ∀ j, (σ.subscriber? == some j) = false → j ≠ id := by
    rintro j hj rfl
    rw [hsub, beq_self_eq_true] at hj
    cases hj
  cases l with
  | subscribe => exact ⟨fun _ => rfl, rfl⟩
  | receive j =>
    refine ⟨fun c => ?_, rfl⟩
    rw [received, received, Channel.taken, if_neg (hother j hfree)]
    rfl
  | unsubscribe j | leave j => exact ⟨fun _ => rfl, beq_eq_false_iff_ne.2 (hother j hfree)⟩

/-- One turn while a stream is open: the notifications are what its subscription receives, and
nobody cuts it off on purpose. -/
theorem streaming_step {σ : Conversation} {t : Turn} {id : SubscriberId}
    (hbefore : σ.subscriber? = some id) (hafter : (σ.step t).2.subscriber? = some id) :
    notified (σ.step t).1 = received id σ.hub.events (σ.onEvents t) ∧
      ∀ a ∈ σ.onEvents t, a.cutsOff id = false := by
  cases effect σ t with
  | untouched answer events sends _ does =>
    rw [sends, does, notified_responses, Channel.received_map_publish]
    refine ⟨rfl, fun a ha => ?_⟩
    obtain ⟨e, -, rfl⟩ := List.mem_map.1 ha
    rfl
  | neighbour l free sends _ does =>
    obtain ⟨hreceived, hcuts⟩ := spares_of_not_reserved hbefore free
    rw [sends, does, hreceived]
    refine ⟨rfl, fun a ha => ?_⟩
    rw [List.mem_singleton.1 ha, hcuts]
  | opened _ _ _ _ _ _ _ before _ _ _ =>
    rw [subscriber?_of_no_stream before] at hbefore
    cases hbefore
  | taken s _ _ before sends _ does =>
    rw [subscriber?_of_stream before] at hbefore
    cases hbefore
    rw [sends, does, notified_notifications, received, received, Channel.taken, if_pos rfl,
      List.append_nil]
    refine ⟨rfl, fun a ha => ?_⟩
    rw [List.mem_singleton.1 ha]
    rfl
  | ended _ _ _ _ _ stream _ =>
    rw [subscriber?_of_no_stream stream] at hafter
    cases hafter

/-- Some turns while a stream is open: the notifications are what its subscription receives, and
nobody cuts it off on purpose. -/
theorem streaming_run {σ : Conversation} (hv : σ.Valid) {turns : List Turn} {id : SubscriberId}
    (hbefore : σ.subscriber? = some id) (hafter : (σ.run turns).subscriber? = some id) :
    notified (σ.sent turns) = received id σ.hub.events (trace onEvents σ turns) ∧
      ∀ a ∈ trace onEvents σ turns, a.cutsOff id = false := by
  induction turns generalizing σ with
  | nil => exact ⟨rfl, fun a ha => absurd ha List.not_mem_nil⟩
  | cons t rest ih =>
    have hid : id < (σ.step t).2.hub.events.nextId := by
      rw [events_step]
      exact Nat.lt_of_lt_of_le (hv.lt_nextId id hbefore) (Channel.nextId_le_run _ _)
    have hbetween : (σ.step t).2.subscriber? = some id := subscriber?_of_run hid hafter
    obtain ⟨hfirst, hcuts⟩ := streaming_step hbefore hbetween
    obtain ⟨hrest, hcuts'⟩ := ih (hv.step t) hbetween hafter
    constructor
    · rw [sent, trace, trace, notified_append, hfirst, hrest, Channel.received_append,
        ← events_step]
    · intro a ha
      rcases List.mem_append.1 ha with h | h
      · exact hcuts a h
      · exact hcuts' a h

/-- What a client has seen of a stream that is still open: what its subscription has received. With
what is queued for it, this is what was published before it was cut off, if it was. -/
theorem Opens.streaming {σ : Conversation} (hv : σ.Valid) {t : Turn} {s : EventStream}
    (h : Opens σ t s) {during : List Turn}
    (hlast : ((σ.step t).2.run during).subscriber? = some s.subscriber) :
    let τ := (σ.step t).2
    let actions := trace onEvents τ during
    notified (τ.sent during) = received s.subscriber τ.hub.events actions ∧
      notified (τ.sent during) ++ (τ.run during).hub.events.queued s.subscriber =
        published (attended s.subscriber τ.hub.events actions) ∧
      ∀ a ∈ actions, a.cutsOff s.subscriber = false := by
  intro τ actions
  have hτ : τ.Valid := hv.step t
  have hsub : τ.subscriber? = some s.subscriber := subscriber?_of_stream h.stream
  obtain ⟨hnotified, hcuts⟩ := streaming_run hτ hsub hlast
  obtain ⟨hnext, hevents⟩ := h.subscribes
  -- Nothing is queued for a new subscriber.
  have hempty : τ.hub.events.queued s.subscriber = [] := by
    rw [hevents, hnext]
    exact Channel.queued_subscribe_self hv.events
  have hheld : ∀ a ∈ actions, a.letsGo s.subscriber = false := fun a ha =>
    Channel.Action.letsGo_of_not_cutsOff (hcuts a ha)
  have hlaw := Channel.received_append_queued_of_held hτ.events (hτ.lt_nextId _ hsub) hheld
  rw [hempty, List.nil_append] at hlaw
  refine ⟨hnotified, ?_, hcuts⟩
  rw [hnotified, events_run, hlaw]

/-- A stream that is found at its end was cut off by the first event that its queue had no room for,
and the client has seen all that was published before. -/
theorem Opens.evicted {σ : Conversation} (hv : σ.Valid) {t : Turn} {s : EventStream}
    (h : Opens σ t s) {during : List Turn}
    (hlast : ((σ.step t).2.run during).subscriber? = some s.subscriber)
    (hend : (((σ.step t).2.run during).hub.events.receive s.subscriber).1 = .ended) :
    let τ := (σ.step t).2
    ∃ early event late,
      trace onEvents τ during = early ++ .publish event :: late ∧
      (τ.hub.events.run early).isSubscribed s.subscriber = true ∧
      ((τ.hub.events.run early).queued s.subscriber).length = τ.hub.events.capacity ∧
      ((τ.hub.events.run early).publish event).2.isSubscribed s.subscriber = false ∧
      notified (τ.sent during) = published early := by
  intro τ
  have hτ : τ.Valid := hv.step t
  obtain ⟨-, hseen, hcuts⟩ := h.streaming hv hlast
  obtain ⟨hnext, hevents⟩ := h.subscribes
  obtain ⟨hempty, hcut⟩ := (hτ.run during).events.cut_of_receive_ended hend
  -- The new subscriber was live, and is not any more.
  have hlive : τ.hub.events.isSubscribed s.subscriber = true := by
    rw [hevents, hnext]
    exact Channel.isSubscribed_subscribe _
  rw [events_run] at hcut
  obtain ⟨event, late, hsplit, hbefore, hfull⟩ :=
    Channel.exists_evicting_publish hτ.events hlive hcuts hcut
  refine ⟨_, event, late, hsplit, hbefore, hfull, ?_, ?_⟩
  · have hvalid := hτ.events.run (attended s.subscriber τ.hub.events (trace onEvents τ during))
    rw [hvalid.cut_iff_full event hbefore, hfull, Channel.capacity_run]
  · rw [hempty, List.append_nil] at hseen
    exact hseen

/-! ## Places on the channel -/

/-- What holds of the subscriptions that were given to the socket: they are distinct, and one of
them holds a place on the channel only as long as its stream is open. -/
structure Owns (σ : Conversation) (ids : List SubscriberId) : Prop where
  /-- None is given twice. -/
  nodup : ids.Nodup
  /-- They have been given out. -/
  lt_nextId : ∀ id ∈ ids, id < σ.hub.events.nextId
  /-- Whoever has a mailbox belongs to the open stream. -/
  streaming : ∀ id ∈ ids, σ.hub.events.mailbox? id ≠ none → σ.subscriber? = some id

/-- A turn that opens no stream and does not end the open one leaves the places as they are. -/
theorem Owns.of_same {σ : Conversation} (hv : σ.Valid) {ids : List SubscriberId}
    (ho : σ.Owns ids) {t : Turn} (hsame : (σ.step t).2.subscriber? = σ.subscriber?) :
    (σ.step t).2.Owns (ids ++ opens σ t) := by
  have hnone : opens σ t = [] := by
    rw [opens, hsame]
    cases σ.subscriber? <;> rfl
  rw [hnone, List.append_nil]
  refine ⟨ho.nodup, fun id hid => ?_, fun id hid hbox => ?_⟩
  · rw [events_step]
    exact Nat.lt_of_lt_of_le (ho.lt_nextId id hid) (Channel.nextId_le_run _ _)
  · rw [hsame]
    refine ho.streaming id hid fun hgone => hbox ?_
    rw [events_step]
    exact Channel.mailbox?_run_of_none hv.events (ho.lt_nextId id hid) hgone _

/-- Every turn keeps count of the places. -/
theorem Owns.step {σ : Conversation} (hv : σ.Valid) {ids : List SubscriberId} (ho : σ.Owns ids)
    (t : Turn) : (σ.step t).2.Owns (ids ++ opens σ t) := by
  cases effect σ t with
  | untouched _ _ _ stream _ | neighbour _ _ _ stream _ =>
    refine ho.of_same hv ?_
    rw [subscriber?, stream, subscriber?]
  | taken s _ _ before _ stream _ =>
    refine ho.of_same hv ?_
    rw [subscriber?_of_stream stream, subscriber?_of_stream before]
  | opened content request id turn parsed method named before sends stream does =>
    have hevents : (σ.step t).2.hub.events = σ.hub.events.subscribe.2 := by
      rw [events_step, does]
      rfl
    have hbefore := subscriber?_of_no_stream before
    have hafter := subscriber?_of_stream stream
    have hnew : opens σ t = [σ.hub.events.nextId] := by rw [opens, hbefore, hafter]
    have hfresh : ∀ id ∈ ids, id ≠ σ.hub.events.nextId := fun id hid =>
      Nat.ne_of_lt (ho.lt_nextId id hid)
    rw [hnew]
    refine ⟨?_, fun id hid => ?_, fun id hid hbox => ?_⟩
    · refine ho.nodup.append (List.nodup_singleton _) (List.disjoint_singleton.2 fun hmem => ?_)
      exact hfresh _ hmem rfl
    · rw [hevents]
      rcases List.mem_append.1 hid with hold | hone
      · exact Nat.lt_succ_of_lt (ho.lt_nextId id hold)
      · rw [List.mem_singleton.1 hone]
        exact Nat.lt_succ_self _
    · rcases List.mem_append.1 hid with hold | hone
      · -- No stream was open, so no earlier subscription had a mailbox.
        rw [hevents, Channel.mailbox?_subscribe hv.events, if_neg (hfresh id hold)] at hbox
        have hopen := ho.streaming id hold hbox
        rw [hbefore] at hopen
        cases hopen
      · rw [List.mem_singleton.1 hone, hafter]
  | ended s ending before how sends stream does =>
    have hbefore := subscriber?_of_stream before
    have hafter := subscriber?_of_no_stream stream
    have hnone : opens σ t = [] := by rw [opens, hbefore, hafter]
    rw [hnone, List.append_nil]
    refine ⟨ho.nodup, fun id hid => ?_, fun id hid hbox => ?_⟩
    · rw [events_step]
      exact Nat.lt_of_lt_of_le (ho.lt_nextId id hid) (Channel.nextId_le_run _ _)
    · rw [events_step] at hbox
      by_cases hmine : id = s.subscriber
      · -- The stream lets go of its queue.
        have hgone : (σ.hub.events.run (σ.onEvents t)).mailbox? s.subscriber = none := by
          rw [does]
          cases ending with
          | evicted => exact Channel.mailbox?_leave_self (hv.events.receive s.subscriber) _
          | cancelled | dropped => exact Channel.mailbox?_leave_self hv.events _
        rw [hmine] at hbox
        exact absurd hgone hbox
      · -- Nobody else had a mailbox.
        have hgone : σ.hub.events.mailbox? id = none := by
          by_contra hheld
          have hopen := ho.streaming id hid hheld
          rw [hbefore] at hopen
          exact hmine (Option.some.inj hopen).symm
        have hstill := Channel.mailbox?_run_of_none hv.events (ho.lt_nextId id hid) hgone
          (σ.onEvents t)
        exact absurd hstill hbox

/-- Every conversation keeps count of the places. -/
theorem Owns.run {σ : Conversation} (hv : σ.Valid) {ids : List SubscriberId} (ho : σ.Owns ids)
    (turns : List Turn) : (σ.run turns).Owns (ids ++ trace opens σ turns) := by
  induction turns generalizing σ ids with
  | nil => rwa [trace, List.append_nil]
  | cons t rest ih =>
    have hrest := ih (hv.step t) (ho.step hv t)
    rwa [List.append_assoc] at hrest

/-- A socket that has just been opened has been given no subscription. -/
theorem owns_begin (hub : Hub) : (begin hub).Owns [] where
  nodup := List.nodup_nil
  lt_nextId _ h := absurd h List.not_mem_nil
  streaming _ h := absurd h List.not_mem_nil

/-! ## Without a stream -/

/-- A turn that notifies of something meets an open stream and leaves it open. -/
theorem stream_of_notified {σ : Conversation} {t : Turn} (h : notified (σ.step t).1 ≠ []) :
    σ.socket.stream ≠ none ∧ (σ.step t).2.socket.stream ≠ none := by
  cases effect σ t with
  | untouched answer _ sends _ _ =>
    rw [sends, notified_responses] at h
    exact absurd rfl h
  | neighbour _ _ sends _ _ | opened _ _ _ _ _ _ _ _ sends _ _ =>
    rw [sends] at h
    exact absurd rfl h
  | taken s _ _ before _ stream _ =>
    rw [before, stream]
    exact ⟨Option.some_ne_none _, Option.some_ne_none _⟩
  | ended s ending _ _ sends _ _ =>
    rw [sends, notified_responses] at h
    exact absurd rfl h

/-- While no stream is open, a turn notifies of nothing. -/
theorem notified_of_no_stream {σ : Conversation} (h : σ.socket.stream = none) (t : Turn) :
    notified (σ.step t).1 = [] := by
  by_contra hsome
  exact (stream_of_notified hsome).1 h

/-- A turn after which no stream is open notifies of nothing. -/
theorem notified_of_no_stream_after {σ : Conversation} {t : Turn}
    (h : (σ.step t).2.socket.stream = none) : notified (σ.step t).1 = [] := by
  by_contra hsome
  exact (stream_of_notified hsome).2 h

/-- From a moment without a stream on, nothing is notified of until a stream is opened. -/
theorem notified_of_no_opening {σ : Conversation} (h : σ.socket.stream = none) {turns : List Turn}
    (hnone : trace opens σ turns = []) :
    notified (σ.sent turns) = [] ∧ (σ.run turns).socket.stream = none := by
  induction turns generalizing σ with
  | nil => exact ⟨rfl, h⟩
  | cons t rest ih =>
    obtain ⟨hfirst, hrest⟩ := List.append_eq_nil_iff.1 hnone
    have hstill : (σ.step t).2.socket.stream = none := by
      cases hs : (σ.step t).2.socket.stream with
      | none => rfl
      | some s =>
        rw [opens, subscriber?_of_no_stream h, subscriber?_of_stream hs] at hfirst
        cases hfirst
    obtain ⟨hquiet, hlast⟩ := ih hstill hrest
    refine ⟨?_, hlast⟩
    rw [sent, trace, notified_append, notified_of_no_stream h, hquiet]
    rfl

/-- An open stream is ended by a turn in one of three ways. -/
theorem exists_ending {σ : Conversation} {t : Turn} {id : SubscriberId}
    (hbefore : σ.subscriber? = some id) (hafter : (σ.step t).2.socket.stream = none) :
    ∃ s ending, σ.socket.stream = some s ∧ s.subscriber = id ∧ σ.Ends s t ending ∧
      (σ.step t).1 = (ending.response? s).toList.map .response := by
  cases effect σ t with
  | untouched _ _ _ stream _ | neighbour _ _ _ stream _ =>
    rw [stream] at hafter
    rw [subscriber?_of_no_stream hafter] at hbefore
    cases hbefore
  | opened _ _ _ _ _ _ _ before _ _ _ =>
    rw [subscriber?_of_no_stream before] at hbefore
    cases hbefore
  | taken _ _ _ _ _ stream _ =>
    rw [stream] at hafter
    cases hafter
  | ended s ending before how sends _ _ =>
    rw [subscriber?_of_stream before] at hbefore
    exact ⟨s, ending, before, Option.some.inj hbefore, how, sends⟩

/-- A stream whose final response is the error of a subscriber that fell behind was cut off by the
first event that its queue had no room for, and the client has seen all that was published before,
and no more. -/
theorem Opens.evicted_of_error {σ : Conversation} (hv : σ.Valid) {t : Turn} {s : EventStream}
    (h : Opens σ t s) {during : List Turn} {last : Turn}
    (hlast : ((σ.step t).2.run during).subscriber? = some s.subscriber)
    (hnone : (((σ.step t).2.run during).step last).2.socket.stream = none) {r : Rpc.Response}
    (hr : .response r ∈ (((σ.step t).2.run during).step last).1)
    (hcode : r.error.map (·.code) = some (-32000)) :
    let τ := (σ.step t).2
    ∃ early event late,
      trace onEvents τ during = early ++ .publish event :: late ∧
      (τ.hub.events.run early).isSubscribed s.subscriber = true ∧
      ((τ.hub.events.run early).queued s.subscriber).length = τ.hub.events.capacity ∧
      ((τ.hub.events.run early).publish event).2.isSubscribed s.subscriber = false ∧
      notified (τ.sent (during ++ [last])) = published early := by
  intro τ
  obtain ⟨s', ending, -, hsame, hends, hsent⟩ := exists_ending hlast hnone
  rw [hsent] at hr
  obtain ⟨r', hr', hrr⟩ := List.mem_map.1 hr
  cases hrr
  -- Of the three endings only this one has an error for its response.
  cases ending with
  | cancelled =>
    cases List.mem_singleton.1 hr'
    cases hcode
  | dropped => exact absurd hr' List.not_mem_nil
  | evicted =>
    obtain ⟨-, hend⟩ := hends.spec
    rw [hsame] at hend
    obtain ⟨early, event, late, hsplit, hlive, hfull, hcut, hseen⟩ := h.evicted hv hlast hend
    refine ⟨early, event, late, hsplit, hlive, hfull, hcut, ?_⟩
    have hquiet : notified ((τ.run during).sent [last]) = [] := by
      rw [sent, trace, trace, List.append_nil]
      exact notified_of_no_stream_after hnone
    rw [sent, trace_append, notified_append, hseen, hquiet, List.append_nil]

/-! ## The streams of a conversation -/

/-- What the client of a conversation sees of its streams. -/
structure StreamIntegrity (start : Conversation) (turns : List Turn) : Prop where
  /-- The turns do to the channel of events what their trace says. -/
  events : (start.run turns).hub.events = start.hub.events.run (trace onEvents start turns)
  /-- The message that notifies of an event carries its image. -/
  images : ∀ m ∈ start.sent turns, ∀ event, m.event? = some event →
    m.toJson = .obj [("jsonrpc", .str "2.0"), ("method", .str "notifications/map.event"),
      ("params", event.toJson)]
  /-- While no stream is open, a turn notifies of nothing, not even the one that opens a stream. -/
  silent : ∀ before t after, turns = before ++ t :: after →
    (start.run before).socket.stream = none → notified ((start.run before).step t).1 = []
  /-- From a moment without a stream on, be it the first one or one after a final response, nothing
  is notified of until a stream is opened. -/
  quiet : ∀ before during after, turns = before ++ (during ++ after) →
    (start.run before).socket.stream = none → trace opens (start.run before) during = [] →
    notified ((start.run before).sent during) = [] ∧
      ((start.run before).run during).socket.stream = none
  /-- A stream is opened by a request for it with an id, and by nothing else. -/
  opener : ∀ before t after, turns = before ++ t :: after →
    ∀ s, Opens (start.run before) t s →
      ∃ content request, t = .frame (.text content) ∧
        Rpc.Request.parse content = .ok request ∧ request.method = "map.events.subscribe" ∧
        request.id = some s.requestId
  /-- As long as the stream is open, the client is notified of an initial part of the events
  published since it was opened, in order and each once. They come from the stream's own queue,
  which holds the next ones; the part ends where the stream is cut off, if it is. -/
  contiguous : ∀ before t during after, turns = before ++ t :: (during ++ after) →
    let σ := start.run before
    let τ := (σ.step t).2
    ∀ s, Opens σ t s → (τ.run during).subscriber? = some s.subscriber →
      notified (τ.sent during) = received s.subscriber τ.hub.events (trace onEvents τ during) ∧
      notified (τ.sent during) ++ (τ.run during).hub.events.queued s.subscriber <+:
        published (trace onEvents τ during) ∧
      ((τ.run during).hub.events.isSubscribed s.subscriber = true →
        notified (τ.sent during) ++ (τ.run during).hub.events.queued s.subscriber =
          published (trace onEvents τ during))
  /-- The turn that ends a stream notifies of nothing. -/
  final : ∀ before t after, turns = before ++ t :: after →
    ((start.run before).step t).2.socket.stream = none →
      notified ((start.run before).step t).1 = []
  /-- When the final response is the error of a stream that fell behind, an event was published that
  the queue had no room for, and the client has been notified of all those before it. -/
  evicted : ∀ before t during last after, turns = before ++ t :: (during ++ last :: after) →
    let σ := start.run before
    let τ := (σ.step t).2
    let ρ := τ.run during
    ∀ s, Opens σ t s → ρ.subscriber? = some s.subscriber → (ρ.step last).2.socket.stream = none →
      ∀ r, .response r ∈ (ρ.step last).1 → r.error.map (·.code) = some (-32000) →
        ∃ early event late,
          trace onEvents τ during = early ++ .publish event :: late ∧
          (τ.hub.events.run early).isSubscribed s.subscriber = true ∧
          ((τ.hub.events.run early).queued s.subscriber).length = τ.hub.events.capacity ∧
          ((τ.hub.events.run early).publish event).2.isSubscribed s.subscriber = false ∧
          notified (τ.sent (during ++ [last])) = published early
  /-- The socket gets every subscription once, and holds a place on the channel for none but that of
  the open stream. -/
  places : ∀ before after, turns = before ++ after →
    (trace opens start before).Nodup ∧
      ∀ id ∈ trace opens start before,
        (start.run before).hub.events.isSubscribed id = true ∨
            (start.run before).hub.events.mailbox? id ≠ none →
          (start.run before).subscriber? = some id

/-- On every hub and in every conversation, a client is notified of the events of its open stream,
of all of them up to the one that cuts it off, and of nothing else. -/
theorem notifications_are_contiguous (capacity : Nat) (earlier : List Hub.Action)
    (turns : List Turn) :
    StreamIntegrity (begin ((Hub.create capacity).run earlier)) turns := by
  have hhub : ((Hub.create capacity).run earlier).Valid := (Hub.valid_create capacity).run earlier
  have hstart := valid_begin hhub
  constructor
  case events => exact events_run _ turns
  case images =>
    intro m _ event hm
    cases m with
    | response r => cases hm
    | notification e =>
      cases hm
      rfl
  case silent => exact fun before t after _ hnone => notified_of_no_stream hnone t
  case quiet => exact fun before during after _ hnone hopens => notified_of_no_opening hnone hopens
  case opener =>
    intro before t after _ s hs
    obtain ⟨content, request, ht, hp, hm, hid, -⟩ := hs.spec
    exact ⟨content, request, ht, hp, hm, hid⟩
  case contiguous =>
    intro before t during after _ σ τ s hs hlast
    have hσ : σ.Valid := hstart.run before
    have hτ : τ.Valid := hσ.step t
    obtain ⟨hnotified, hseen, -⟩ := hs.streaming hσ hlast
    refine ⟨hnotified, ?_, fun hlive => ?_⟩
    · -- What a subscriber attends comes first, and so does what is published in it.
      rw [hseen]
      exact (Channel.attended_initial _ _ _).filterMap _
    · have hid := hτ.lt_nextId _ (subscriber?_of_stream hs.stream)
      rw [events_run] at hlive
      rw [hseen, Channel.attended_of_live hid hlive]
  case final => exact fun before t after _ hnone => notified_of_no_stream_after hnone
  case evicted =>
    intro before t during last after _ σ τ ρ s hs hlast hnone r hr hcode
    exact hs.evicted_of_error (hstart.run before) hlast hnone hr hcode
  case places =>
    intro before after _
    have howns := (owns_begin ((Hub.create capacity).run earlier)).run hstart before
    rw [List.nil_append] at howns
    refine ⟨howns.nodup, fun id hid hplace => howns.streaming id hid ?_⟩
    rcases hplace with hlive | hheld
    · exact (hstart.run before).events.held_of_live id ((Channel.isSubscribed_iff _ id).1 hlive)
    · exact hheld

/-- Of two events that are published before the socket takes any, a queue with room for one holds
the first. The client is notified of it, and then its request fails. -/
example :
    ((begin (Hub.create 1)).sent [
      .frame (.text "\x7b\"id\":7,\"method\":\"map.events.subscribe\"\x7d"),
      .publish (.markerOp ⟨.delete, "a", none, none⟩),
      .publish (.markerOp ⟨.delete, "b", none, none⟩), .deliver, .deliver, .deliver]).map
      (fun m => (m.event?.isSome, m.response?.bind (·.error.map (·.code)))) =
    [(true, none), (false, some (-32000))] := by decide +kernel

end Conversation

end LiveMap
