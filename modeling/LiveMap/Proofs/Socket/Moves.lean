import LiveMap.Proofs.Hub.Lane
import LiveMap.Proofs.Socket.Stream

/-!
# What a socket does in one turn

A socket holds a subscription of the events as long as it has a stream, and nothing on the other
lanes. Whatever it does in one turn is one move on each lane (`Conversation.moves_step`): a request
publishes what it asks for, and the stream subscribes, asks for its next event, and lets go.
-/

namespace LiveMap

open Channel (asks quits published)
open Rpc (Request)

namespace Rpc

/-- What a request does to the channel of a lane. -/
def Request.does (r : Request) (hub : Hub) (l : Lane) : List (Channel.Action l.Item) :=
  match r.action? with
  | some (.mutate mutation) => hub.on (.mutate mutation) l
  | some (.issue command) => hub.on (.issue command) l
  | some .list | none => []

/-- On the lane of the events a request publishes what it announces. -/
theorem Request.does_events (r : Request) (hub : Hub) :
    r.does hub .events = (r.announced hub).map .publish := by
  unfold does announced
  cases r.action? with
  | none => rfl
  | some action =>
    cases action with
    | mutate mutation =>
      show Hub.onEvents hub (.mutate mutation) = _
      rw [List.map_map]
      rfl
    | list => rfl
    | issue command => rfl

/-- A request makes a move without holding anything. -/
theorem moves_dispatch (hub : Hub) (r : Request) (held : Lane → Option SubscriberId) :
    hub.Moves (dispatch hub r).2 held held (r.does hub) := by
  have hdoes : r.does hub = fun l => r.does hub l := rfl
  rw [hub_dispatch, hdoes]
  unfold Request.does
  cases r.action? with
  | none => exact .nothing hub held
  | some action =>
    cases action with
    | list => exact .nothing hub held
    | mutate mutation => exact hub.moves_act (.mutate mutation) rfl held
    | issue command => exact hub.moves_act (.issue command) rfl held

end Rpc

namespace Conversation

/-- The subscriptions that a socket holds. -/
def held (σ : Conversation) : Lane → Option SubscriberId
  | .events => σ.subscriber?
  | .ops | .commands => none

/-- The request that is served in a turn, if it is no cancellation. -/
def request? (σ : Conversation) : Turn → Option Request
  | .frame (.text content) =>
    if σ.isOpen then
      match Request.parse content with
      | .ok request => if request.method = RpcSocket.cancelMethod then none else some request
      | .error _ => none
    else none
  | _ => none

/-- What a turn of the socket does to the channel of a lane. -/
def does (σ : Conversation) (t : Turn) : (l : Lane) → List (Channel.Action l.Item)
  | .events => σ.onEvents t
  | .ops => ((σ.request? t).map (·.does σ.hub .ops)).getD []
  | .commands => ((σ.request? t).map (·.does σ.hub .commands)).getD []

/-- Whether a turn does nothing to the channels of operations and commands. -/
structure Quiet (σ : Conversation) (t : Turn) : Prop where
  /-- The operations. -/
  ops : σ.does t .ops = []
  /-- The commands. -/
  commands : σ.does t .commands = []

/-- A turn that serves no request is quiet. -/
theorem quiet_of_no_request {σ : Conversation} {t : Turn} (h : σ.request? t = none) :
    σ.Quiet t where
  ops := by rw [does, h, Option.map_none, Option.getD_none]
  commands := by rw [does, h, Option.map_none, Option.getD_none]

/-- A turn that serves a request for a stream is quiet. -/
theorem quiet_of_subscribe {σ : Conversation} {t : Turn} {r : Request}
    (h : σ.request? t = some r) (hm : r.method = Rpc.subscribeMethod) : σ.Quiet t := by
  have hdoes : ∀ l, r.does σ.hub l = [] := by
    intro l
    rw [Request.does, Request.action?, Rpc.lookup_eq_eventStream_iff.2 hm]
  constructor
  case ops => rw [does, h, Option.map_some, Option.getD_some, hdoes]
  case commands => rw [does, h, Option.map_some, Option.getD_some, hdoes]

/-- A quiet turn is a move if it is one on the channel of events, and leaves the rest of the hub. -/
theorem Quiet.moves {σ : Conversation} {t : Turn} (hq : σ.Quiet t) {events : Channel MapEvent}
    (hhub : (σ.step t).2.hub = { σ.hub with events })
    (hrun : events = σ.hub.events.run (σ.onEvents t))
    (hmove : σ.hub.events.Move σ.subscriber? (σ.onEvents t) (σ.step t).2.subscriber?) :
    σ.hub.Moves (σ.step t).2.hub σ.held (σ.step t).2.held (σ.does t) where
  registry h := by
    rw [hhub]
    exact h
  lane l := by
    rw [hhub]
    cases l with
    | ops =>
      rw [hq.ops]
      rfl
    | commands =>
      rw [hq.commands]
      rfl
    | events => exact hrun
  move l := by
    cases l with
    | ops =>
      rw [hq.ops]
      exact .nothing _ _
    | commands =>
      rw [hq.commands]
      exact .nothing _ _
    | events => exact hmove

/-- A quiet turn in which the socket does nothing is a move. -/
theorem Quiet.moves_of_nothing {σ : Conversation} {t : Turn} (hq : σ.Quiet t)
    (hstep : (σ.step t).2 = σ) (hevents : σ.onEvents t = []) :
    σ.hub.Moves (σ.step t).2.hub σ.held (σ.step t).2.held (σ.does t) := by
  refine hq.moves (by rw [hstep]) (by rw [hevents]; rfl) ?_
  rw [hstep, hevents]
  exact .nothing _ _

/-- A turn that serves a request by dispatching it is a move. -/
theorem moves_of_dispatch {σ : Conversation} {t : Turn} {r : Request}
    (hr : σ.request? t = some r) (hhub : (σ.step t).2.hub = (Rpc.dispatch σ.hub r).2)
    (hstream : (σ.step t).2.subscriber? = σ.subscriber?)
    (hevents : σ.onEvents t = (r.announced σ.hub).map .publish) :
    σ.hub.Moves (σ.step t).2.hub σ.held (σ.step t).2.held (σ.does t) := by
  have hdoes : σ.does t = r.does σ.hub := by
    funext l
    cases l with
    | ops | commands => rw [does, hr, Option.map_some, Option.getD_some]
    | events => rw [does, hevents, r.does_events]
  have hheld : (σ.step t).2.held = σ.held := by
    funext l
    cases l with
    | ops | commands => rfl
    | events => exact hstream
  rw [hdoes, hheld, hhub]
  exact Rpc.moves_dispatch σ.hub r σ.held

/-- A text on an open connection is a move. -/
theorem moves_text {σ : Conversation} (hopen : σ.isOpen = true) (content : String) :
    σ.hub.Moves (σ.step (.frame (.text content))).2.hub σ.held
      (σ.step (.frame (.text content))).2.held (σ.does (.frame (.text content))) := by
  cases hp : Request.parse content with
  | error refusal =>
    obtain ⟨hstep, hevents⟩ := step_refusal hopen hp
    have hquiet : σ.Quiet (.frame (.text content)) := by
      refine quiet_of_no_request ?_
      rw [request?, if_pos hopen, hp]
    exact hquiet.moves_of_nothing (by rw [hstep]) hevents
  | ok r =>
    obtain ⟨hstep, hevents⟩ := step_request hopen hp
    have hcancel : r.method = RpcSocket.cancelMethod → σ.Quiet (.frame (.text content)) := by
      intro hm
      refine quiet_of_no_request ?_
      rw [request?, if_pos hopen, hp]
      exact if_pos hm
    have hserve : r.method ≠ RpcSocket.cancelMethod →
        σ.request? (.frame (.text content)) = some r := by
      intro hm
      rw [request?, if_pos hopen, hp]
      exact if_neg hm
    have hstreams : r.method = Rpc.subscribeMethod → σ.Quiet (.frame (.text content)) := by
      intro hm
      have hother : r.method ≠ RpcSocket.cancelMethod := by
        rw [hm]
        decide
      exact quiet_of_subscribe (hserve hother) hm
    obtain ⟨hc, hs, hr⟩ | ⟨s, hc, hstream, hs, hr⟩ | ⟨hc, -, hs, hr⟩ |
        ⟨id, response, hc, -, -, -, -, hs, hr⟩ | ⟨id, hm, -, hstream, hs, hr⟩ |
        ⟨id, s, hm, -, hstream, hs, hr⟩ := serve_cases σ r
    all_goals rw [hs] at hstep; rw [hr] at hevents
    · -- A cancellation that is not meant for the stream, or finds none.
      have hsame : (σ.step (.frame (.text content))).2 = σ := by
        rw [hstep, ← hopen]
      exact (hcancel hc).moves_of_nothing hsame hevents
    · -- A cancellation that ends the stream.
      refine (hcancel hc).moves (by rw [hstep]) (by rw [hevents]; rfl) ?_
      rw [hstep, hevents, subscriber?, hstream]
      exact .quits (some s.subscriber)
    · exact moves_of_dispatch (hserve hc) (by rw [hstep]) (by rw [hstep]; rfl) hevents
    · exact moves_of_dispatch (hserve hc) (by rw [hstep]) (by rw [hstep]; rfl) hevents
    · -- A stream is opened.
      refine (hstreams hm).moves (by rw [hstep]) (by rw [hevents]; rfl) ?_
      rw [hstep, hevents, subscriber?, hstream]
      exact .joins
    · -- A second stream is refused.
      have hsame : (σ.step (.frame (.text content))).2 = σ := by
        rw [hstep, ← hopen]
      exact (hstreams hm).moves_of_nothing hsame hevents

/-- A frame that ends an open connection is a move. -/
theorem moves_leave {σ : Conversation} (hopen : σ.isOpen = true) {f : Incoming}
    {close : Option CloseFrame} (hv : RpcSocket.verdict f = .leave close) :
    σ.hub.Moves (σ.step (.frame f)).2.hub σ.held (σ.step (.frame f)).2.held
      (σ.does (.frame f)) := by
  obtain ⟨-, -, -, hstream⟩ := effect_leave hopen hv
  have hquiet : σ.Quiet (.frame f) := by
    refine quiet_of_no_request ?_
    cases f with
    | text content => cases hv
    | binary | ping | pong | close | lost => rfl
  have hevents : σ.onEvents (.frame f) = quits σ.subscriber? := by
    have hend : σ.onFrame f = σ.onEnd := by
      cases f with
      | text content => cases hv
      | ping | pong => cases hv
      | binary | close | lost => rfl
    rw [(step_frame hopen f).2, hend, onEnd, subscriber?]
    cases σ.socket.stream <;> rfl
  have hhub : (σ.step (.frame f)).2.hub =
      { σ.hub with events := σ.hub.events.run (σ.onEvents (.frame f)) } := by
    have hrelease : (σ.socket.release σ.hub).2 =
        { σ.hub with events := σ.hub.events.run (quits σ.subscriber?) } := by
      rw [RpcSocket.release, subscriber?]
      cases σ.socket.stream <;> rfl
    rw [(step_frame hopen f).1, hevents, ← hrelease]
    cases f with
    | text content => cases hv
    | ping | pong => cases hv
    | binary | close | lost => rfl
  refine hquiet.moves hhub rfl ?_
  rw [hevents, subscriber?_of_no_stream hstream]
  exact .quits σ.subscriber?

/-- A frame that is no text and leaves the connection open is a move. -/
theorem moves_stay {σ : Conversation} {f : Incoming} (hv : RpcSocket.verdict f = .stay)
    (htext : ∀ content, f ≠ .text content) :
    σ.hub.Moves (σ.step (.frame f)).2.hub σ.held (σ.step (.frame f)).2.held
      (σ.does (.frame f)) := by
  have hstays : σ.step (.frame f) = ([], σ) ∧ σ.onEvents (.frame f) = [] := step_stay hv htext
  obtain ⟨hstep, hevents⟩ := hstays
  have hquiet : σ.Quiet (.frame f) := by
    refine quiet_of_no_request ?_
    cases f with
    | text content => exact absurd rfl (htext content)
    | binary | ping | pong | close | lost => rfl
  exact hquiet.moves_of_nothing (by rw [hstep]) hevents

/-- Taking the next event on an open connection is a move. -/
theorem moves_deliver {σ : Conversation} (hopen : σ.isOpen = true) :
    σ.hub.Moves (σ.step .deliver).2.hub σ.held (σ.step .deliver).2.held (σ.does .deliver) := by
  obtain ⟨hstep, hevents⟩ := step_deliver hopen
  have hquiet : σ.Quiet .deliver := quiet_of_no_request rfl
  obtain ⟨hs, hd, hr⟩ | ⟨s, hs, -, hd, hr⟩ | ⟨s, delivered, hs, -, hd, hr⟩ := deliver_cases σ
  all_goals rw [hd] at hstep; rw [hr] at hevents
  · exact hquiet.moves_of_nothing (by rw [hstep]) hevents
  · refine hquiet.moves (by rw [hstep]) (by rw [hevents]; rfl) ?_
    rw [hstep, hevents, subscriber?, hs]
    exact .leaves (some s.subscriber)
  · refine hquiet.moves (by rw [hstep]) (by rw [hevents]; rfl) ?_
    rw [hstep, hevents, subscriber?, hs]
    exact .asks (some s.subscriber)

/-- A socket publishes nothing, unless it gets a text. -/
theorem published_does (σ : Conversation) {t : Turn}
    (ht : (∃ f, t = .frame f ∧ ∀ content, f ≠ .text content) ∨ t = .deliver) (l : Lane) :
    published (σ.does t l) = [] := by
  have hquiet : σ.Quiet t := by
    refine quiet_of_no_request ?_
    rcases ht with ⟨f, rfl, htext⟩ | rfl
    · cases f with
      | text content => exact absurd rfl (htext content)
      | binary | ping | pong | close | lost => rfl
    · rfl
  have hend : published σ.onEnd = [] := by
    unfold onEnd
    cases σ.socket.stream <;> rfl
  cases l with
  | ops =>
    rw [hquiet.ops]
    rfl
  | commands =>
    rw [hquiet.commands]
    rfl
  | events =>
    show published (σ.onEvents t) = []
    unfold onEvents
    rcases ht with ⟨f, rfl, htext⟩ | rfl
    · dsimp only
      split
      · cases f with
        | text content => exact absurd rfl (htext content)
        | ping | pong => rfl
        | binary | close | lost => exact hend
      · rfl
    · unfold onDeliver
      dsimp only
      split
      · split
        · rfl
        · split <;> rfl
      · rfl

/-- Whatever the socket does in one turn is one move on each lane. -/
theorem moves_step (σ : Conversation) {t : Turn} (ht : (∃ f, t = .frame f) ∨ t = .deliver) :
    σ.hub.Moves (σ.step t).2.hub σ.held (σ.step t).2.held (σ.does t) := by
  cases hopen : σ.isOpen with
  | false =>
    rcases ht with ⟨f, rfl⟩ | rfl
    · obtain ⟨hstep, hevents⟩ := step_frame_of_ended hopen f
      have hquiet : σ.Quiet (.frame f) := by
        refine quiet_of_no_request ?_
        unfold request?
        rw [hopen]
        split <;> rfl
      exact hquiet.moves_of_nothing (by rw [hstep]) hevents
    · obtain ⟨hstep, hevents⟩ := step_deliver_of_ended hopen
      exact (quiet_of_no_request rfl).moves_of_nothing (by rw [hstep]) hevents
  | true =>
    rcases ht with ⟨f, rfl⟩ | rfl
    · cases f with
      | text content => exact moves_text hopen content
      | ping | pong => exact moves_stay rfl fun _ h => (by cases h)
      | binary | close | lost => exact moves_leave hopen rfl
    · exact moves_deliver hopen

end Conversation

end LiveMap
