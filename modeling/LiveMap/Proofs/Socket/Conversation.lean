import LiveMap.Proofs.Channel.Delivery
import LiveMap.Proofs.Rpc.Dispatch
import LiveMap.Socket.Rpc

/-!
# Conversations over an RPC socket

A conversation is one socket on a hub that it shares with everybody. A turn of it is a frame of the
client, or the moment at which the socket takes the next event of its stream, or something that
others do to the hub. Nobody else holds the subscription of the socket's stream; apart from that the
others may do what they like, also between the steps of a mutation, so that the registry and the
other channels are whatever they are at each turn.

All that a turn can do to the stream is said once, in `Effect`, together with what it does to
the channel of events: it leaves the stream alone, opens one, takes an event of the open one, or
ends it. What a conversation does to the channel of events is a run of it (`events_run`).
-/

namespace LiveMap

open Rpc (Request Response)
open Channel (Listening)

/-- The response that a message is, if it is one. -/
def RpcMessage.response? : RpcMessage → Option Response
  | response r => some r
  | notification _ => none

/-- The event that a message notifies of, if it does. -/
def RpcMessage.event? : RpcMessage → Option MapEvent
  | notification e => some e
  | response _ => none

/-- How a stream ends. -/
inductive Ending where
  /-- The client cancels it. -/
  | cancelled
  /-- It has fallen behind. -/
  | evicted
  /-- The connection ends. -/
  | dropped

/-- The final response to the request that opened a stream. -/
def Ending.response? (s : EventStream) : Ending → Option Response
  | cancelled => some (.success s.requestId Rpc.okResult)
  | evicted => some (.failure s.requestId .subscriptionEvicted)
  | dropped => none

/-- What the end of a stream does to the channel of events. -/
def Ending.onEvents (s : EventStream) : Ending → List (Channel.Action MapEvent)
  | evicted => [.listen (.receive s.subscriber), .listen (.leave s.subscriber)]
  | cancelled | dropped => [.listen (.leave s.subscriber)]

/-- A socket in use, and the hub that it shares with others. -/
structure Conversation where
  /-- The server's side of the socket. -/
  socket : RpcSocket
  /-- The hub. -/
  hub : Hub
  /-- Whether the connection goes on. -/
  isOpen : Bool

/-- All that can happen next. -/
inductive Turn where
  /-- A frame of the client arrives. -/
  | frame (f : Incoming)
  /-- The socket takes the next event of its stream. -/
  | deliver
  /-- Somebody else publishes an event. -/
  | publish (event : MapEvent)
  /-- Some other subscriber of the events does something. -/
  | neighbour (l : Listening)
  /-- Others change the rest of the hub. -/
  | elsewhere (registry : Registry) (ops : Channel MarkerOp) (commands : Channel MapCommand)

namespace Conversation

/-- A socket that has just been opened. -/
def begin (hub : Hub) : Conversation := ⟨.idle, hub, true⟩

/-- The subscription of the open stream. -/
def subscriber? (σ : Conversation) : Option SubscriberId :=
  σ.socket.stream.map EventStream.subscriber

/-- Whether only the socket itself can do this, because it holds the subscription. -/
def reserves (σ : Conversation) : Listening → Bool
  | .subscribe => false
  | .receive id | .unsubscribe id | .leave id => σ.subscriber? == some id

/-- The messages that the socket sends in a turn, and the conversation after it. A socket whose
connection has ended does nothing any more, and what only the socket can do is not done by
others. -/
def step (σ : Conversation) : Turn → List RpcMessage × Conversation
  | .frame f =>
    if σ.isOpen then
      let (sent, verdict, socket, hub) := σ.socket.receive f σ.hub
      (sent, ⟨socket, hub, verdict == .stay⟩)
    else ([], σ)
  | .deliver =>
    if σ.isOpen then
      let (sent, socket, hub) := σ.socket.deliver σ.hub
      (sent.toList, { σ with socket, hub })
    else ([], σ)
  | .publish event => ([], { σ with hub := (σ.hub.publishEvent event).2 })
  | .neighbour l =>
    if σ.reserves l then ([], σ)
    else ([], { σ with hub := { σ.hub with events := σ.hub.events.listen l } })
  | .elsewhere registry ops commands =>
    ([], { σ with hub := { σ.hub with registry, ops, commands } })

/-- The conversation after some turns. -/
def run (σ : Conversation) (turns : List Turn) : Conversation :=
  turns.foldl (fun σ t => (σ.step t).2) σ

/-- What the turns of a conversation contribute one after the other, each seen from the
conversation that it meets. -/
def trace {β : Type} (contribution : Conversation → Turn → List β) :
    Conversation → List Turn → List β
  | _, [] => []
  | σ, t :: rest => contribution σ t ++ trace contribution (σ.step t).2 rest

/-- The messages that the socket sends in some turns. -/
abbrev sent : Conversation → List Turn → List RpcMessage := trace fun σ t => (σ.step t).1

/-- What a request does to the channel of events: it gives up the stream, opens one, or publishes
what it announces. -/
def onRequest (σ : Conversation) (request : Request) : List (Channel.Action MapEvent) :=
  if request.method = RpcSocket.cancelMethod then
    match σ.socket.stream with
    | none => []
    | some s =>
      if RpcSocket.isCancelled s (RpcSocket.cancelTarget? request.params) then
        [.listen (.leave s.subscriber)]
      else []
  else
    match (Rpc.dispatch σ.hub request).1, σ.socket.stream with
    | .subscribe _, none => [.listen .subscribe]
    | .subscribe _, some _ => []
    | .reply _, _ | .silent, _ => (request.announced σ.hub).map .publish

/-- What the end of the connection does to the channel of events. -/
def onEnd (σ : Conversation) : List (Channel.Action MapEvent) :=
  match σ.socket.stream with
  | none => []
  | some s => [.listen (.leave s.subscriber)]

/-- What taking the next event does to the channel of events. -/
def onDeliver (σ : Conversation) : List (Channel.Action MapEvent) :=
  match σ.socket.stream with
  | none => []
  | some s =>
    match (σ.hub.events.receive s.subscriber).1 with
    | .ended => [.listen (.receive s.subscriber), .listen (.leave s.subscriber)]
    | .item _ | .pending => [.listen (.receive s.subscriber)]

/-- What a frame does to the channel of events. -/
def onFrame (σ : Conversation) : Incoming → List (Channel.Action MapEvent)
  | .text content =>
    match Request.parse content with
    | .error _ => []
    | .ok request => σ.onRequest request
  | .ping | .pong => []
  | .binary | .close _ | .lost => σ.onEnd

/-- What a turn does to the channel of events. -/
def onEvents (σ : Conversation) : Turn → List (Channel.Action MapEvent)
  | .frame f => if σ.isOpen then σ.onFrame f else []
  | .deliver => if σ.isOpen then σ.onDeliver else []
  | .publish event => [.publish event]
  | .neighbour l => if σ.reserves l then [] else [.listen l]
  | .elsewhere .. => []

@[simp] theorem run_nil (σ : Conversation) : σ.run [] = σ := rfl

@[simp] theorem run_cons (σ : Conversation) (t : Turn) (rest : List Turn) :
    σ.run (t :: rest) = (σ.step t).2.run rest := rfl

theorem trace_append {β : Type} (contribution : Conversation → Turn → List β) (σ : Conversation)
    (first second : List Turn) :
    trace contribution σ (first ++ second) =
      trace contribution σ first ++ trace contribution (σ.run first) second := by
  induction first generalizing σ with
  | nil => rfl
  | cons t rest ih => rw [List.cons_append, trace, ih, trace, List.append_assoc, run_cons]

/-! ## Requests -/

/-- All that a request can do. It cancels the stream, or tries to and is not meant for it; or it is
no cancellation and has no id, or is answered at once; or it opens a stream, or is refused because
one is open. -/
theorem serve_cases (σ : Conversation) (request : Request) :
    (request.method = RpcSocket.cancelMethod ∧
      σ.socket.serve request σ.hub = ([], σ.socket, σ.hub) ∧ σ.onRequest request = []) ∨
    (∃ s, request.method = RpcSocket.cancelMethod ∧ σ.socket.stream = some s ∧
      σ.socket.serve request σ.hub = ([.response (.success s.requestId Rpc.okResult)], .idle,
        { σ.hub with events := σ.hub.events.leave s.subscriber }) ∧
      σ.onRequest request = [.listen (.leave s.subscriber)]) ∨
    (request.method ≠ RpcSocket.cancelMethod ∧ request.id = none ∧
      σ.socket.serve request σ.hub = ([], σ.socket, (Rpc.dispatch σ.hub request).2) ∧
      σ.onRequest request = (request.announced σ.hub).map .publish) ∨
    (∃ id response, request.method ≠ RpcSocket.cancelMethod ∧
      request.method ≠ Rpc.subscribeMethod ∧ request.id = some id ∧ response.id = id ∧
      response.WellFormed ∧
      σ.socket.serve request σ.hub =
        ([.response response], σ.socket, (Rpc.dispatch σ.hub request).2) ∧
      σ.onRequest request = (request.announced σ.hub).map .publish) ∨
    (∃ id, request.method = Rpc.subscribeMethod ∧ request.id = some id ∧
      σ.socket.stream = none ∧
      σ.socket.serve request σ.hub = ([], ⟨some ⟨id, σ.hub.events.nextId, 0⟩⟩,
        { σ.hub with events := σ.hub.events.subscribe.2 }) ∧
      σ.onRequest request = [.listen .subscribe]) ∨
    (∃ id s, request.method = Rpc.subscribeMethod ∧ request.id = some id ∧
      σ.socket.stream = some s ∧
      σ.socket.serve request σ.hub =
        ([.response (.failure id (RpcSocket.busy s.requestId))], σ.socket, σ.hub) ∧
      σ.onRequest request = []) := by
  by_cases hc : request.method = RpcSocket.cancelMethod
  · rw [RpcSocket.serve, if_pos hc, onRequest, if_pos hc, RpcSocket.cancel]
    cases hs : σ.socket.stream with
    | none => exact Or.inl ⟨hc, rfl, rfl⟩
    | some s =>
      by_cases hm : RpcSocket.isCancelled s (RpcSocket.cancelTarget? request.params) = true
      · refine Or.inr (Or.inl ⟨s, hc, rfl, ?_, if_pos hm⟩)
        dsimp only
        rw [if_pos hm, RpcSocket.release, hs]
      · refine Or.inl ⟨hc, ?_, if_neg hm⟩
        dsimp only
        rw [if_neg hm]
  · rw [RpcSocket.serve, if_neg hc, onRequest, if_neg hc]
    refine Or.inr (Or.inr ?_)
    obtain ⟨hid, hd⟩ | ⟨id, response, hid, hm, hd, hrid, hwell⟩ | ⟨id, hid, hm, hd⟩ :=
      Rpc.dispatch_cases σ.hub request
    · have heq : Rpc.dispatch σ.hub request = (.silent, (Rpc.dispatch σ.hub request).2) :=
        Prod.ext hd rfl
      refine Or.inl ⟨hc, hid, ?_, by rw [hd]⟩
      rw [heq]
    · have heq : Rpc.dispatch σ.hub request = (.reply response, (Rpc.dispatch σ.hub request).2) :=
        Prod.ext hd rfl
      refine Or.inr (Or.inl ⟨id, response, hc, hm, hid, hrid, hwell, ?_, by rw [hd]⟩)
      rw [heq]
    · rw [hd]
      refine Or.inr (Or.inr ?_)
      dsimp only
      rw [RpcSocket.subscribe]
      cases hs : σ.socket.stream with
      | none => exact Or.inl ⟨id, hm, hid, rfl, rfl, rfl⟩
      | some s => exact Or.inr ⟨id, s, hm, hid, rfl, rfl, rfl⟩

/-! ## Turns -/

/-- What the end of the connection does: an open stream ends with it, unanswered. -/
theorem release_eq (σ : Conversation) :
    (σ.socket.release σ.hub).1 = .idle ∧
      (σ.socket.release σ.hub).2.events = σ.hub.events.run σ.onEnd := by
  obtain ⟨⟨stream⟩, hub, isOpen⟩ := σ
  cases stream with
  | none => exact ⟨rfl, rfl⟩
  | some s => exact ⟨rfl, rfl⟩

/-- All that taking the next event can do. There is no stream; or it is at its end, and its request
has failed; or the event that is found, if there is one, is sent. -/
theorem deliver_cases (σ : Conversation) :
    (σ.socket.stream = none ∧ σ.socket.deliver σ.hub = (none, σ.socket, σ.hub) ∧
      σ.onDeliver = []) ∨
    (∃ s, σ.socket.stream = some s ∧ (σ.hub.events.receive s.subscriber).1 = .ended ∧
      σ.socket.deliver σ.hub =
        (some (.response (.failure s.requestId .subscriptionEvicted)), .idle,
          { σ.hub with
            events := (σ.hub.events.receive s.subscriber).2.leave s.subscriber }) ∧
      σ.onDeliver = [.listen (.receive s.subscriber), .listen (.leave s.subscriber)]) ∨
    (∃ s delivered, σ.socket.stream = some s ∧ (σ.hub.events.receive s.subscriber).1 ≠ .ended ∧
      σ.socket.deliver σ.hub =
        ((σ.hub.events.receive s.subscriber).1.item?.map .notification,
          ⟨some { s with delivered }⟩,
          { σ.hub with events := (σ.hub.events.receive s.subscriber).2 }) ∧
      σ.onDeliver = [.listen (.receive s.subscriber)]) := by
  unfold RpcSocket.deliver onDeliver
  cases hs : σ.socket.stream with
  | none => exact Or.inl ⟨rfl, rfl, rfl⟩
  | some s =>
    refine Or.inr ?_
    dsimp only
    cases hr : σ.hub.events.receive s.subscriber with
    | mk receipt events =>
      cases receipt with
      | item event =>
        exact Or.inr ⟨s, s.delivered + 1, rfl, by rw [hr]; nofun, by rw [hr]; rfl, rfl⟩
      | pending =>
        -- Nothing is found, and the stream is as it was.
        have hsame : σ.socket = ⟨some { s with delivered := s.delivered }⟩ := by
          obtain ⟨⟨stream⟩, hub, isOpen⟩ := σ
          exact congrArg RpcSocket.mk hs
        refine Or.inr ⟨s, s.delivered, rfl, by rw [hr]; nofun, ?_, rfl⟩
        rw [hr, ← hsame]
        rfl
      | ended =>
        refine Or.inl ⟨s, rfl, by rw [hr], ?_, rfl⟩
        rw [hr]
        dsimp only
        rw [RpcSocket.release, hs]

/-- A frame on an open connection. -/
theorem step_frame {σ : Conversation} (hopen : σ.isOpen = true) (f : Incoming) :
    σ.step (.frame f) = ((σ.socket.receive f σ.hub).1,
        ⟨(σ.socket.receive f σ.hub).2.2.1, (σ.socket.receive f σ.hub).2.2.2,
          (σ.socket.receive f σ.hub).2.1 == .stay⟩) ∧
      σ.onEvents (.frame f) = σ.onFrame f := by
  rw [step, onEvents, if_pos hopen, if_pos hopen]
  exact ⟨rfl, rfl⟩

/-- A request on an open connection is served. -/
theorem step_request {σ : Conversation} (hopen : σ.isOpen = true) {content : String}
    {request : Request} (h : Request.parse content = .ok request) :
    σ.step (.frame (.text content)) = ((σ.socket.serve request σ.hub).1,
        ⟨(σ.socket.serve request σ.hub).2.1, (σ.socket.serve request σ.hub).2.2, true⟩) ∧
      σ.onEvents (.frame (.text content)) = σ.onRequest request := by
  obtain ⟨hstep, hevents⟩ := step_frame hopen (.text content)
  rw [hstep, hevents, onFrame, h]
  dsimp only [RpcSocket.receive]
  rw [RpcSocket.handleText, h]
  exact ⟨rfl, rfl⟩

/-- A text on an open connection that is no request is answered with the reason. -/
theorem step_refusal {σ : Conversation} (hopen : σ.isOpen = true) {content : String}
    {refusal : Response} (h : Request.parse content = .error refusal) :
    σ.step (.frame (.text content)) = ([.response refusal], σ) ∧
      σ.onEvents (.frame (.text content)) = [] := by
  obtain ⟨hstep, hevents⟩ := step_frame hopen (.text content)
  have hsame : (⟨σ.socket, σ.hub, true⟩ : Conversation) = σ := by rw [← hopen]
  rw [hstep, hevents, onFrame, h]
  dsimp only [RpcSocket.receive]
  rw [RpcSocket.handleText, h]
  exact ⟨congrArg (Prod.mk _) hsame, rfl⟩

/-- Taking the next event on an open connection. -/
theorem step_deliver {σ : Conversation} (hopen : σ.isOpen = true) :
    σ.step .deliver = ((σ.socket.deliver σ.hub).1.toList,
        { σ with
          socket := (σ.socket.deliver σ.hub).2.1
          hub := (σ.socket.deliver σ.hub).2.2 }) ∧
      σ.onEvents .deliver = σ.onDeliver := by
  rw [step, onEvents, if_pos hopen, if_pos hopen]
  exact ⟨rfl, rfl⟩

/-- Once the connection has ended, frames do nothing. -/
theorem step_frame_of_ended {σ : Conversation} (hended : σ.isOpen = false) (f : Incoming) :
    σ.step (.frame f) = ([], σ) ∧ σ.onEvents (.frame f) = [] := by
  rw [step, onEvents, hended]
  exact ⟨rfl, rfl⟩

/-- Once the connection has ended, no event is taken. -/
theorem step_deliver_of_ended {σ : Conversation} (hended : σ.isOpen = false) :
    σ.step .deliver = ([], σ) ∧ σ.onEvents .deliver = [] := by
  rw [step, onEvents, hended]
  exact ⟨rfl, rfl⟩

/-- How a turn ends a stream: by a cancellation, by finding its end, or with the connection. -/
def Ends (σ : Conversation) (s : EventStream) : Turn → Ending → Prop
  | .frame (.text content), .cancelled =>
    ∃ request, Request.parse content = .ok request ∧ request.method = RpcSocket.cancelMethod
  | .deliver, .evicted => (σ.hub.events.receive s.subscriber).1 = .ended
  | .frame .binary, .dropped | .frame (.close _), .dropped | .frame .lost, .dropped => True
  | _, _ => False

/-- Each ending has its own turns. -/
theorem Ends.spec {σ : Conversation} {s : EventStream} {t : Turn} {ending : Ending}
    (h : σ.Ends s t ending) :
    match ending with
    | .cancelled => ∃ content request, t = .frame (.text content) ∧
        Request.parse content = .ok request ∧ request.method = RpcSocket.cancelMethod
    | .evicted => t = .deliver ∧ (σ.hub.events.receive s.subscriber).1 = .ended
    | .dropped => ∃ f close, t = .frame f ∧ RpcSocket.verdict f = .leave close := by
  unfold Ends at h
  split at h
  · obtain ⟨request, hp, hm⟩ := h
    exact ⟨_, request, rfl, hp, hm⟩
  · exact ⟨rfl, h⟩
  · exact ⟨_, _, rfl, rfl⟩
  · exact ⟨_, _, rfl, rfl⟩
  · exact ⟨_, _, rfl, rfl⟩
  · exact h.elim

/-- What a turn does to the stream, what it sends, and what it does to the channel of events. -/
inductive Effect (σ : Conversation) (t : Turn) : Prop where
  /-- It leaves the stream alone, and may answer something or publish something. -/
  | untouched (answer : Option Response) (events : List MapEvent)
      (sends : (σ.step t).1 = answer.toList.map .response)
      (stream : (σ.step t).2.socket.stream = σ.socket.stream)
      (does : σ.onEvents t = events.map .publish)
  /-- It is what another subscriber does. -/
  | neighbour (l : Listening) (free : σ.reserves l = false)
      (sends : (σ.step t).1 = [])
      (stream : (σ.step t).2.socket.stream = σ.socket.stream)
      (does : σ.onEvents t = [.listen l])
  /-- It opens a stream. -/
  | opened (content : String) (request : Request) (id : Json)
      (turn : t = .frame (.text content)) (parsed : Request.parse content = .ok request)
      (method : request.method = Rpc.subscribeMethod) (named : request.id = some id)
      (before : σ.socket.stream = none)
      (sends : (σ.step t).1 = [])
      (stream : (σ.step t).2.socket.stream = some ⟨id, σ.hub.events.nextId, 0⟩)
      (does : σ.onEvents t = [.listen .subscribe])
  /-- It looks for the next event of the stream, and sends it if there is one. -/
  | taken (s : EventStream) (delivered : Nat) (turn : t = .deliver)
      (before : σ.socket.stream = some s)
      (sends : (σ.step t).1 =
        (σ.hub.events.receive s.subscriber).1.item?.toList.map .notification)
      (stream : (σ.step t).2.socket.stream = some { s with delivered })
      (does : σ.onEvents t = [.listen (.receive s.subscriber)])
  /-- It ends the stream. -/
  | ended (s : EventStream) (ending : Ending) (before : σ.socket.stream = some s)
      (how : σ.Ends s t ending)
      (sends : (σ.step t).1 = (ending.response? s).toList.map .response)
      (stream : (σ.step t).2.socket.stream = none)
      (does : σ.onEvents t = ending.onEvents s)

/-- A turn that does nothing leaves the stream alone. -/
theorem Effect.of_nothing {σ : Conversation} {t : Turn}
    (h : σ.step t = ([], σ) ∧ σ.onEvents t = []) : σ.Effect t :=
  .untouched none [] (congrArg Prod.fst h.1) (by rw [h.1]) h.2

/-- What a text does on an open connection. -/
theorem effect_text {σ : Conversation} (hopen : σ.isOpen = true) (content : String) :
    σ.Effect (.frame (.text content)) := by
  cases hp : Request.parse content with
  | error refusal =>
    obtain ⟨hstep, hevents⟩ := step_refusal hopen hp
    exact .untouched (some refusal) [] (congrArg Prod.fst hstep) (by rw [hstep]) hevents
  | ok request =>
    obtain ⟨hstep, hevents⟩ := step_request hopen hp
    obtain ⟨-, hs, hr⟩ | ⟨s, hc, hstream, hs, hr⟩ | ⟨-, -, hs, hr⟩ |
        ⟨id, response, -, -, -, -, -, hs, hr⟩ | ⟨id, hm, hid, hstream, hs, hr⟩ |
        ⟨id, s, -, -, hstream, hs, hr⟩ := serve_cases σ request
    all_goals rw [hs] at hstep; rw [hr] at hevents
    · exact .untouched none [] (congrArg Prod.fst hstep) (by rw [hstep]) hevents
    · exact .ended s .cancelled hstream ⟨request, hp, hc⟩ (congrArg Prod.fst hstep)
        (by rw [hstep]; rfl) hevents
    · exact .untouched none _ (congrArg Prod.fst hstep) (by rw [hstep]) hevents
    · exact .untouched (some response) _ (congrArg Prod.fst hstep) (by rw [hstep]) hevents
    · exact .opened content request id rfl hp hm hid hstream (congrArg Prod.fst hstep)
        (by rw [hstep]) hevents
    · exact .untouched (some _) [] (congrArg Prod.fst hstep) (by rw [hstep]) hevents

/-- What a frame does that ends an open connection. -/
theorem effect_leave {σ : Conversation} (hopen : σ.isOpen = true) {f : Incoming}
    {close : Option CloseFrame} (hv : RpcSocket.verdict f = .leave close) :
    σ.Effect (.frame f) ∧ (σ.step (.frame f)).1 = [] ∧ (σ.step (.frame f)).2.isOpen = false ∧
      (σ.step (.frame f)).2.socket.stream = none := by
  obtain ⟨hidle, -⟩ := release_eq σ
  obtain ⟨hstep, hevents⟩ := step_frame hopen f
  have hreceive : σ.socket.receive f σ.hub =
      ([], .leave close, (σ.socket.release σ.hub).1, (σ.socket.release σ.hub).2) := by
    cases f with
    | text content => cases hv
    | binary | ping | pong | close | lost =>
      dsimp only [RpcSocket.receive]
      rw [hv]
  have hend : σ.onFrame f = σ.onEnd := by
    cases f with
    | text content => cases hv
    | ping | pong => cases hv
    | binary | close | lost => rfl
  have hends : ∀ s, σ.Ends s (.frame f) .dropped := by
    intro s
    cases f with
    | text content => cases hv
    | ping | pong => cases hv
    | binary | close | lost => exact trivial
  rw [hreceive] at hstep
  rw [hend] at hevents
  have hstream : (σ.step (.frame f)).2.socket.stream = none := by rw [hstep, hidle]; rfl
  refine ⟨?_, congrArg Prod.fst hstep, by rw [hstep]; rfl, hstream⟩
  cases hs : σ.socket.stream with
  | none =>
    refine .untouched none [] (congrArg Prod.fst hstep) (by rw [hstream, hs]) ?_
    rw [hevents, onEnd, hs]
    rfl
  | some s =>
    refine .ended s .dropped hs (hends s) (congrArg Prod.fst hstep) hstream ?_
    rw [hevents, onEnd, hs]
    rfl

/-- What a frame does that is no text and leaves the connection open. -/
theorem step_stay {σ : Conversation} {f : Incoming} (hv : RpcSocket.verdict f = .stay)
    (htext : ∀ content, f ≠ .text content) :
    σ.step (.frame f) = ([], σ) ∧ σ.onEvents (.frame f) = [] := by
  cases hopen : σ.isOpen with
  | false => exact step_frame_of_ended hopen f
  | true =>
    have hsame : (⟨σ.socket, σ.hub, true⟩ : Conversation) = σ := by rw [← hopen]
    obtain ⟨hstep, hevents⟩ := step_frame hopen f
    rw [hstep, hevents]
    cases f with
    | text content => exact absurd rfl (htext content)
    | ping | pong => exact ⟨congrArg (Prod.mk _) hsame, rfl⟩
    | binary | close | lost => cases hv

/-- What taking the next event does on an open connection. -/
theorem effect_deliver {σ : Conversation} (hopen : σ.isOpen = true) : σ.Effect .deliver := by
  obtain ⟨hstep, hevents⟩ := step_deliver hopen
  obtain ⟨hs, hd, hr⟩ | ⟨s, hs, hend, hd, hr⟩ |
    ⟨s, delivered, hs, -, hd, hr⟩ := deliver_cases σ
  all_goals rw [hd] at hstep; rw [hr] at hevents
  · exact .untouched none [] (congrArg Prod.fst hstep) (by rw [hstep]) hevents
  · exact .ended s .evicted hs hend (congrArg Prod.fst hstep) (by rw [hstep]; rfl) hevents
  · refine .taken s delivered rfl hs ?_ (by rw [hstep]) hevents
    rw [hstep]
    cases (σ.hub.events.receive s.subscriber).1.item? <;> rfl

/-- Every turn does one of these things. -/
theorem effect (σ : Conversation) (t : Turn) : σ.Effect t := by
  cases t with
  | frame f =>
    cases hopen : σ.isOpen with
    | false => exact .of_nothing (step_frame_of_ended hopen f)
    | true =>
      cases f with
      | text content => exact effect_text hopen content
      | ping => exact .of_nothing (step_stay rfl fun _ h => by cases h)
      | pong => exact .of_nothing (step_stay rfl fun _ h => by cases h)
      | binary => exact (effect_leave hopen rfl).1
      | close frame => exact (effect_leave hopen rfl).1
      | lost => exact (effect_leave hopen rfl).1
  | deliver =>
    cases hopen : σ.isOpen with
    | false => exact .of_nothing (step_deliver_of_ended hopen)
    | true => exact effect_deliver hopen
  | publish event => exact .untouched none [event] rfl rfl rfl
  | neighbour l =>
    cases hr : σ.reserves l with
    | true =>
      refine .of_nothing ⟨?_, ?_⟩
      · rw [step, if_pos hr]
      · rw [onEvents, if_pos hr]
    | false =>
      have hfree : ¬σ.reserves l = true := by
        rw [hr]
        exact Bool.false_ne_true
      refine .neighbour l hr ?_ ?_ ?_
      · rw [step, if_neg hfree]
      · rw [step, if_neg hfree]
      · rw [onEvents, if_neg hfree]
  | elsewhere registry ops commands => exact .untouched none [] rfl rfl rfl

/-! ## The channel of events -/

/-- A turn does to the channel of events what `onEvents` says. -/
theorem events_step (σ : Conversation) (t : Turn) :
    (σ.step t).2.hub.events = σ.hub.events.run (σ.onEvents t) := by
  cases t with
  | frame f =>
    cases hopen : σ.isOpen with
    | false =>
      obtain ⟨hstep, hevents⟩ := step_frame_of_ended hopen f
      rw [hstep, hevents]
      rfl
    | true =>
      obtain ⟨hstep, hevents⟩ := step_frame hopen f
      have hrelease := (release_eq σ).2
      cases f with
      | text content =>
        cases hp : Request.parse content with
        | error refusal =>
          obtain ⟨hstep, hevents⟩ := step_refusal hopen hp
          rw [hstep, hevents]
          rfl
        | ok request =>
          obtain ⟨hstep, hevents⟩ := step_request hopen hp
          obtain ⟨-, hs, hr⟩ | ⟨s, -, -, hs, hr⟩ | ⟨-, -, hs, hr⟩ |
            ⟨id, response, -, -, -, -, -, hs, hr⟩ | ⟨id, -, -, -, hs, hr⟩ |
            ⟨id, s, -, -, -, hs, hr⟩ := serve_cases σ request
          all_goals rw [hstep, hevents, hs, hr]
          · rfl
          · rfl
          · exact Rpc.events_dispatch σ.hub request
          · exact Rpc.events_dispatch σ.hub request
          · rfl
          · rfl
      | ping | pong =>
        rw [hstep, hevents]
        rfl
      | binary | close | lost =>
        rw [hstep, hevents]
        exact hrelease
  | deliver =>
    cases hopen : σ.isOpen with
    | false =>
      obtain ⟨hstep, hevents⟩ := step_deliver_of_ended hopen
      rw [hstep, hevents]
      rfl
    | true =>
      obtain ⟨hstep, hevents⟩ := step_deliver hopen
      obtain ⟨-, hd, hr⟩ | ⟨s, -, -, hd, hr⟩ | ⟨s, delivered, -, -, hd, hr⟩ := deliver_cases σ
      all_goals
        rw [hstep, hevents, hd, hr]
        rfl
  | publish event => rfl
  | neighbour l =>
    rw [step, onEvents]
    cases σ.reserves l <;> rfl
  | elsewhere registry ops commands => rfl

/-- A conversation is a run of the channel of events. -/
theorem events_run (σ : Conversation) (turns : List Turn) :
    (σ.run turns).hub.events = σ.hub.events.run (trace onEvents σ turns) := by
  induction turns generalizing σ with
  | nil => rfl
  | cons t rest ih =>
    -- Each turn is a run of the channel, and runs are put one after the other.
    rw [run_cons, ih, events_step, trace, Channel.run_append]

/-- A connection that has ended does not come back. -/
theorem isOpen_of_step {σ : Conversation} {t : Turn} (h : (σ.step t).2.isOpen = true) :
    σ.isOpen = true := by
  by_contra hnot
  have hended : σ.isOpen = false := Bool.eq_false_iff.2 hnot
  cases t with
  | frame f => rw [(step_frame_of_ended hended f).1] at h; exact hnot h
  | deliver => rw [(step_deliver_of_ended hended).1] at h; exact hnot h
  | publish event => exact hnot h
  | neighbour l =>
    rw [step] at h
    cases hr : σ.reserves l <;> rw [hr] at h <;> exact hnot h
  | elsewhere registry ops commands => exact hnot h

/-- A connection that is open after some turns was open before them. -/
theorem isOpen_of_run {σ : Conversation} {turns : List Turn} (h : (σ.run turns).isOpen = true) :
    σ.isOpen = true := by
  induction turns generalizing σ with
  | nil => exact h
  | cons t rest ih => exact isOpen_of_step (ih h)

/-- A turn that leaves a stream open does not end the connection. -/
theorem isOpen_step_of_stream {σ : Conversation} (hopen : σ.isOpen = true) {t : Turn}
    (hs : (σ.step t).2.socket.stream ≠ none) : (σ.step t).2.isOpen = true := by
  cases t with
  | frame f =>
    cases f with
    | text content => rw [(step_frame hopen _).1]; rfl
    | ping | pong => rwa [(step_stay rfl fun _ h => by cases h).1]
    | binary | close | lost => exact absurd (effect_leave hopen rfl).2.2.2 hs
  | deliver => rwa [(step_deliver hopen).1]
  | publish event => exact hopen
  | neighbour l =>
    rw [step]
    cases σ.reserves l <;> exact hopen
  | elsewhere registry ops commands => exact hopen

/-! ## Validity -/

/-- What holds of every conversation: the channel of events is valid, and the stream holds a queue
of it. -/
structure Valid (σ : Conversation) : Prop where
  /-- The channel of events is valid. -/
  events : σ.hub.events.Valid
  /-- The subscription of the stream is one that was given out. -/
  lt_nextId : ∀ id, σ.subscriber? = some id → id < σ.hub.events.nextId

/-- A socket that has just been opened on a valid hub is valid. -/
theorem valid_begin {hub : Hub} (hv : hub.Valid) : (begin hub).Valid where
  events := hv.events
  lt_nextId _ h := by cases h

/-- Every turn keeps a conversation valid. -/
theorem Valid.step {σ : Conversation} (hv : σ.Valid) (t : Turn) : (σ.step t).2.Valid where
  events := by
    rw [events_step]
    exact hv.events.run _
  lt_nextId id hid := by
    rw [events_step]
    have hle := Channel.nextId_le_run σ.hub.events (σ.onEvents t)
    cases effect σ t with
    | untouched _ _ _ stream _ | neighbour _ _ _ stream _ =>
      rw [subscriber?, stream] at hid
      exact Nat.lt_of_lt_of_le (hv.lt_nextId id hid) hle
    | opened _ _ _ _ _ _ _ _ _ stream does =>
      rw [subscriber?, stream] at hid
      cases hid
      rw [does]
      exact Nat.lt_succ_self _
    | taken s _ _ before _ stream _ =>
      rw [subscriber?, stream] at hid
      have hsame : σ.subscriber? = some id := by rw [subscriber?, before]; exact hid
      exact Nat.lt_of_lt_of_le (hv.lt_nextId id hsame) hle
    | ended _ _ _ _ _ stream _ =>
      rw [subscriber?, stream] at hid
      cases hid

/-- Every conversation stays valid. -/
theorem Valid.run {σ : Conversation} (hv : σ.Valid) (turns : List Turn) : (σ.run turns).Valid := by
  induction turns generalizing σ with
  | nil => exact hv
  | cons t rest ih => exact ih (hv.step t)

end Conversation

end LiveMap
