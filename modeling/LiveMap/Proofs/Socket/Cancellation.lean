import LiveMap.Proofs.Rpc.Envelope
import LiveMap.Proofs.Socket.Answers

/-!
# Which stream a cancellation ends

A cancellation may name the stream that it is meant for by the id of the request that opened it. The
id is carried by an object or by an array of one element (`carriedId?`), and an id of null names no
stream, like one that is left out. A cancellation that names none ends the stream that is open.

The ids of streams and cancellations are JSON values that were read from texts. So their objects are
in order (`ordered_run`), and comparing them comes to sameness of JSON values. An id in which all
numbers are integers is the same as itself, and a stream that was opened under it can be ended
under it; null serves too, because it names no stream.

Main statement: `cancellation_ends_the_stream_it_names`, for every conversation on every hub.
-/

namespace LiveMap

open Rpc (Request Response)

/-! ## What a cancellation names -/

namespace RpcSocket

/-- The id that the parameters of a cancellation carry: the member of this name, or the only element
of an array. -/
def carriedId? : Json → Option Json
  | .obj members => Keyed.find? "id" members
  | .arr [id] => some id
  | _ => none

/-- A cancellation names the id that its parameters carry, unless it is null. -/
theorem cancelTarget?_eq {params : Json} (hp : params.InOrder) :
    cancelTarget? params = Json.Record.present? (carriedId? params) := by
  cases params with
  | null | bool | num | str => rfl
  | obj members =>
    have hread : cancelShape.read (.obj members) =
        .ok (Json.Record.present? (Keyed.find? "id" members), ()) :=
      (Json.Record.read_obj_eq_ok_iff hp.1.nodup_keys).2
        ⟨Json.Record.readField_anyOptional_iff.2 rfl, trivial⟩
    rw [cancelTarget?, hread]
    rfl
  | arr items =>
    match items with
    | [] => rfl
    | [id] => cases id <;> rfl
    | id :: _ :: _ =>
      -- The second element is one too many, whatever the first one is.
      cases id <;> rfl

/-- A cancellation that names no id is meant for every stream. -/
theorem isCancelled_of_unnamed {params : Json} (hp : params.InOrder) (s : EventStream)
    (hnone : carriedId? params = none ∨ carriedId? params = some .null) :
    isCancelled s (cancelTarget? params) = true := by
  rw [cancelTarget?_eq hp, Json.Record.present?_eq_none_iff.2 hnone]
  rfl

/-- The id that parameters in order carry is in order. -/
theorem inOrder_of_carriedId? {params id : Json} (hp : params.InOrder)
    (hid : carriedId? params = some id) : id.InOrder := by
  unfold carriedId? at hid
  split at hid
  · exact hp.find? hid
  · cases hid
    exact hp.1
  · cases hid

/-- A cancellation that names an id is meant for a stream exactly if the id is the same as that of
the request that opened it. -/
theorem isCancelled_iff_same {params id : Json} {s : EventStream} (hp : params.InOrder)
    (hs : s.requestId.InOrder) (hid : carriedId? params = some id) (hne : id ≠ .null) :
    isCancelled s (cancelTarget? params) = true ↔ s.requestId.Same id := by
  have htarget : cancelTarget? params = some id := by
    rw [cancelTarget?_eq hp, hid]
    exact Json.Record.present?_of_ne_null hne
  rw [htarget]
  exact Json.beq_iff_same s.requestId hs (inOrder_of_carriedId? hp hid)

/-- A cancellation that carries the id of a stream is meant for it, also if the id is null. -/
theorem isCancelled_of_same {params id : Json} {s : EventStream} (hp : params.InOrder)
    (hs : s.requestId.InOrder) (hid : carriedId? params = some id) (hsame : s.requestId.Same id) :
    isCancelled s (cancelTarget? params) = true := by
  by_cases hnull : id = .null
  · exact isCancelled_of_unnamed hp s (Or.inr (hnull ▸ hid))
  · exact (isCancelled_iff_same hp hs hid hnull).2 hsame

end RpcSocket

namespace Conversation

open RpcSocket (carriedId?)

/-- Whether the id of the open stream, if there is one, is in order. -/
def Ordered (σ : Conversation) : Prop :=
  ∀ s, σ.socket.stream = some s → s.requestId.InOrder

/-- Every turn keeps the id of the stream in order: a new one is read from a text. -/
theorem Ordered.step {σ : Conversation} (h : σ.Ordered) (t : Turn) : (σ.step t).2.Ordered := by
  intro s hs
  cases effect σ t with
  | untouched _ _ _ stream _ | neighbour _ _ _ stream _ => exact h s (stream ▸ hs)
  | opened _ _ _ _ parsed _ named _ _ stream _ =>
    rw [stream] at hs
    cases hs
    exact Rpc.inOrder_id_of_parse parsed named
  | taken s' _ _ before _ stream _ =>
    rw [stream] at hs
    cases hs
    exact h s' before
  | ended _ _ _ _ _ stream _ =>
    rw [stream] at hs
    cases hs

/-- In every conversation the id of the open stream is in order. -/
theorem ordered_run (hub : Hub) (turns : List Turn) : ((begin hub).run turns).Ordered := by
  have hrun : ∀ (turns : List Turn) (σ : Conversation), σ.Ordered → (σ.run turns).Ordered := by
    intro turns
    induction turns with
    | nil => exact fun σ h => h
    | cons t rest ih => exact fun σ h => ih _ (h.step t)
  exact hrun turns (begin hub) fun s hs => nomatch hs

/-! ## Ending a stream -/

/-- What a turn does that cancels a stream. -/
structure Cancels (σ : Conversation) (s : EventStream) (t : Turn) : Prop where
  /-- The request that opened the stream is answered, and nothing else is sent. -/
  sends : (σ.step t).1 = [.response ⟨"2.0", s.requestId, some (.obj [("ok", .bool true)]), none⟩]
  /-- The stream is over. -/
  stream : (σ.step t).2.socket.stream = none
  /-- The connection goes on. -/
  isOpen : (σ.step t).2.isOpen = true
  /-- The place of the stream on the channel is free, and its queue is gone. -/
  released : (σ.step t).2.hub.events.isSubscribed s.subscriber = false ∧
    (σ.step t).2.hub.events.mailbox? s.subscriber = none
  /-- The other subscribers keep their places and their queues. -/
  others : ∀ id ≠ s.subscriber,
    (σ.step t).2.hub.events.isSubscribed id = σ.hub.events.isSubscribed id ∧
      (σ.step t).2.hub.events.mailbox? id = σ.hub.events.mailbox? id
  /-- The rest of the hub is as it was. -/
  elsewhere : (σ.step t).2.hub.registry = σ.hub.registry ∧ (σ.step t).2.hub.ops = σ.hub.ops ∧
    (σ.step t).2.hub.commands = σ.hub.commands

variable {σ : Conversation} {content : String} {request : Request}

/-- A cancellation without a stream does nothing. -/
theorem step_cancellation_idle (hopen : σ.isOpen = true)
    (hp : Request.parse content = .ok request) (hm : request.method = RpcSocket.cancelMethod)
    (hs : σ.socket.stream = none) : σ.step (.frame (.text content)) = ([], σ) := by
  have hsame : (⟨σ.socket, σ.hub, true⟩ : Conversation) = σ := by rw [← hopen]
  have hcancel : σ.socket.cancel request.params σ.hub = ([], σ.socket, σ.hub) := by
    rw [RpcSocket.cancel, hs]
  rw [step_cancellation hopen hp hm, hcancel]
  exact congrArg (Prod.mk _) hsame

/-- A cancellation that is not meant for the open stream does nothing. -/
theorem step_cancellation_foreign (hopen : σ.isOpen = true)
    (hp : Request.parse content = .ok request) (hm : request.method = RpcSocket.cancelMethod)
    {s : EventStream} (hs : σ.socket.stream = some s)
    (hnot : ¬RpcSocket.isCancelled s (RpcSocket.cancelTarget? request.params) = true) :
    σ.step (.frame (.text content)) = ([], σ) := by
  have hsame : (⟨σ.socket, σ.hub, true⟩ : Conversation) = σ := by rw [← hopen]
  have hcancel : σ.socket.cancel request.params σ.hub = ([], σ.socket, σ.hub) := by
    rw [RpcSocket.cancel, hs]
    exact if_neg hnot
  rw [step_cancellation hopen hp hm, hcancel]
  exact congrArg (Prod.mk _) hsame

/-- A cancellation that is meant for the open stream ends it. -/
theorem cancels_of_isCancelled (hv : σ.Valid) (hopen : σ.isOpen = true)
    (hp : Request.parse content = .ok request) (hm : request.method = RpcSocket.cancelMethod)
    {s : EventStream} (hs : σ.socket.stream = some s)
    (hmeant : RpcSocket.isCancelled s (RpcSocket.cancelTarget? request.params) = true) :
    σ.Cancels s (.frame (.text content)) := by
  have hcancel : σ.socket.cancel request.params σ.hub =
      ([.response (.success s.requestId Rpc.okResult)], .idle,
        { σ.hub with events := σ.hub.events.leave s.subscriber }) := by
    rw [RpcSocket.cancel, hs]
    dsimp only
    rw [if_pos hmeant, RpcSocket.release, hs]
  have hstep : σ.step (.frame (.text content)) =
      ([.response (.success s.requestId Rpc.okResult)],
        ⟨.idle, { σ.hub with events := σ.hub.events.leave s.subscriber }, true⟩) := by
    rw [step_cancellation hopen hp hm, hcancel]
  constructor
  case sends => exact congrArg Prod.fst hstep
  case stream => rw [hstep]; rfl
  case isOpen => rw [hstep]
  case released =>
    rw [hstep]
    refine ⟨?_, Channel.mailbox?_leave_self hv.events s.subscriber⟩
    rw [Channel.isSubscribed_leave, bne_self_eq_false, Bool.and_false]
  case others =>
    intro id hne
    rw [hstep]
    refine ⟨?_, Channel.mailbox?_leave_of_ne _ hne⟩
    rw [Channel.isSubscribed_leave, bne_iff_ne.2 hne, Bool.and_true]
  case elsewhere =>
    rw [hstep]
    exact ⟨rfl, rfl, rfl⟩

/-! ## From opening to cancelling -/

/-- As long as the socket holds the subscription of a stream, the connection goes on, and the stream
is the same but for the number of events sent. -/
theorem stream_of_subscriber? (hv : σ.Valid) (hopen : σ.isOpen = true) {s : EventStream}
    (hs : σ.socket.stream = some s) {turns : List Turn}
    (hsub : (σ.run turns).subscriber? = some s.subscriber) :
    (σ.run turns).isOpen = true ∧
      ∃ delivered, (σ.run turns).socket.stream = some { s with delivered } := by
  induction turns generalizing σ s with
  | nil => exact ⟨hopen, s.delivered, hs⟩
  | cons t rest ih =>
    -- The subscription was given out before, so a later stream cannot have it.
    have hid : s.subscriber < (σ.step t).2.hub.events.nextId := by
      rw [events_step]
      exact Nat.lt_of_lt_of_le (hv.lt_nextId _ (subscriber?_of_stream hs))
        (Channel.nextId_le_run _ _)
    have hbetween : (σ.step t).2.subscriber? = some s.subscriber := subscriber?_of_run hid hsub
    -- No turn but the one that ends the stream gives up its subscription.
    rcases stream_step hopen hs t with ⟨delivered, hstream⟩ | hfinished
    · have hafter : (σ.step t).2.isOpen = true :=
        isOpen_step_of_stream hopen (by rw [hstream]; exact Option.some_ne_none _)
      have hrest := ih (hv.step t) hafter hstream hsub
      exact hrest
    · rw [subscriber?_of_no_stream hfinished.stream] at hbetween
      cases hbetween

/-- A request for a stream, on an open connection without one, opens a stream under its id. -/
theorem step_opening (hopen : σ.isOpen = true) (hs : σ.socket.stream = none)
    (hp : Request.parse content = .ok request) (hm : request.method = Rpc.subscribeMethod)
    {id : Json} (hid : request.id = some id) :
    (σ.step (.frame (.text content))).1 = [] ∧
      (σ.step (.frame (.text content))).2.isOpen = true ∧
      (σ.step (.frame (.text content))).2.socket.stream =
        some ⟨id, σ.hub.events.nextId, 0⟩ := by
  have hserve : σ.socket.serve request σ.hub = ([], ⟨some ⟨id, σ.hub.events.nextId, 0⟩⟩,
      { σ.hub with events := σ.hub.events.subscribe.2 }) := by
    rw [serve_subscribe σ hid hm, RpcSocket.subscribe, hs]
    rfl
  rw [(step_request hopen hp).1, hserve]
  exact ⟨rfl, rfl, rfl⟩

/-! ## The law of cancellations -/

/-- What a cancellation does in a conversation, depending on the stream that is open and on the id
that its parameters carry. -/
structure EndsWhatItNames (σ : Conversation) : Prop where
  /-- Without a stream nothing is sent and nothing changes. -/
  idle : ∀ content request, σ.isOpen = true → Request.parse content = .ok request →
    request.method = "$/cancelRequest" → σ.socket.stream = none →
      σ.step (.frame (.text content)) = ([], σ)
  /-- If it carries an id other than null and other than that of the stream, nothing is sent and
  nothing changes. -/
  foreign : ∀ content request s id, σ.isOpen = true → Request.parse content = .ok request →
    request.method = "$/cancelRequest" → σ.socket.stream = some s →
    carriedId? request.params = some id → id ≠ .null → ¬s.requestId.Same id →
      σ.step (.frame (.text content)) = ([], σ)
  /-- If it carries the id of the stream, the stream ends. -/
  own : ∀ content request s id, σ.isOpen = true → Request.parse content = .ok request →
    request.method = "$/cancelRequest" → σ.socket.stream = some s →
    carriedId? request.params = some id → s.requestId.Same id →
      σ.Cancels s (.frame (.text content))
  /-- If it carries no id, or null, the stream ends whatever its id is. -/
  bare : ∀ content request s, σ.isOpen = true → Request.parse content = .ok request →
    request.method = "$/cancelRequest" → σ.socket.stream = some s →
    carriedId? request.params = none ∨ carriedId? request.params = some .null →
      σ.Cancels s (.frame (.text content))
  /-- A request for a stream opens one under its id, whatever the id is, null included. If all
  numbers in it are integers, a cancellation that carries it ends the stream, as long as the stream
  is open. -/
  reopened : ∀ opening request id, σ.isOpen = true → σ.socket.stream = none →
    Request.parse opening = .ok request → request.method = "map.events.subscribe" →
    request.id = some id →
      let τ := (σ.step (.frame (.text opening))).2
      (σ.step (.frame (.text opening))).1 = [] ∧
      τ.socket.stream = some ⟨id, σ.hub.events.nextId, 0⟩ ∧
      (id.isDiscrete = true → ∀ turns content request',
        (τ.run turns).subscriber? = some σ.hub.events.nextId →
        Request.parse content = .ok request' → request'.method = "$/cancelRequest" →
        carriedId? request'.params = some id →
          ∃ delivered, (τ.run turns).Cancels ⟨id, σ.hub.events.nextId, delivered⟩
            (.frame (.text content)))

/-- A valid conversation whose stream has an id in order ends it as it should. -/
theorem endsWhatItNames (hv : σ.Valid) (ho : σ.Ordered) : σ.EndsWhatItNames where
  idle content request hopen hp hm hs := step_cancellation_idle hopen hp hm hs
  foreign content request s id hopen hp hm hs hid hne hnot := by
    have hparams := Rpc.inOrder_params_of_parse hp
    exact step_cancellation_foreign hopen hp hm hs fun hmeant =>
      hnot ((RpcSocket.isCancelled_iff_same hparams (ho s hs) hid hne).1 hmeant)
  own content request s id hopen hp hm hs hid hsame :=
    cancels_of_isCancelled hv hopen hp hm hs
      (RpcSocket.isCancelled_of_same (Rpc.inOrder_params_of_parse hp) (ho s hs) hid hsame)
  bare content request s hopen hp hm hs hnone :=
    cancels_of_isCancelled hv hopen hp hm hs
      (RpcSocket.isCancelled_of_unnamed (Rpc.inOrder_params_of_parse hp) s hnone)
  reopened opening request id hopen hs hp hm hid := by
    obtain ⟨hsends, hafter, hstream⟩ := step_opening hopen hs hp hm hid
    refine ⟨hsends, hstream, fun hdiscrete turns content request' hsub hp' hm' hid' => ?_⟩
    obtain ⟨hopen', delivered, hstream'⟩ :=
      stream_of_subscriber? (hv.step _) hafter hstream hsub
    have hordered : id.InOrder := Rpc.inOrder_id_of_parse hp hid
    have hsame : id.Same id :=
      (Json.beq_iff_same id hordered hordered).1 (Json.beq_self_of_isDiscrete id hdiscrete)
    exact ⟨delivered, cancels_of_isCancelled ((hv.step _).run turns) hopen' hp' hm' hstream'
      (RpcSocket.isCancelled_of_same (Rpc.inOrder_params_of_parse hp') hordered hid' hsame)⟩

/-- On every hub and at every moment of every conversation, a cancellation ends the stream that it
names, the stream that is open if it names none, and no other. -/
theorem cancellation_ends_the_stream_it_names (capacity : Nat) (earlier : List Hub.Action)
    (turns : List Turn) :
    ((begin ((Hub.create capacity).run earlier)).run turns).EndsWhatItNames := by
  have hhub : ((Hub.create capacity).run earlier).Valid := (Hub.valid_create capacity).run earlier
  exact endsWhatItNames ((valid_begin hhub).run turns) (ordered_run _ turns)

end Conversation

end LiveMap
