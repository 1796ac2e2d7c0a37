import LiveMap.Proofs.Socket.Stream

/-!
# Who is answered, and when

A frame that is no request, and a request that asks for an answer, is owed one under its id. It is
paid at once, except for a request that opens a stream: its id is pending as long as the stream is
open, and is paid when the stream ends. So at any moment the ids that have been owed are those that
have been answered and the one that is pending (`ledger_run`). With the connection everything ends,
and a pending id stays unpaid.

That a stream has fallen behind is found out by the turns that take its events. They send what is
still queued, and the one after them pays (`sent_of_cut`).

Main statement: `requests_are_answered_once`, for every conversation on every hub.
-/

namespace LiveMap

namespace Conversation

open Rpc (Request Response)
open scoped List

/-- The ids under which a turn makes the socket owe an answer. A cancellation is owed none. -/
def owed (σ : Conversation) : Turn → List Json
  | .frame (.text content) =>
    if σ.isOpen then
      match Request.parse content with
      | .error refusal => [refusal.id]
      | .ok request =>
        if request.method = RpcSocket.cancelMethod then [] else request.id.toList
    else []
  | _ => []

/-- The ids under which some messages answer. -/
def idsOf (messages : List RpcMessage) : List Json :=
  messages.filterMap fun m => m.response?.map Response.id

/-- The ids under which a turn answers. -/
def answers (σ : Conversation) (t : Turn) : List Json := idsOf (σ.step t).1

/-- The id whose answer waits for the end of the stream. -/
def pending (σ : Conversation) : List Json := (σ.socket.stream.map EventStream.requestId).toList

/-! ## One turn -/

/-- A text that is no request is owed an answer. -/
theorem owed_refusal {σ : Conversation} (hopen : σ.isOpen = true) {content : String}
    {refusal : Response} (h : Request.parse content = .error refusal) :
    σ.owed (.frame (.text content)) = [refusal.id] := by
  rw [owed, if_pos hopen, h]

/-- A request with an id is owed an answer, unless it is a cancellation. -/
theorem owed_request {σ : Conversation} (hopen : σ.isOpen = true) {content : String}
    {request : Request} (h : Request.parse content = .ok request) :
    σ.owed (.frame (.text content)) =
      if request.method = RpcSocket.cancelMethod then [] else request.id.toList := by
  rw [owed, if_pos hopen, h]

/-- The request for a stream is no cancellation. -/
theorem subscribeMethod_ne_cancelMethod : Rpc.subscribeMethod ≠ RpcSocket.cancelMethod := by
  decide

/-- The balance of one text: what was pending or is owed is answered or pending afterwards. -/
theorem ledger_text {σ : Conversation} (hopen : σ.isOpen = true) (content : String) :
    σ.pending ++ σ.owed (.frame (.text content)) ~
      σ.answers (.frame (.text content)) ++ (σ.step (.frame (.text content))).2.pending := by
  cases hp : Request.parse content with
  | error refusal =>
    have hstep := (step_refusal hopen hp).1
    rw [owed_refusal hopen hp, answers, hstep]
    exact List.perm_append_comm
  | ok request =>
    have hstep := (step_request hopen hp).1
    rw [owed_request hopen hp, answers, hstep]
    obtain ⟨hc, hs, -⟩ | ⟨s, hc, hstream, hs, -⟩ | ⟨hc, hid, hs, -⟩ |
      ⟨id, response, hc, -, hid, hrid, -, hs, -⟩ | ⟨id, hm, hid, hstream, hs, -⟩ |
      ⟨id, s, hm, hid, hstream, hs, -⟩ := serve_cases σ request
    all_goals rw [hs]
    · -- A cancellation that is meant for no stream.
      rw [if_pos hc, List.append_nil]
      exact List.Perm.refl _
    · -- A cancellation pays what was pending.
      rw [if_pos hc, List.append_nil, pending, hstream]
      exact List.Perm.refl _
    · rw [if_neg hc, hid]
      exact List.Perm.of_eq (List.append_nil _)
    · rw [if_neg hc, hid]
      show σ.pending ++ [id] ~ [response.id] ++ σ.pending
      rw [hrid]
      exact List.perm_append_comm
    · -- The answer waits for the end of the stream.
      rw [if_neg (hm ▸ subscribeMethod_ne_cancelMethod), hid, pending, hstream]
      exact List.Perm.refl _
    · rw [if_neg (hm ▸ subscribeMethod_ne_cancelMethod), hid]
      exact List.perm_append_comm

/-- The balance of taking the next event. -/
theorem ledger_deliver {σ : Conversation} (hopen : σ.isOpen = true) :
    σ.pending ~ σ.answers .deliver ++ (σ.step .deliver).2.pending := by
  have hstep := (step_deliver hopen).1
  rw [answers, hstep]
  obtain ⟨-, hd, -⟩ | ⟨s, hs, -, hd, -⟩ | ⟨s, delivered, hs, -, hd, -⟩ := deliver_cases σ
  all_goals rw [hd]
  · exact List.Perm.refl _
  · -- A stream that has fallen behind pays what was pending.
    rw [pending, hs]
    exact List.Perm.refl _
  · have hnone : idsOf ((σ.hub.events.receive s.subscriber).1.item?.map
        RpcMessage.notification).toList = [] := by
      cases (σ.hub.events.receive s.subscriber).1.item? <;> rfl
    show σ.pending ~ idsOf _ ++ [s.requestId]
    rw [hnone, pending, hs]
    exact List.Perm.refl _

/-- The balance of one turn, as long as the connection lasts. -/
theorem ledger_step {σ : Conversation} {t : Turn} (hopen : (σ.step t).2.isOpen = true) :
    σ.pending ++ σ.owed t ~ σ.answers t ++ (σ.step t).2.pending := by
  have hbefore := isOpen_of_step hopen
  cases t with
  | frame f =>
    cases f with
    | text content => exact ledger_text hbefore content
    | ping | pong =>
      rw [answers, (step_stay rfl fun _ h => by cases h).1]
      exact List.Perm.of_eq (List.append_nil _)
    | binary | close | lost =>
      rw [(effect_leave hbefore rfl).2.2.1] at hopen
      cases hopen
  | deliver =>
    have hledger := ledger_deliver hbefore
    rwa [← List.append_nil σ.pending] at hledger
  | publish event => exact List.Perm.of_eq (List.append_nil _)
  | neighbour l =>
    rw [answers, step]
    cases σ.reserves l <;> exact List.Perm.of_eq (List.append_nil _)
  | elsewhere registry ops commands => exact List.Perm.of_eq (List.append_nil _)

/-! ## A run -/

/-- The balance of a conversation whose connection lasts. -/
theorem ledger_run {σ : Conversation} {turns : List Turn}
    (hopen : (σ.run turns).isOpen = true) :
    σ.pending ++ trace owed σ turns ~ trace answers σ turns ++ (σ.run turns).pending := by
  induction turns generalizing σ with
  | nil => exact List.Perm.of_eq (List.append_nil _)
  | cons t rest ih =>
    have hfirst := ledger_step (isOpen_of_run (σ := (σ.step t).2) hopen)
    have hrest := ih (σ := (σ.step t).2) hopen
    -- What is pending between the turns is paid by the later ones.
    calc σ.pending ++ (σ.owed t ++ trace owed (σ.step t).2 rest)
      _ ~ (σ.pending ++ σ.owed t) ++ trace owed (σ.step t).2 rest :=
          .of_eq (List.append_assoc _ _ _).symm
      _ ~ (σ.answers t ++ (σ.step t).2.pending) ++ trace owed (σ.step t).2 rest :=
          hfirst.append_right _
      _ ~ σ.answers t ++ ((σ.step t).2.pending ++ trace owed (σ.step t).2 rest) :=
          .of_eq (List.append_assoc _ _ _)
      _ ~ σ.answers t ++ (trace answers (σ.step t).2 rest ++ ((σ.step t).2.run rest).pending) :=
          hrest.append_left _
      _ ~ (σ.answers t ++ trace answers (σ.step t).2 rest) ++ ((σ.step t).2.run rest).pending :=
          .of_eq (List.append_assoc _ _ _).symm

/-! ## The course of a stream -/

/-- A stream is still open after some turns, and all that was answered in them was owed in them. -/
structure Waiting (σ : Conversation) (s : EventStream) (turns : List Turn) : Prop where
  /-- Only the number of events sent has changed. -/
  stream : ∃ delivered, (σ.run turns).socket.stream = some { s with delivered }
  /-- The request that opened the stream is not among those answered. -/
  others : trace owed σ turns ~ trace answers σ turns

/-- A turn ends a stream. The request that opened it is answered by this turn once under its id,
unless the connection ends. -/
structure Finished (σ : Conversation) (s : EventStream) (t : Turn) : Prop where
  /-- It is over. -/
  stream : (σ.step t).2.socket.stream = none
  /-- What is sent depends on how the stream ends. -/
  sends :
    (∃ content request, t = .frame (.text content) ∧ Request.parse content = .ok request ∧
      request.method = "$/cancelRequest" ∧
      (σ.step t).1 = [.response (.success s.requestId (.obj [("ok", .bool true)]))]) ∨
    (t = .deliver ∧ (σ.hub.events.receive s.subscriber).1 = .ended ∧ ∃ message,
      (σ.step t).1 = [.response (.failure s.requestId ⟨-32000, message⟩)]) ∨
    ((σ.step t).2.isOpen = false ∧ (σ.step t).1 = [])

/-- In one turn a stream stays open or is finished. -/
theorem stream_step {σ : Conversation} (hopen : σ.isOpen = true) {s : EventStream}
    (hs : σ.socket.stream = some s) (t : Turn) :
    (∃ delivered, (σ.step t).2.socket.stream = some { s with delivered }) ∨ σ.Finished s t := by
  cases effect σ t with
  | untouched _ _ _ stream _ | neighbour _ _ _ stream _ =>
    exact Or.inl ⟨s.delivered, by rw [stream, hs]⟩
  | opened _ _ _ _ _ _ _ before _ _ _ =>
    rw [hs] at before
    cases before
  | taken s' delivered _ before _ stream _ =>
    rw [hs] at before
    cases before
    exact Or.inl ⟨delivered, stream⟩
  | ended s' ending before how sends stream _ =>
    rw [hs] at before
    cases before
    refine Or.inr ⟨stream, ?_⟩
    cases ending with
    | cancelled =>
      obtain ⟨content, request, ht, hp, hm⟩ := how.spec
      exact Or.inl ⟨content, request, ht, hp, hm, sends⟩
    | evicted =>
      obtain ⟨ht, hend⟩ := how.spec
      exact Or.inr (Or.inl ⟨ht, hend, _, sends⟩)
    | dropped =>
      obtain ⟨f, close, rfl, hv⟩ := how.spec
      exact Or.inr (Or.inr ⟨(effect_leave hopen hv).2.2.1, sends⟩)

/-- What a turn does that leaves a stream open: all that it answers is owed in it. -/
theorem answers_step_of_stream {σ : Conversation} (hopen : σ.isOpen = true) {s s' : EventStream}
    (hs : σ.socket.stream = some s) {t : Turn} (hs' : (σ.step t).2.socket.stream = some s')
    (hid : s'.requestId = s.requestId) : σ.owed t ~ σ.answers t := by
  have hafter : (σ.step t).2.isOpen = true := isOpen_step_of_stream hopen (by rw [hs']; nofun)
  have hledger := ledger_step hafter
  -- The same id is pending on both sides of the balance.
  rw [pending, pending, hs, hs', Option.map_some, Option.map_some, hid] at hledger
  exact (List.perm_append_left_iff _).1 (hledger.trans List.perm_append_comm)

/-- A stream that is open stays so, with its request waiting, or is finished by one of the turns. -/
theorem stream_run {σ : Conversation} (hopen : σ.isOpen = true) {s : EventStream}
    (hs : σ.socket.stream = some s) (turns : List Turn) :
    σ.Waiting s turns ∨
      ∃ during last rest, turns = during ++ last :: rest ∧ σ.Waiting s during ∧
        (σ.run during).Finished s last := by
  induction turns generalizing σ s with
  | nil => exact Or.inl ⟨⟨s.delivered, hs⟩, List.Perm.refl _⟩
  | cons t rest ih =>
    rcases stream_step hopen hs t with ⟨delivered, hs'⟩ | hfinished
    · have hafter : (σ.step t).2.isOpen = true := isOpen_step_of_stream hopen (by rw [hs']; nofun)
      have hfirst := answers_step_of_stream hopen hs hs' rfl
      rcases ih hafter hs' with hwait | ⟨during, last, late, hsplit, hwait, hlast⟩
      · exact Or.inl ⟨hwait.stream, hfirst.append hwait.others⟩
      · refine Or.inr ⟨t :: during, last, late, ?_, ⟨hwait.stream, hfirst.append hwait.others⟩, ?_⟩
        · rw [hsplit, List.cons_append]
        · exact ⟨hlast.stream, hlast.sends⟩
    · exact Or.inr ⟨[], t, rest, rfl, ⟨⟨s.delivered, hs⟩, List.Perm.refl _⟩, hfinished⟩

/-! ## Streams that have fallen behind -/

/-- A stream that is found at its end has fallen behind. It is over, and its request has failed. -/
theorem step_deliver_of_receive_ended {σ : Conversation} (hopen : σ.isOpen = true)
    {s : EventStream} (hs : σ.socket.stream = some s)
    (hend : (σ.hub.events.receive s.subscriber).1 = .ended) :
    (σ.step .deliver).1 = [.response (.failure s.requestId .subscriptionEvicted)] ∧
      (σ.step .deliver).2.socket.stream = none := by
  obtain ⟨hnone, -⟩ | ⟨s', hs', -, hd, -⟩ | ⟨s', delivered, hs', hmore, -⟩ := deliver_cases σ
  · cases hs.symm.trans hnone
  · cases hs.symm.trans hs'
    rw [(step_deliver hopen).1, hd]
    exact ⟨rfl, rfl⟩
  · cases hs.symm.trans hs'
    exact absurd hend hmore

/-- A stream for which something is queued sends it, and stays open. -/
theorem step_deliver_of_queued {σ : Conversation} (hopen : σ.isOpen = true) {s : EventStream}
    (hs : σ.socket.stream = some s) {event : MapEvent} {queue : List MapEvent}
    (hq : σ.hub.events.queued s.subscriber = event :: queue) :
    (σ.step .deliver).1 = [.notification event] ∧ (σ.step .deliver).2.isOpen = true ∧
      (∃ delivered, (σ.step .deliver).2.socket.stream = some { s with delivered }) ∧
      (σ.step .deliver).2.hub.events = (σ.hub.events.receive s.subscriber).2 := by
  have hitem : (σ.hub.events.receive s.subscriber).1.item? = some event := by
    rw [Channel.item?_receive, hq]
    rfl
  obtain ⟨hnone, -⟩ | ⟨s', hs', hend, -⟩ | ⟨s', delivered, hs', -, hd, -⟩ := deliver_cases σ
  · cases hs.symm.trans hnone
  · cases hs.symm.trans hs'
    rw [hend] at hitem
    cases hitem
  · cases hs.symm.trans hs'
    rw [hitem] at hd
    rw [(step_deliver hopen).1, hd]
    exact ⟨rfl, hopen, ⟨delivered, rfl⟩, rfl⟩

/-- A stream that is cut off sends what is still queued for it, and then the answer to its
request. -/
theorem sent_of_cut {σ : Conversation} (hopen : σ.isOpen = true) {s : EventStream}
    (hs : σ.socket.stream = some s) (hcut : σ.hub.events.isSubscribed s.subscriber = false) :
    σ.sent (List.replicate ((σ.hub.events.queued s.subscriber).length + 1) .deliver) =
      (σ.hub.events.queued s.subscriber).map .notification ++
        [.response (.failure s.requestId .subscriptionEvicted)] := by
  -- By induction on what is queued: each turn takes one event off it.
  generalize hq : σ.hub.events.queued s.subscriber = queue
  induction queue generalizing σ s with
  | nil =>
    have hend := Channel.receive_of_cut hcut hq
    exact congrArg (· ++ []) (step_deliver_of_receive_ended hopen hs hend).1
  | cons event queue ih =>
    obtain ⟨hsent, hopen', ⟨delivered, hs'⟩, hevents⟩ := step_deliver_of_queued hopen hs hq
    have hcut' : (σ.step .deliver).2.hub.events.isSubscribed s.subscriber = false := by
      rw [hevents, Channel.isSubscribed_receive]
      exact hcut
    have hq' : (σ.step .deliver).2.hub.events.queued s.subscriber = queue := by
      rw [hevents, Channel.queued_receive_self, hq]
      rfl
    have hrest := ih hopen' hs' hcut' hq'
    calc σ.sent (List.replicate ((event :: queue).length + 1) .deliver)
        = (σ.step .deliver).1 ++
            (σ.step .deliver).2.sent (List.replicate (queue.length + 1) .deliver) := rfl
      _ = [.notification event] ++ (queue.map .notification ++
            [.response (.failure s.requestId .subscriptionEvicted)]) := by rw [hsent, hrest]

/-! ## The answer to a text -/

/-- What a text gets for an answer, at once. -/
structure TextAnswered (σ : Conversation) (content : String) : Prop where
  /-- A text that is no request is answered once, with an error. -/
  refused : ∀ refusal, Request.parse content = .error refusal →
    (σ.step (.frame (.text content))).1 = [.response refusal] ∧ refusal.error.isSome = true
  /-- A request with an id is answered once under it, unless it is a cancellation or opens a
  stream. -/
  answered : ∀ request id, Request.parse content = .ok request → request.id = some id →
    request.method ≠ "$/cancelRequest" →
    ¬(request.method = "map.events.subscribe" ∧ σ.socket.stream = none) →
      ∃ r, (σ.step (.frame (.text content))).1 = [.response r] ∧ r.id = id
  /-- A request without an id is not answered, unless it is a cancellation. -/
  unanswered : ∀ request, Request.parse content = .ok request → request.id = none →
    request.method ≠ "$/cancelRequest" → (σ.step (.frame (.text content))).1 = []
  /-- A request that opens a stream is not answered yet. -/
  accepted : ∀ request id, Request.parse content = .ok request → request.id = some id →
    request.method = "map.events.subscribe" → σ.socket.stream = none →
      (σ.step (.frame (.text content))).1 = [] ∧
        ∃ s, Opens σ (.frame (.text content)) s ∧ s.requestId = id
  /-- A request for a second stream is refused under its own id, and changes nothing. -/
  busy : ∀ request id s, Request.parse content = .ok request → request.id = some id →
    request.method = "map.events.subscribe" → σ.socket.stream = some s →
      ∃ message, σ.step (.frame (.text content)) =
        ([.response (.failure id ⟨-32600, message⟩)], σ)
  /-- A cancellation is not answered itself: it does nothing, or the request that opened the stream
  is answered. -/
  cancelled : ∀ request, Request.parse content = .ok request →
    request.method = "$/cancelRequest" →
      σ.step (.frame (.text content)) = ([], σ) ∨
      ∃ s, σ.socket.stream = some s ∧ (σ.step (.frame (.text content))).2.socket.stream = none ∧
        (σ.step (.frame (.text content))).1 =
          [.response (.success s.requestId (.obj [("ok", .bool true)]))]
  /-- A cancellation without parameters ends the stream that is open, and the request that opened it
  is answered. -/
  bare : ∀ request s, Request.parse content = .ok request → request.method = "$/cancelRequest" →
    request.params = .null → σ.socket.stream = some s →
      (σ.step (.frame (.text content))).2.socket.stream = none ∧
        (σ.step (.frame (.text content))).1 =
          [.response (.success s.requestId (.obj [("ok", .bool true)]))]
  /-- The id of a cancellation plays no part. -/
  anonymous : ∀ request other request', Request.parse content = .ok request →
    Request.parse other = .ok request' → request.method = "$/cancelRequest" →
    request'.method = "$/cancelRequest" → request'.params = request.params →
      σ.step (.frame (.text other)) = σ.step (.frame (.text content))

/-- A cancellation is served by its parameters. -/
theorem step_cancellation {σ : Conversation} (hopen : σ.isOpen = true) {content : String}
    {request : Request} (hp : Request.parse content = .ok request)
    (hm : request.method = RpcSocket.cancelMethod) :
    σ.step (.frame (.text content)) =
      ((σ.socket.cancel request.params σ.hub).1,
        ⟨(σ.socket.cancel request.params σ.hub).2.1,
          (σ.socket.cancel request.params σ.hub).2.2, true⟩) := by
  rw [(step_request hopen hp).1, RpcSocket.serve, if_pos hm]

/-- A request for a stream is served by its id. -/
theorem serve_subscribe (σ : Conversation) {request : Request} {id : Json}
    (hid : request.id = some id) (hm : request.method = Rpc.subscribeMethod) :
    σ.socket.serve request σ.hub = σ.socket.subscribe id σ.hub := by
  have hc : request.method ≠ RpcSocket.cancelMethod := hm ▸ subscribeMethod_ne_cancelMethod
  rw [RpcSocket.serve, if_neg hc, Rpc.dispatch_subscribe σ.hub hid hm]

/-- Every text on an open connection is answered as it should be. -/
theorem textAnswered {σ : Conversation} (hopen : σ.isOpen = true) (content : String) :
    σ.TextAnswered content := by
  have hsame : (⟨σ.socket, σ.hub, true⟩ : Conversation) = σ := by rw [← hopen]
  constructor
  case refused =>
    intro refusal hp
    obtain ⟨id, error, rfl⟩ := Rpc.exists_failure_of_parse hp
    exact ⟨congrArg Prod.fst (step_refusal hopen hp).1, rfl⟩
  case answered =>
    intro request id hp hid hcancel hsubscribe
    rw [(step_request hopen hp).1]
    obtain ⟨hm, -, -⟩ | ⟨s, hm, -, -, -⟩ | ⟨-, hnone, -, -⟩ |
      ⟨id', response, -, -, hid', hrid, -, hs, -⟩ | ⟨id', hm, -, hstream, -, -⟩ |
      ⟨id', s, -, hid', -, hs, -⟩ := serve_cases σ request
    · exact absurd hm hcancel
    · exact absurd hm hcancel
    · rw [hnone] at hid
      cases hid
    · rw [hid] at hid'
      cases hid'
      exact ⟨response, congrArg Prod.fst hs, hrid⟩
    · -- The only request with an id that is not answered at once opens a stream.
      exact absurd ⟨hm, hstream⟩ hsubscribe
    · rw [hid] at hid'
      cases hid'
      exact ⟨_, congrArg Prod.fst hs, rfl⟩
  case unanswered =>
    intro request hp hnone hcancel
    rw [(step_request hopen hp).1]
    obtain ⟨hm, -, -⟩ | ⟨s, hm, -, -, -⟩ | ⟨-, -, hs, -⟩ | ⟨id', response, -, -, hid, -, -, -, -⟩ |
      ⟨id', -, hid, -, -, -⟩ | ⟨id', s, -, hid, -, -, -⟩ := serve_cases σ request
    · exact absurd hm hcancel
    · exact absurd hm hcancel
    · exact congrArg Prod.fst hs
    all_goals
      rw [hnone] at hid
      cases hid
  case accepted =>
    intro request id hp hid hm hstream
    have hserve := serve_subscribe σ hid hm
    rw [RpcSocket.subscribe, hstream] at hserve
    have hstep := (step_request hopen hp).1
    rw [hserve] at hstep
    exact ⟨congrArg Prod.fst hstep, _, ⟨hstream, by rw [hstep]⟩, rfl⟩
  case busy =>
    intro request id s hp hid hm hstream
    have hserve := serve_subscribe σ hid hm
    rw [RpcSocket.subscribe, hstream] at hserve
    have hstep := (step_request hopen hp).1
    rw [hserve] at hstep
    exact ⟨_, hstep.trans (congrArg (Prod.mk _) hsame)⟩
  case cancelled =>
    intro request hp hm
    obtain ⟨-, hs, -⟩ | ⟨s, -, hstream, hs, -⟩ | ⟨hc, -⟩ | ⟨_, _, hc, -⟩ | ⟨_, hc, -⟩ |
      ⟨_, _, hc, -⟩ := serve_cases σ request
    · exact Or.inl (by rw [(step_request hopen hp).1, hs, hsame])
    · refine Or.inr ⟨s, hstream, ?_, ?_⟩
      all_goals rw [(step_request hopen hp).1, hs]; rfl
    · exact absurd hm hc
    · exact absurd hm hc
    · exact absurd (hc.symm.trans hm) subscribeMethod_ne_cancelMethod
    · exact absurd (hc.symm.trans hm) subscribeMethod_ne_cancelMethod
  case bare =>
    intro request s hp hm hparams hstream
    have hcancel : σ.socket.cancel .null σ.hub =
        ([.response (.success s.requestId Rpc.okResult)], σ.socket.release σ.hub) := by
      rw [RpcSocket.cancel, hstream]
      rfl
    rw [step_cancellation hopen hp hm, hparams, hcancel]
    exact ⟨by rw [σ.release_eq.1]; rfl, rfl⟩
  case anonymous =>
    intro request other request' hp hp' hm hm' hparams
    rw [step_cancellation hopen hp' hm', step_cancellation hopen hp hm, hparams]

/-! ## Other answers -/

/-- A stream that is opened is opened on an open connection, which stays open. -/
theorem Opens.isOpen {σ : Conversation} {t : Turn} {s : EventStream} (h : Opens σ t s) :
    (σ.step t).2.isOpen = true := by
  obtain ⟨content, -, rfl, -⟩ := h.spec
  cases hopen : σ.isOpen with
  | false =>
    -- Nothing is opened on a connection that has ended.
    have hstream := h.stream
    rw [(step_frame_of_ended hopen _).1, h.before] at hstream
    cases hstream
  | true => exact isOpen_step_of_stream hopen (by rw [h.stream]; nofun)

/-- After the end of the connection nothing is sent. -/
theorem sent_of_ended {σ : Conversation} (hended : σ.isOpen = false) (t : Turn) :
    (σ.step t).1 = [] := by
  cases t with
  | frame f => rw [(step_frame_of_ended hended f).1]
  | deliver => rw [(step_deliver_of_ended hended).1]
  | publish event => rfl
  | neighbour l =>
    rw [step]
    cases σ.reserves l <;> rfl
  | elsewhere registry ops commands => rfl

/-- Only a text is answered, or the request of a stream that ends. -/
theorem finished_of_response {σ : Conversation} {t : Turn}
    (htext : ∀ content, t ≠ .frame (.text content)) {r : Response}
    (hr : .response r ∈ (σ.step t).1) : ∃ s, σ.socket.stream = some s ∧ σ.Finished s t := by
  cases hopen : σ.isOpen with
  | false =>
    rw [sent_of_ended hopen] at hr
    cases hr
  | true =>
    cases t with
    | frame f =>
      have hnone : (σ.step (.frame f)).1 = [] := by
        cases f with
        | text content => exact absurd rfl (htext content)
        | ping | pong => rw [(step_stay rfl fun _ h => by cases h).1]
        | binary | close | lost => exact (effect_leave hopen rfl).2.1
      rw [hnone] at hr
      cases hr
    | deliver =>
      have hstep := (step_deliver hopen).1
      obtain ⟨-, hd, -⟩ | ⟨s, hs, hend, hd, -⟩ | ⟨s, delivered, -, -, hd, -⟩ := deliver_cases σ
      all_goals rw [hd] at hstep
      · rw [hstep] at hr
        cases hr
      · exact ⟨s, hs, by rw [hstep]; rfl, Or.inr (Or.inl ⟨rfl, hend, _, by rw [hstep]; rfl⟩)⟩
      · -- An event is no response.
        rw [hstep] at hr
        obtain ⟨event, -, heq⟩ := Option.map_eq_some_iff.1 (Option.mem_toList.1 hr)
        cases heq
    | publish event => cases hr
    | neighbour l =>
      rw [step] at hr
      cases hl : σ.reserves l <;> rw [hl] at hr <;> cases hr
    | elsewhere registry ops commands => cases hr

/-- What answers a text is well formed. -/
theorem wellFormed_text {σ : Conversation} (hopen : σ.isOpen = true) {content : String}
    {r : Response} (hr : .response r ∈ (σ.step (.frame (.text content))).1) : r.WellFormed := by
  cases hp : Request.parse content with
  | error refusal =>
    obtain ⟨id, error, rfl⟩ := Rpc.exists_failure_of_parse hp
    rw [(step_refusal hopen hp).1] at hr
    cases List.mem_singleton.1 hr
    exact Rpc.wellFormed_failure id error
  | ok request =>
    rw [(step_request hopen hp).1] at hr
    obtain ⟨-, hs, -⟩ | ⟨s, -, -, hs, -⟩ | ⟨-, -, hs, -⟩ |
      ⟨id, response, -, -, -, -, hwell, hs, -⟩ | ⟨id, -, -, -, hs, -⟩ |
      ⟨id, s, -, -, -, hs, -⟩ := serve_cases σ request
    all_goals rw [hs] at hr
    · cases hr
    · cases List.mem_singleton.1 hr
      exact Rpc.wellFormed_success _ _
    · cases hr
    · cases List.mem_singleton.1 hr
      exact hwell
    · cases hr
    · cases List.mem_singleton.1 hr
      exact Rpc.wellFormed_failure _ _

/-- What answers the request of a stream is well formed. -/
theorem Finished.wellFormed {σ : Conversation} {s : EventStream} {t : Turn}
    (h : σ.Finished s t) {r : Response} (hr : .response r ∈ (σ.step t).1) : r.WellFormed := by
  obtain ⟨_, _, -, -, -, hsends⟩ | ⟨-, -, _, hsends⟩ | ⟨-, hsends⟩ := h.sends
  all_goals rw [hsends] at hr
  · cases List.mem_singleton.1 hr
    exact Rpc.wellFormed_success _ _
  · cases List.mem_singleton.1 hr
    exact Rpc.wellFormed_failure _ _
  · cases hr

/-- What a turn answers is well formed. -/
theorem wellFormed_step {σ : Conversation} {t : Turn} {r : Response}
    (hr : .response r ∈ (σ.step t).1) : r.WellFormed := by
  by_cases htext : ∃ content, t = .frame (.text content)
  · obtain ⟨content, rfl⟩ := htext
    cases hopen : σ.isOpen with
    | false =>
      rw [sent_of_ended hopen] at hr
      cases hr
    | true => exact wellFormed_text hopen hr
  · obtain ⟨s, -, hfinished⟩ := finished_of_response (fun content h => htext ⟨content, h⟩) hr
    exact hfinished.wellFormed hr

/-- What a conversation answers is well formed. -/
theorem wellFormed_run {σ : Conversation} {turns : List Turn} {r : Response}
    (hr : .response r ∈ σ.sent turns) : r.WellFormed := by
  induction turns generalizing σ with
  | nil => cases hr
  | cons t rest ih =>
    rcases List.mem_append.1 hr with hfirst | hrest
    · exact wellFormed_step hfirst
    · exact ih hrest

/-! ## All answers of a conversation -/

/-- How a socket answers. -/
structure AnsweredOnce (start : Conversation) (turns : List Turn) : Prop where
  /-- A text is answered at once, as it should be. -/
  texts : ∀ before content after, turns = before ++ .frame (.text content) :: after →
    (start.run before).isOpen = true → (start.run before).TextAnswered content
  /-- The request that opens a stream waits for its answer as long as the stream is open, and gets
  it in the turn that ends the stream. -/
  streams : ∀ before t after, turns = before ++ t :: after →
    let σ := start.run before
    let τ := (σ.step t).2
    ∀ s, Opens σ t s →
      (σ.step t).1 = [] ∧
        (τ.Waiting s after ∨
          ∃ during last rest, after = during ++ last :: rest ∧ τ.Waiting s during ∧
            (τ.run during).Finished s last)
  /-- A stream that is found at its end when its next event is to be taken has fallen behind. Its
  request is answered in this turn, once and with an error, and the stream is over. -/
  noticed : ∀ before after, turns = before ++ .deliver :: after →
    let σ := start.run before
    ∀ s, σ.isOpen = true → σ.socket.stream = some s →
      (σ.hub.events.receive s.subscriber).1 = .ended →
        (σ.step .deliver).2.socket.stream = none ∧ ∃ message,
          (σ.step .deliver).1 = [.response (.failure s.requestId ⟨-32000, message⟩)]
  /-- A stream that has been evicted comes to this end: if the socket goes on to take events, it
  sends those that are still queued, in order, and then this answer. -/
  evicted : ∀ before after, turns = before ++ after →
    let σ := start.run before
    ∀ s, σ.isOpen = true → σ.socket.stream = some s →
      σ.hub.events.isSubscribed s.subscriber = false → ∃ message,
        σ.sent (List.replicate ((σ.hub.events.queued s.subscriber).length + 1) .deliver) =
          (σ.hub.events.queued s.subscriber).map .notification ++
            [.response (.failure s.requestId ⟨-32000, message⟩)]
  /-- Apart from the answers to texts, nothing is answered but the request of a stream that ends. -/
  unprompted : ∀ before t after, turns = before ++ t :: after →
    (∀ content, t ≠ .frame (.text content)) → ∀ r, .response r ∈ ((start.run before).step t).1 →
      ∃ s, (start.run before).socket.stream = some s ∧ (start.run before).Finished s t
  /-- Nothing is sent after the end of the connection. -/
  closed : ∀ before t after, turns = before ++ t :: after → (start.run before).isOpen = false →
    ((start.run before).step t).1 = []
  /-- As long as the connection lasts, all that is owed has been answered, each as often as it is
  owed, except for the request of the open stream. -/
  ledger : ∀ before after, turns = before ++ after → (start.run before).isOpen = true →
    trace owed start before ~ trace answers start before ++ (start.run before).pending
  /-- Every response names the version, and has either a result or an error. -/
  wellFormed : ∀ r, .response r ∈ start.sent turns →
    r.WellFormed ∧
    ((∃ result, r.toJson = .obj [("jsonrpc", .str "2.0"), ("id", r.id), ("result", result)]) ∨
      ∃ error : Rpc.RpcError, r.toJson =
        .obj [("jsonrpc", .str "2.0"), ("id", r.id), ("error", error.toJson)])

/-- On every hub and in every conversation, whatever is owed an answer gets it, and nothing else
gets one. -/
theorem requests_are_answered_once (capacity : Nat) (earlier : List Hub.Action)
    (turns : List Turn) :
    AnsweredOnce (begin ((Hub.create capacity).run earlier)) turns := by
  constructor
  case texts => exact fun _ content _ _ hopen => textAnswered hopen content
  case streams =>
    intro before t after _ σ τ s hs
    obtain ⟨-, -, -, -, -, -, hsilent, -⟩ := hs.spec
    exact ⟨hsilent, stream_run hs.isOpen hs.stream after⟩
  case noticed =>
    intro before after _ σ s hopen hs hend
    obtain ⟨hsent, hstream⟩ := step_deliver_of_receive_ended hopen hs hend
    exact ⟨hstream, _, hsent⟩
  case evicted => exact fun _ _ _ s hopen hs hcut => ⟨_, sent_of_cut hopen hs hcut⟩
  case unprompted => exact fun _ _ _ _ htext _ hr => finished_of_response htext hr
  case closed => exact fun _ t _ _ hended => sent_of_ended hended t
  case ledger => exact fun before _ _ hopen => ledger_run hopen
  case wellFormed => exact fun _ hr => ⟨wellFormed_run hr, (wellFormed_run hr).toJson_eq⟩

/-- The request for a second stream is answered before the request for the first one, which is
answered when the stream is cancelled. -/
example :
    (idsOf ((begin (Hub.create 1)).sent
      [.frame (.text "\x7b\"id\":1,\"method\":\"map.events.subscribe\"\x7d"),
        .frame (.text "\x7b\"id\":2,\"method\":\"map.events.subscribe\"\x7d"),
        .frame (.text "\x7b\"id\":3,\"method\":\"$/cancelRequest\"\x7d")])).map Json.render =
      ["2", "1"] := by decide +kernel

end Conversation

end LiveMap
