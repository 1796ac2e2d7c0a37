import LiveMap.Http
import LiveMap.Proofs.Rpc.Dispatch
import LiveMap.Socket.Rpc

/-!
# Single requests and sockets agree

A request can come alone, over HTTP, or as a text on a socket. Apart from a cancellation and the
opening of a stream, which are for sockets only, both ways serve a text alike
(`served_cases`): either a response goes back, as the body of the one and as the only message of the
other, or nothing goes back. The hub is the same afterwards. The socket is as it was, whatever
stream it has open; all that can happen to the stream is that events are published, which then
stand behind those that are queued already.

Main statement: `transports_agree`, for every token, every text, every socket and every hub.
-/

namespace LiveMap

/-- A publication leaves what is queued in place. -/
theorem Channel.queued_prefix_publish {α : Type} (c : Channel α) (item : α) (id : SubscriberId) :
    c.queued id <+: (c.publish item).2.queued id := by
  cases hbox : c.mailbox? id with
  | none =>
    rw [queued_of_no_mailbox hbox]
    exact List.nil_prefix
  | some box =>
    have hheld : c.mailbox? id ≠ none := Option.ne_none_iff_exists'.2 ⟨box, hbox⟩
    rw [queued_publish c item id hheld]
    split
    · exact List.prefix_append _ _
    · exact List.prefix_rfl

/-- Publications leave what is queued in place. -/
theorem Channel.queued_prefix_publishes {α : Type} (c : Channel α) (items : List α)
    (id : SubscriberId) : c.queued id <+: (c.run (items.map .publish)).queued id := by
  induction items generalizing c with
  | nil => exact List.prefix_rfl
  | cons item rest ih => exact (c.queued_prefix_publish item id).trans (ih (c.publish item).2)

namespace Rpc

/-- Whether a text is for single requests and for sockets alike: it is no cancellation, and no
request, with an id, for a stream. -/
def IsCommon (text : String) : Prop := ∀ r, Request.parse text = .ok r →
  r.method ≠ RpcSocket.cancelMethod ∧ ¬(r.method = subscribeMethod ∧ r.id ≠ none)

/-- What a single request and a text on a socket have in common, from the hub before both. -/
structure Agree (hub : Hub) (single : HttpResponse × Hub) (socket : RpcSocket)
    (framed : List RpcMessage × RpcSocket × Hub) : Prop where
  /-- The single request is answered with 200 or with 204. -/
  status : single.1.status = 200 ∨ single.1.status = 204
  /-- It is answered with 200 and a body exactly if this is the one message on the socket. -/
  answered : ∀ body, (single.1.status = 200 ∧ single.1.body = body) ↔
    framed.1.map (·.toJson.render) = [body]
  /-- It is answered with 204 and no body exactly if nothing is sent on the socket. -/
  silent : (single.1.status = 204 ∧ single.1.body = "") ↔ framed.1 = []
  /-- Both leave the same hub behind. -/
  sameHub : single.2 = framed.2.2
  /-- The socket, with the stream that it has open, is as it was. -/
  sameSocket : framed.2.1 = socket
  /-- Nothing but publications happens to the events, and so to those of the stream. -/
  publishes : ∃ events : List MapEvent,
    framed.2.2.events = hub.events.run (events.map .publish)
  /-- What is queued for the stream stays queued. -/
  queued : ∀ id, hub.events.queued id <+: framed.2.2.events.queued id

/-- How a text is served that is for single requests and for sockets alike: with a response or with
none. The hub is as it was, or as a request leaves it. -/
theorem served_cases {text : String} (hcommon : IsCommon text) (socket : RpcSocket) (hub : Hub) :
    ∃ after : Hub, (∃ events : List MapEvent, after.events = hub.events.run (events.map .publish)) ∧
      ((∃ response : Response, Http.rpcText text hub = (.json 200 response.toJson, after) ∧
          socket.handleText text hub = ([.response response], socket, after)) ∨
        (Http.rpcText text hub = (.empty 204, after) ∧
          socket.handleText text hub = ([], socket, after))) := by
  unfold Http.rpcText RpcSocket.handleText
  cases hp : Request.parse text with
  | error refusal => exact ⟨hub, ⟨[], rfl⟩, Or.inl ⟨refusal, rfl, rfl⟩⟩
  | ok r =>
    obtain ⟨hcancel, hstream⟩ := hcommon r hp
    refine ⟨(dispatch hub r).2, ⟨r.announced hub, events_dispatch hub r⟩, ?_⟩
    dsimp only
    unfold RpcSocket.serve
    rw [if_neg hcancel]
    obtain ⟨-, hsilent⟩ | ⟨id, response, -, -, hreply, -, -⟩ | ⟨id, hid, hm, -⟩ :=
      dispatch_cases hub r
    · rw [← Prod.eta (dispatch hub r), hsilent]
      exact Or.inr ⟨rfl, rfl⟩
    · rw [← Prod.eta (dispatch hub r), hreply]
      exact Or.inl ⟨response, rfl, rfl⟩
    · have hsome : r.id ≠ none := by
        rw [hid]
        exact Option.some_ne_none id
      exact absurd ⟨hm, hsome⟩ hstream

/-- A text that is for single requests and for sockets alike is served alike by both. -/
theorem agree_of_isCommon {text : String} (hcommon : IsCommon text) (socket : RpcSocket)
    (hub : Hub) : Agree hub (Http.rpcText text hub) socket (socket.handleText text hub) := by
  obtain ⟨after, hevents, hserved⟩ := served_cases hcommon socket hub
  have hqueued : ∀ id, hub.events.queued id <+: after.events.queued id := by
    intro id
    obtain ⟨events, hafter⟩ := hevents
    rw [hafter]
    exact hub.events.queued_prefix_publishes events id
  obtain ⟨response, hsingle, hframed⟩ | ⟨hsingle, hframed⟩ := hserved
  all_goals rw [hsingle, hframed]
  · refine ⟨Or.inl rfl, fun body => ?_, ?_, rfl, rfl, hevents, hqueued⟩
    · show (200 = 200 ∧ response.toJson.render = body) ↔ [response.toJson.render] = [body]
      simp
    · exact iff_of_false (fun h => (by cases h.1)) (List.cons_ne_nil _ _)
  · refine ⟨Or.inr rfl, fun body => ?_, iff_of_true ⟨rfl, rfl⟩ rfl, rfl, rfl, hevents, hqueued⟩
    exact iff_of_false (fun h => (by cases h.1)) (List.cons_ne_nil _ _).symm

/-- With the token, a text that is for single requests and for sockets alike is served alike by
both, and so is a single request whose body can be read and is this text. -/
theorem transports_agree {token : Option String} {headers : List (String × String)} {text : String}
    (haccepted : Authorization.accepts token headers = true) (hcommon : IsCommon text)
    (socket : RpcSocket) (hub : Hub) :
    Agree hub (Http.rpcGuarded token headers text hub) socket (socket.handleText text hub) ∧
      ∀ request : HttpRequest, request.headers = headers →
        request.body.length ≤ Http.bodyLimit → Text.Utf8.decode request.body = .ok text →
          Agree hub (Http.rpc token request hub) socket (socket.handleText text hub) := by
  have hagree := agree_of_isCommon hcommon socket hub
  constructor
  · rw [Http.rpcGuarded_of_accepts haccepted]
    exact hagree
  · rintro request rfl hlength hdecoded
    rw [Http.rpc_of_accepts hlength hdecoded haccepted]
    exact hagree

/-- A notification that adds a marker. -/
def addition : String :=
  "\x7b\"method\":\"markers.add\",\"params\":\x7b\"id\":\"a\",\"name\":\"A\",\"latLng\":[1,2]\x7d\x7d"

/-- An addition is served alike as a single request under a token, and on a socket with an open
stream, for which an event is queued then. -/
theorem transports_agree_on_addition :
    let request : HttpRequest :=
      ⟨"POST", "/api/rpc", [("authorization", "Bearer secret")], addition.toUTF8.toList⟩
    let hub : Hub := (Hub.create 4).act (.listenEvents .subscribe)
    let socket : RpcSocket := ⟨some ⟨.str "s", 1, 0⟩⟩
    request.body.length ≤ Http.bodyLimit ∧ Text.Utf8.decode request.body = .ok addition ∧
      Authorization.accepts (some "secret") request.headers = true ∧ IsCommon addition ∧
      ((socket.handleText addition hub).2.2.events.queued 1).length = 1 ∧
      Agree hub (Http.rpc (some "secret") request hub) socket (socket.handleText addition hub) := by
  have hlength : addition.toUTF8.toList.length ≤ Http.bodyLimit := by decide +kernel
  have hdecoded : Text.Utf8.decode addition.toUTF8.toList = .ok addition := by decide +kernel
  have haccepted : Authorization.accepts (some "secret") [("authorization", "Bearer secret")] =
      true := by decide +kernel
  have hmethod : (Request.parse addition).toOption.map Request.method = some "markers.add" := by
    decide +kernel
  have hcommon : IsCommon addition := by
    intro r hr
    rw [hr] at hmethod
    have hadd : r.method = "markers.add" := Option.some.inj hmethod
    rw [hadd]
    exact ⟨by decide, fun h => absurd h.1 (by decide)⟩
  exact ⟨hlength, hdecoded, haccepted, hcommon, by decide +kernel,
    (transports_agree haccepted hcommon _ _).2 _ rfl hlength hdecoded⟩

end Rpc

end LiveMap
