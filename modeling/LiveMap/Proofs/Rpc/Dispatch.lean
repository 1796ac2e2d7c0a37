import LiveMap.Proofs.Hub.Run
import LiveMap.Rpc.Dispatch

/-!
# What a request does, and what answers it

The answer to a request depends on whether it has an id, and the hub that it leaves does not. A
request without an id is never answered (`dispatch_of_no_id`). One with an id opens a stream if it
names the method for that (`dispatch_subscribe`), and is answered once under its id otherwise
(`exists_reply_of_id`). What it does to the hub is the action that its method and its parameters ask
for, if they ask for one (`hub_dispatch`).

Every response, be it to a request or to a text that is none, names the version and carries either a
result or an error.
-/

namespace LiveMap.Rpc

/-- The method that opens a stream of events. -/
def subscribeMethod : String := "map.events.subscribe"

/-- A response that names the version and carries either a result or an error, and not both. -/
structure Response.WellFormed (r : Response) : Prop where
  /-- The version is that of every message. -/
  version : r.jsonrpc = "2.0"
  /-- There is a result exactly if there is no error. -/
  either : r.result.isSome = !r.error.isSome

/-- What a request asks for, if it names a unary method and its parameters fit. -/
def Request.action? (r : Request) : Option Action :=
  match lookup r.method with
  | some (.unary method) => (method.action r.params).toOption
  | some .eventStream | none => none

/-- What a request tells the listeners: a report of the operation that it yields, if any. -/
def Request.announced (r : Request) (hub : Hub) : List MapEvent :=
  match r.action? with
  | some (.mutate mutation) => (hub.perform mutation).1.toList.map fun op => .markerOp (.ofOp op)
  | some .list | some (.issue _) | none => []

/-! ## Responses -/

/-- The response to a success is well formed. -/
theorem wellFormed_success (id result : Json) : (Response.success id result).WellFormed :=
  ⟨rfl, rfl⟩

/-- The response to a failure is well formed. -/
theorem wellFormed_failure (id : Json) (error : RpcError) :
    (Response.failure id error).WellFormed := ⟨rfl, rfl⟩

/-- A well-formed response is sent with the version, the id, and either a result or an error. -/
theorem Response.WellFormed.toJson_eq {r : Response} (h : r.WellFormed) :
    (∃ result, r.toJson = .obj [("jsonrpc", .str "2.0"), ("id", r.id), ("result", result)]) ∨
    ∃ error : RpcError, r.toJson =
      .obj [("jsonrpc", .str "2.0"), ("id", r.id), ("error", error.toJson)] := by
  obtain ⟨jsonrpc, id, result, error⟩ := r
  obtain ⟨hversion, heither⟩ := h
  cases hversion
  cases result with
  | none =>
    cases error with
    | none => cases heither
    | some error => exact Or.inr ⟨error, rfl⟩
  | some result =>
    cases error with
    | none => exact Or.inl ⟨result, rfl⟩
    | some error => cases heither

/-- A refusal to read a value as a request is the response to a failure. -/
theorem exists_failure_of_ofValue {v : Json} {refusal : Response}
    (h : Request.ofValue v = .error refusal) : ∃ id error, refusal = .failure id error := by
  unfold Request.ofValue at h
  dsimp only at h
  split at h
  · split at h
    · cases h
      exact ⟨_, _, rfl⟩
    · split at h
      · cases h
      · split at h
        · cases h
        · cases h
          exact ⟨_, _, rfl⟩
  · cases h
    exact ⟨_, _, rfl⟩

/-- A refusal to read a text as a request is the response to a failure. -/
theorem exists_failure_of_parse {text : String} {refusal : Response}
    (h : Request.parse text = .error refusal) : ∃ id error, refusal = .failure id error := by
  unfold Request.parse at h
  split at h
  · cases h
    exact ⟨_, _, rfl⟩
  · exact exists_failure_of_ofValue h

/-- The response to a unary request is the response to a success or to a failure, under its id. -/
theorem wellFormed_respond (id : Json) (outcome : Except RpcError Json) :
    (respond id outcome).id = id ∧ (respond id outcome).WellFormed := by
  cases outcome with
  | ok result => exact ⟨rfl, wellFormed_success id result⟩
  | error e => exact ⟨rfl, wellFormed_failure id e⟩

/-! ## Methods -/

/-- One method opens a stream. -/
theorem lookup_eq_eventStream_iff {name : String} :
    lookup name = some .eventStream ↔ name = subscribeMethod := by
  constructor
  · intro h
    have hmem := Keyed.mem_of_find?_eq_some h
    simpa [methodTable, subscribeMethod] using hmem
  · rintro rfl
    rfl

/-! ## Answers -/

/-- A request without an id is never answered. -/
theorem dispatch_of_no_id (hub : Hub) {r : Request} (h : r.id = none) :
    (dispatch hub r).1 = .silent := by
  have hn : r.isNotification = true := by rw [Request.isNotification, h, Option.isNone_none]
  unfold dispatch
  rw [hn]
  cases lookup r.method with
  | none => rfl
  | some handler => cases handler <;> rfl

/-- A request with an id that names the method for it asks for a stream under its id, and does
nothing else. -/
theorem dispatch_subscribe (hub : Hub) {r : Request} {id : Json} (h : r.id = some id)
    (hm : r.method = subscribeMethod) : dispatch hub r = (.subscribe id, hub) := by
  have hlookup := lookup_eq_eventStream_iff.2 hm
  unfold dispatch
  rw [hlookup, Request.isNotification, Request.responseId, h]
  rfl

/-- A unary request with an id is answered with what its method gives. -/
theorem dispatch_unary (hub : Hub) {r : Request} {id : Json} {method : UnaryMethod}
    (h : r.id = some id) (hm : lookup r.method = some (.unary method)) :
    dispatch hub r =
      (.reply (respond id (method.call r.params hub).1), (method.call r.params hub).2) := by
  have hn : r.isNotification = false := by rw [Request.isNotification, h, Option.isNone_some]
  have hid : r.responseId = id := by rw [Request.responseId, h, Option.getD_some]
  unfold dispatch
  rw [hn, hid, hm]
  rfl

/-- Any other request with an id is answered once, under its id. -/
theorem exists_reply_of_id (hub : Hub) {r : Request} {id : Json} (h : r.id = some id)
    (hm : r.method ≠ subscribeMethod) :
    ∃ response, (dispatch hub r).1 = .reply response ∧ response.id = id ∧
      response.WellFormed := by
  cases hl : lookup r.method with
  | none =>
    have hn : r.isNotification = false := by rw [Request.isNotification, h, Option.isNone_some]
    have hid : r.responseId = id := by rw [Request.responseId, h, Option.getD_some]
    unfold dispatch
    rw [hn, hid, hl]
    exact ⟨_, rfl, rfl, wellFormed_failure id _⟩
  | some handler =>
    cases handler with
    | eventStream => exact absurd (lookup_eq_eventStream_iff.1 hl) hm
    | unary method =>
      rw [dispatch_unary hub h hl]
      exact ⟨_, rfl, wellFormed_respond id _⟩

/-- All that can answer a request: nothing, a response, or a stream. -/
theorem dispatch_cases (hub : Hub) (r : Request) :
    (r.id = none ∧ (dispatch hub r).1 = .silent) ∨
    (∃ id response, r.id = some id ∧ r.method ≠ subscribeMethod ∧
      (dispatch hub r).1 = .reply response ∧ response.id = id ∧ response.WellFormed) ∨
    (∃ id, r.id = some id ∧ r.method = subscribeMethod ∧
      dispatch hub r = (.subscribe id, hub)) := by
  cases h : r.id with
  | none => exact Or.inl ⟨rfl, dispatch_of_no_id hub h⟩
  | some id =>
    by_cases hm : r.method = subscribeMethod
    · exact Or.inr (Or.inr ⟨id, rfl, hm, dispatch_subscribe hub h hm⟩)
    · obtain ⟨response, hreply, hid, hwell⟩ := exists_reply_of_id hub h hm
      exact Or.inr (Or.inl ⟨id, response, rfl, hm, hreply, hid, hwell⟩)

/-! ## Effects -/

/-- What a request does to the hub is the action that it asks for, if it asks for one. -/
theorem hub_dispatch (hub : Hub) (r : Request) :
    (dispatch hub r).2 =
      match r.action? with
      | none => hub
      | some action => (action.run hub).2 := by
  unfold dispatch Request.action?
  cases lookup r.method with
  | none => rfl
  | some handler =>
    cases handler with
    | eventStream => rfl
    | unary method =>
      dsimp only
      unfold UnaryMethod.call
      cases method.action r.params with
      | error fault => rfl
      | ok action => rfl

/-- On the channel of events a request publishes what it announces. -/
theorem events_dispatch (hub : Hub) (r : Request) :
    (dispatch hub r).2.events = hub.events.run ((r.announced hub).map .publish) := by
  rw [hub_dispatch, Request.announced]
  cases r.action? with
  | none => rfl
  | some action =>
    cases action with
    | mutate mutation =>
      show (hub.perform mutation).2.events = _
      rw [Hub.events_perform, List.map_map]
      rfl
    | list => rfl
    | issue command => rfl

/-- A request changes the registry by the mutation that it asks for, if it asks for one. -/
theorem registry_dispatch (hub : Hub) (r : Request) :
    (dispatch hub r).2.registry =
      match r.action? with
      | some (.mutate mutation) => (hub.registry.commit mutation).2
      | some .list | some (.issue _) | none => hub.registry := by
  rw [hub_dispatch]
  cases r.action? with
  | none => rfl
  | some action =>
    cases action with
    | mutate mutation => exact Hub.registry_perform hub mutation
    | list => rfl
    | issue command => rfl

end LiveMap.Rpc
