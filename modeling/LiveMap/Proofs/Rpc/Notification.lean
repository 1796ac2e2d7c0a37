import LiveMap.Proofs.Rpc.Dispatch
import LiveMap.Proofs.Rpc.Envelope

/-!
# An id decides only what goes back

A request and the same request under another id, or without one, do the same to the hub: what they
ask for is read off the method and the parameters alone. The id decides whether something goes back,
and it is echoed there; what else goes back does not depend on it (`EchoesId`). So a notification
does what the request would do, and says nothing, be it that the method is unknown or that the
parameters do not fit.

An id is what the member of this name is. It is absent only if the member is, and null is an id like
any other (`id_of_parse`).
-/

namespace LiveMap.Rpc

/-- The request under another id, or without one. -/
def Request.withId (r : Request) (id : Option Json) : Request := { r with id }

/-- What the id of a request decides at a hub. -/
structure EchoesId (hub : Hub) (r : Request) : Prop where
  /-- The hub afterwards is the same under every id, and without one. -/
  sameHub : ∀ id id', (dispatch hub (r.withId id)).2 = (dispatch hub (r.withId id')).2
  /-- Without an id nothing goes back. -/
  silent : (dispatch hub (r.withId none)).1 = .silent
  /-- Unless the method opens a stream, one response goes back under every id. It carries the id,
  and the same result or error under each. -/
  replies : r.method ≠ subscribeMethod → ∃ result error, result.isSome = !error.isSome ∧
    ∀ v, (dispatch hub (r.withId (some v))).1 = .reply ⟨version, v, result, error⟩
  /-- The method that opens a stream asks for one exactly under the id of the request, if it has
  one. -/
  opens : r.method = subscribeMethod →
    ∀ id v, (dispatch hub (r.withId id)).1 = .subscribe v ↔ id = some v
  /-- In a text the id is the member of this name: it is absent only if the member is. -/
  member : ∀ text, Request.parse text = .ok r →
    ∃ members, Json.parse text = .ok (.obj members) ∧ r.id = Keyed.find? "id" members

/-- What is not the method that opens a stream is answered the same under every id. -/
theorem exists_answer (hub : Hub) {r : Request} (hm : r.method ≠ subscribeMethod) :
    ∃ outcome : Except RpcError Json,
      ∀ v, (dispatch hub (r.withId (some v))).1 = .reply (respond v outcome) := by
  cases hl : lookup r.method with
  | none =>
    refine ⟨.error (.methodNotFound r.method), fun v => ?_⟩
    have hl' : lookup (r.withId (some v)).method = none := hl
    rw [dispatch, hl']
    rfl
  | some handler =>
    cases handler with
    | eventStream => exact absurd (lookup_eq_eventStream_iff.1 hl) hm
    | unary method =>
      refine ⟨(method.call r.params hub).1, fun v => ?_⟩
      rw [dispatch_unary hub (r := r.withId (some v)) rfl hl]
      rfl

/-! ## The law of ids -/

/-- On every hub, the id of every request is echoed, and decides nothing but whether something goes
back. -/
theorem id_is_only_echoed (hub : Hub) (r : Request) : EchoesId hub r where
  sameHub id id' := by
    rw [hub_dispatch, hub_dispatch]
    rfl
  silent := dispatch_of_no_id hub rfl
  replies hm := by
    obtain ⟨outcome, hreply⟩ := exists_answer hub hm
    cases outcome with
    | ok result => exact ⟨some result, none, rfl, hreply⟩
    | error e => exact ⟨none, some e, rfl, hreply⟩
  opens hm id v := by
    cases id with
    | none =>
      rw [dispatch_of_no_id hub rfl]
      exact ⟨fun h => (by cases h), fun h => (by cases h)⟩
    | some id =>
      rw [dispatch_subscribe hub (r := r.withId (some id)) rfl hm]
      exact ⟨fun h => (by cases h; rfl), fun h => (by cases h; rfl)⟩
  member _ h := id_of_parse h

end LiveMap.Rpc
