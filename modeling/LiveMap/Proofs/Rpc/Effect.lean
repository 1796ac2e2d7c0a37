import LiveMap.Http
import LiveMap.Proofs.Channel.Publish
import LiveMap.Proofs.Failable
import LiveMap.Proofs.Rpc.Markers

/-!
# One request, one effect

A request either changes nothing or makes one commit: it puts one marker in place, moves or removes
one, or sends one command. Which of these it is can be read off the request and the registry.
`Request.Inert` lists the reasons for which a request changes nothing, and `Request.Commits` says
what a commit does to each part of the hub.

What a request asks for does not depend on the hub, and `Request.intent` sums it up. What a mutation
then does to any hub, valid or not, is said by `perform_of_absent` and `markerCommit_perform`.

Main statement: `dispatch_has_one_effect`, for every hub and every request.
-/

namespace LiveMap

/-- The method that asks for an operation of this kind. -/
def OpKind.method : OpKind → String
  | add => "markers.add"
  | update => "markers.update"
  | delete => "markers.delete"

/-- The method that asks for a command of this kind. -/
def MapCommand.method : MapCommand → String
  | setView .. => "map.setView"
  | flyTo .. => "map.flyTo"
  | fitBounds .. => "map.fitBounds"
  | flyToBounds .. => "map.flyToBounds"
  | setZoom .. => "map.setZoom"
  | resetView => "map.resetView"
  | highlightMarker .. => "map.highlightMarker"

namespace Rpc

open Json (Record)

/-- The name of a method. -/
def UnaryMethod.name : UnaryMethod → String
  | markersAdd => "markers.add"
  | markersUpdate => "markers.update"
  | markersDelete => "markers.delete"
  | markersList => "markers.list"
  | mapSetView => "map.setView"
  | mapFlyTo => "map.flyTo"
  | mapFitBounds => "map.fitBounds"
  | mapFlyToBounds => "map.flyToBounds"
  | mapSetZoom => "map.setZoom"
  | mapResetView => "map.resetView"
  | mapHighlightMarker => "map.highlightMarker"

/-- The parameters of a method, if it has any. -/
def UnaryMethod.shape? : UnaryMethod → Option Record
  | markersAdd | markersUpdate => some markerShape
  | markersDelete | mapHighlightMarker => some markerIdShape
  | mapSetView | mapFlyTo => some viewShape
  | mapFitBounds | mapFlyToBounds => some boundsShape
  | mapSetZoom => some zoomShape
  | markersList | mapResetView => none

/-- Why a request changes nothing. -/
inductive Request.Inert (hub : Hub) (r : Request) : Prop where
  /-- There is no such method. -/
  | unknown (absent : lookup r.method = none)
  /-- The request asks for a stream of events. -/
  | stream (named : r.method = subscribeMethod)
  /-- The parameters cannot be read. -/
  | undecoded {method : UnaryMethod} {record : Record} {fault : Json.RecordFault}
      (known : lookup r.method = some (.unary method)) (shape : method.shape? = some record)
      (refused : readParams record r.params = .error fault)
  /-- The request asks for the listing. -/
  | listing (named : r.method = "markers.list")
  /-- The request moves or removes a marker that does not exist. -/
  | absent {asked : MarkerOp} (spelled : r.edit? = some asked) (kind : asked.kind ≠ .add)
      (unfiled : hub.registry.find? asked.id = none)

/-- What one commit of a marker operation makes of a hub. The operation `asked` is what the request
spells out; `op` is what is announced, which for a move is under the stored name. -/
structure MarkerCommit (before : Hub) (asked op : MarkerOp) (after : Hub) : Prop where
  /-- It is of the kind that was asked for. -/
  kind : op.kind = asked.kind
  /-- It is about the marker that was asked for. -/
  about : before.registry.Valid → op.id = asked.id
  /-- The registry commits the mutation that was asked for, and this yields the operation. -/
  commit : before.registry.commit asked.mutation = (some op, after.registry)
  /-- No other marker changes. -/
  others : ∀ id, id ≠ asked.id → after.registry.find? id = before.registry.find? id
  /-- The views are told of it once. -/
  ops : after.ops = (before.ops.publish op).2
  /-- So each of them has it queued once, if there is room. -/
  shown : before.ops.Valid → before.ops.Offered op after.ops
  /-- The listeners are told of the same operation once. -/
  events : after.events = (before.events.publish (.markerOp (.ofOp op))).2
  /-- So each of them has it queued once, if there is room. -/
  heard : before.events.Valid → before.events.Offered (.markerOp (.ofOp op)) after.events
  /-- No command is sent. -/
  commands : after.commands = before.commands

/-- What one command makes of a hub. -/
structure CommandCommit (before : Hub) (command : MapCommand) (after : Hub) : Prop where
  /-- The command is sent once. -/
  commands : after.commands = (before.commands.publish command).2
  /-- So each view has it queued once, if there is room. -/
  shown : before.commands.Valid → before.commands.Offered command after.commands
  /-- No marker changes. -/
  registry : after.registry = before.registry
  /-- The views are told of no operation. -/
  ops : after.ops = before.ops
  /-- The listeners are told nothing. -/
  events : after.events = before.events

/-- One commit of the kind that a request names. -/
inductive Request.Commits (r : Request) (before after : Hub) : Prop where
  /-- An operation on the marker that the request names. -/
  | marker (asked op : MarkerOp) (spelled : r.edit? = some asked)
      (named : r.method = op.kind.method) (effect : MarkerCommit before asked op after)
  /-- A command. -/
  | command (command : MapCommand) (named : r.method = command.method)
      (effect : CommandCommit before command after)

/-! ## What requests ask for -/

/-- A request that spells out an operation names the method for its kind. -/
theorem Request.method_of_edit? {r : Request} {asked : MarkerOp} (h : r.edit? = some asked) :
    r.method = asked.kind.method := by
  unfold edit? at h
  split at h
  · next hm =>
    split at h <;> cases h
    exact hm
  split at h
  · next hm =>
    split at h <;> cases h
    exact hm
  split at h
  · next hm =>
    split at h <;> cases h
    exact hm
  · cases h

/-- The table has one name for each unary method. -/
theorem name_of_lookup {name : String} {method : UnaryMethod}
    (h : lookup name = some (.unary method)) : name = method.name := by
  have hmem := Keyed.mem_of_find?_eq_some h
  cases method <;> simpa [methodTable, UnaryMethod.name] using hmem

/-- A method refuses its parameters if they cannot be read. -/
theorem UnaryMethod.refused_of_action {method : UnaryMethod} {params : Json}
    {fault : Json.RecordFault} (h : method.action params = .error fault) :
    ∃ record, method.shape? = some record ∧ readParams record params = .error fault := by
  cases method with
  | markersList | mapResetView => cases h
  | markersAdd | markersUpdate => exact ⟨markerShape, rfl, fault_of_bind_eq_error h⟩
  | markersDelete | mapHighlightMarker => exact ⟨markerIdShape, rfl, fault_of_bind_eq_error h⟩
  | mapSetView | mapFlyTo => exact ⟨viewShape, rfl, fault_of_bind_eq_error h⟩
  | mapFitBounds | mapFlyToBounds => exact ⟨boundsShape, rfl, fault_of_bind_eq_error h⟩
  | mapSetZoom => exact ⟨zoomShape, rfl, fault_of_bind_eq_error h⟩

/-- Parameters that cannot be read ask for nothing. -/
theorem UnaryMethod.action_of_refused {method : UnaryMethod} {record : Record} {params : Json}
    {fault : Json.RecordFault} (hs : method.shape? = some record)
    (h : readParams record params = .error fault) : method.action params = .error fault := by
  cases method <;> cases hs <;> rw [UnaryMethod.action, h] <;> rfl

/-- The one method that asks for the listing. -/
theorem UnaryMethod.eq_markersList_of_action {method : UnaryMethod} {params : Json}
    (h : method.action params = .ok .list) : method = .markersList := by
  cases method with
  | markersList => rfl
  | mapResetView => cases h
  | _ =>
    obtain ⟨values, -, h⟩ := exists_of_bind_eq_ok h
    cases h

/-- A command is asked for by the method that names its kind. -/
theorem UnaryMethod.name_of_action {method : UnaryMethod} {params : Json} {command : MapCommand}
    (h : method.action params = .ok (.issue command)) : method.name = command.method := by
  cases method with
  | markersList => cases h
  | mapResetView =>
    cases h
    rfl
  | markersAdd | markersUpdate | markersDelete =>
    obtain ⟨values, -, h⟩ := exists_of_bind_eq_ok h
    cases h
  | _ =>
    obtain ⟨values, -, h⟩ := exists_of_bind_eq_ok h
    cases h
    rfl

/-- A request that spells out an operation asks for its mutation. -/
theorem Request.action?_of_edit? {r : Request} {asked : MarkerOp} (h : r.edit? = some asked) :
    r.action? = some (.mutate asked.mutation) := by
  have hmutation := r.mutation?_eq
  rw [h, Option.map_some] at hmutation
  obtain ⟨action, ha, hm⟩ := Option.bind_eq_some_iff.1 hmutation
  rw [ha]
  cases action with
  | mutate mutation =>
    cases hm
    rfl
  | list | issue command => cases hm

/-- All that a request can ask for: nothing but perhaps the listing, for one of the reasons that do
not depend on the hub; an operation; or a command. -/
theorem Request.intent (r : Request) :
    (r.action?.getD .list = .list ∧ ∀ hub, r.Inert hub) ∨
    (∃ asked, r.edit? = some asked ∧ r.action? = some (.mutate asked.mutation)) ∨
    (∃ command : MapCommand, r.method = command.method ∧ r.action? = some (.issue command)) := by
  have hmutation := r.mutation?_eq
  unfold action? at hmutation ⊢
  cases hl : lookup r.method with
  | none => exact Or.inl ⟨rfl, fun _ => .unknown hl⟩
  | some handler =>
    cases handler with
    | eventStream => exact Or.inl ⟨rfl, fun _ => .stream (lookup_eq_eventStream_iff.1 hl)⟩
    | unary method =>
      have hname := name_of_lookup hl
      rw [hl] at hmutation
      dsimp only at hmutation ⊢
      cases ha : method.action r.params with
      | error fault =>
        obtain ⟨record, hshape, hrefused⟩ := UnaryMethod.refused_of_action ha
        exact Or.inl ⟨rfl, fun _ => .undecoded hl hshape hrefused⟩
      | ok action =>
        rw [ha] at hmutation
        cases action with
        | list =>
          rw [UnaryMethod.eq_markersList_of_action ha] at hname
          exact Or.inl ⟨rfl, fun _ => .listing hname⟩
        | mutate mutation =>
          -- The mutation is that of the operation that the request spells out.
          obtain ⟨asked, hasked, hm⟩ := Option.map_eq_some_iff.1 hmutation.symm
          cases hm
          exact Or.inr (Or.inl ⟨asked, hasked, rfl⟩)
        | issue command =>
          rw [UnaryMethod.name_of_action ha] at hname
          exact Or.inr (Or.inr ⟨command, hname, rfl⟩)

/-! ## What mutations and commands do to any hub -/

/-- Moving or removing a marker that does not exist changes nothing. -/
theorem perform_of_absent {hub : Hub} {asked : MarkerOp} (hk : asked.kind ≠ .add)
    (h : hub.registry.find? asked.id = none) : (hub.perform asked.mutation).2 = hub := by
  cases asked with
  | add id name position => exact absurd rfl hk
  | update id name position =>
    have hnone : hub.registry.find? id = none := h
    rw [MarkerOp.mutation, Hub.perform, Registry.commit, Registry.updateWhere, hnone]
  | delete id =>
    have hnone : hub.registry.find? id = none := h
    rw [MarkerOp.mutation, Hub.perform, Registry.commit, Registry.deleteWhere, hnone]

/-- Whatever the registry's commit yields is announced, once on each channel that it concerns. -/
theorem markerCommit_of_commit {hub : Hub} {asked op : MarkerOp} {registry : Registry}
    (hc : hub.registry.commit asked.mutation = (some op, registry)) (hkind : op.kind = asked.kind)
    (hothers : ∀ id, id ≠ asked.id → registry.find? id = hub.registry.find? id) :
    MarkerCommit hub asked op (hub.perform asked.mutation).2 := by
  have hperform : (hub.perform asked.mutation).2 = ⟨registry, (hub.ops.publish op).2,
      hub.commands, (hub.events.publish (.markerOp (.ofOp op))).2⟩ := by
    rw [Hub.perform_eq, hc]
    rfl
  have habout : hub.registry.Valid → op.id = asked.id := by
    intro hv
    have hid : op.id = asked.mutation.id := hv.id_of_commit (congrArg Prod.fst hc)
    rw [hid]
    cases asked <;> rfl
  rw [hperform]
  exact ⟨hkind, habout, hc, hothers, rfl, fun hv => hv.offered_publish _, rfl,
    fun hv => hv.offered_publish _, rfl⟩

/-- Issuing a command sends it, and does nothing else to the hub. -/
theorem commandCommit_issueCommand (hub : Hub) (command : MapCommand) :
    CommandCommit hub command (hub.issueCommand command).2 :=
  ⟨rfl, fun hv => hv.offered_publish _, rfl, rfl, rfl⟩

/-- Any other operation that a request spells out is committed once. -/
theorem markerCommit_perform {hub : Hub} {asked : MarkerOp}
    (h : asked.kind = .add ∨ hub.registry.find? asked.id ≠ none) :
    ∃ op, MarkerCommit hub asked op (hub.perform asked.mutation).2 := by
  cases asked with
  | add id name position =>
    exact ⟨_, markerCommit_of_commit rfl rfl fun j hj => Keyed.find?_put_of_ne hj⟩
  | update id name position =>
    obtain ⟨m, hm⟩ := Option.ne_none_iff_exists'.1 (h.resolve_left OpKind.noConfusion)
    have hfound : hub.registry.find? id = some m := hm
    have hc : hub.registry.commit (.update id position) = (some (.updated { m with position }),
        ⟨Keyed.put id { m with position } hub.registry.entries⟩) := by
      rw [Registry.commit, Registry.updateWhere, hfound]
      rfl
    exact ⟨_, markerCommit_of_commit hc rfl fun j hj => Keyed.find?_put_of_ne hj⟩
  | delete id =>
    obtain ⟨m, hm⟩ := Option.ne_none_iff_exists'.1 (h.resolve_left OpKind.noConfusion)
    have hfound : hub.registry.find? id = some m := hm
    have hc : hub.registry.commit (.delete id) =
        (some (.delete m.id), ⟨Keyed.erase id hub.registry.entries⟩) := by
      rw [Registry.commit, Registry.deleteWhere, hfound]
      rfl
    exact ⟨_, markerCommit_of_commit hc rfl fun j hj => Keyed.find?_erase_of_ne hj⟩

/-! ## What requests do -/

/-- A request that asks for nothing but perhaps the listing changes nothing. -/
theorem hub_dispatch_of_list {r : Request} (h : r.action?.getD .list = .list) (hub : Hub) :
    (dispatch hub r).2 = hub := by
  rw [hub_dispatch]
  cases ha : r.action? with
  | none => rfl
  | some action =>
    rw [ha, Option.getD_some] at h
    rw [h]
    rfl

/-- A request that asks for something names a unary method and has parameters that fit. -/
theorem exists_unary_of_action? {r : Request} {action : Action} (h : r.action? = some action) :
    ∃ method, lookup r.method = some (.unary method) ∧ method.action r.params = .ok action := by
  unfold Request.action? at h
  split at h
  · next method hl =>
    refine ⟨method, hl, ?_⟩
    cases ha : method.action r.params with
    | error fault =>
      rw [ha] at h
      cases h
    | ok asked =>
      rw [ha] at h
      cases h
      rfl
  · cases h
  · cases h

/-- A request that asks for something is answered with its result, if it is answered. -/
theorem reply_of_action? {hub : Hub} {r : Request} {action : Action} {response : Response}
    (h : r.action? = some action) (hr : (dispatch hub r).1 = .reply response) :
    ∃ id, response = .success id (action.run hub).1 := by
  obtain ⟨method, hl, ha⟩ := exists_unary_of_action? h
  cases hid : r.id with
  | none =>
    rw [dispatch_of_no_id hub hid] at hr
    cases hr
  | some id =>
    rw [dispatch_unary hub hid hl, UnaryMethod.call, ha] at hr
    cases hr
    exact ⟨id, rfl⟩

/-- A request that is answered by an error changes nothing. -/
theorem hub_dispatch_of_error {hub : Hub} {r : Request} {response : Response}
    (hr : (dispatch hub r).1 = .reply response) (he : response.error ≠ none) :
    (dispatch hub r).2 = hub := by
  rw [hub_dispatch]
  cases ha : r.action? with
  | none => rfl
  | some action =>
    obtain ⟨id, rfl⟩ := reply_of_action? ha hr
    exact absurd rfl he

/-- A request changes nothing for any of the reasons for that. -/
theorem hub_dispatch_of_inert {hub : Hub} {r : Request} (h : r.Inert hub) :
    (dispatch hub r).2 = hub := by
  -- For all reasons but the last the request asks for nothing, or for the listing.
  have hnothing : r.action? = none → (dispatch hub r).2 = hub := by
    intro ha
    exact hub_dispatch_of_list (by rw [ha, Option.getD_none]) hub
  cases h with
  | unknown hl => exact hnothing (by rw [Request.action?, hl])
  | stream hs => exact hnothing (by rw [Request.action?, lookup_eq_eventStream_iff.2 hs])
  | undecoded hl hs hp =>
    refine hnothing ?_
    rw [Request.action?, hl]
    dsimp only
    rw [UnaryMethod.action_of_refused hs hp]
    rfl
  | listing hm =>
    have hl : lookup r.method = some (.unary .markersList) := by rw [hm]; rfl
    refine hub_dispatch_of_list ?_ hub
    rw [Request.action?, hl]
    rfl
  | absent hasked hk hnone =>
    rw [hub_dispatch, r.action?_of_edit? hasked]
    exact perform_of_absent hk hnone

/-- A request changes nothing, for one of the reasons for that, or makes one commit. -/
theorem dispatch_inert_or_commits (hub : Hub) (r : Request) :
    (r.Inert hub ∧ (dispatch hub r).2 = hub) ∨ r.Commits hub (dispatch hub r).2 := by
  rcases r.intent with ⟨haction, hinert⟩ | ⟨asked, hasked, haction⟩ | ⟨command, hname, haction⟩
  · exact Or.inl ⟨hinert hub, hub_dispatch_of_list haction hub⟩
  · have hdispatch : (dispatch hub r).2 = (hub.perform asked.mutation).2 := by
      rw [hub_dispatch, haction]
      rfl
    rw [hdispatch]
    by_cases hkind : asked.kind = .add
    · have hadded : asked.kind = .add ∨ hub.registry.find? asked.id ≠ none := Or.inl hkind
      obtain ⟨op, hcommit⟩ := markerCommit_perform hadded
      have hname : r.method = op.kind.method := by rw [hcommit.kind, r.method_of_edit? hasked]
      exact Or.inr (.marker asked op hasked hname hcommit)
    · by_cases hnone : hub.registry.find? asked.id = none
      · exact Or.inl ⟨.absent hasked hkind hnone, perform_of_absent hkind hnone⟩
      · obtain ⟨op, hcommit⟩ := markerCommit_perform (Or.inr hnone)
        have hname : r.method = op.kind.method := by rw [hcommit.kind, r.method_of_edit? hasked]
        exact Or.inr (.marker asked op hasked hname hcommit)
  · have hdispatch : (dispatch hub r).2 = (hub.issueCommand command).2 := by
      rw [hub_dispatch, haction]
      rfl
    rw [hdispatch]
    exact Or.inr (.command command hname (commandCommit_issueCommand hub command))

/-- What one request does to a hub. -/
structure SingleEffect (hub : Hub) (r : Request) : Prop where
  /-- It changes nothing, or makes one commit of the kind that it names. -/
  either : (dispatch hub r).2 = hub ∨ r.Commits hub (dispatch hub r).2
  /-- It changes nothing if there is a reason for that. -/
  inert : r.Inert hub → (dispatch hub r).2 = hub
  /-- It changes nothing if it is answered by an error. -/
  failed : ∀ response, (dispatch hub r).1 = .reply response → response.error ≠ none →
    (dispatch hub r).2 = hub
  /-- Without a reason to change nothing it makes its commit. -/
  commits : ¬r.Inert hub → r.Commits hub (dispatch hub r).2
  /-- Over HTTP a request for a stream, with an id, is refused under its id and changes nothing,
  whatever text it is written as. So is a single request whose body can be read and is this text. -/
  overHttp : ∀ token headers text id, Authorization.accepts token headers = true →
    Request.parse text = .ok r → r.method = subscribeMethod → r.id = some id →
      Http.rpcGuarded token headers text hub =
        (.json 200 (Response.failure id ⟨-32600, Http.needsSocket.message⟩).toJson, hub) ∧
      ∀ request : HttpRequest, request.method = "POST" → Route.ofPath? request.path = some .rpc →
        request.headers = headers → request.body.length ≤ Http.bodyLimit →
        Text.Utf8.decode request.body = .ok text →
          Http.serve token request hub =
            (.json 200 (Response.failure id ⟨-32600, Http.needsSocket.message⟩).toJson, hub)

/-- On every hub, every request changes nothing or makes one commit, and which of the two it is can
be read off the request and the registry. -/
theorem dispatch_has_one_effect (hub : Hub) (r : Request) : SingleEffect hub r := by
  have hall := dispatch_inert_or_commits hub r
  constructor
  case either => exact hall.imp And.right id
  case inert =>
    intro hinert
    exact hub_dispatch_of_inert hinert
  case failed =>
    intro response hr he
    exact hub_dispatch_of_error hr he
  case commits =>
    intro hinert
    exact hall.resolve_left fun h => hinert h.1
  case overHttp =>
    intro token headers text id haccepted hparse hstream hid
    have hrefused : Http.rpcText text hub =
        (.json 200 (Response.failure id Http.needsSocket).toJson, hub) := by
      unfold Http.rpcText
      rw [hparse]
      dsimp only
      rw [dispatch_subscribe hub hid hstream]
    refine ⟨(Http.rpcGuarded_of_accepts haccepted text hub).trans hrefused, ?_⟩
    rintro request hmethod hroute rfl hlength htext
    unfold Http.serve
    rw [hroute, hmethod]
    dsimp only
    rw [Http.onRoute, Http.rpc_of_accepts hlength htext haccepted, hrefused]
    rfl

end Rpc

end LiveMap
