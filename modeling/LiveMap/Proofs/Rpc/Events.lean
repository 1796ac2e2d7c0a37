import LiveMap.Proofs.Rpc.Commands
import LiveMap.Proofs.Socket.Conversation

/-!
# Events on the streams of listeners

An event that is published is queued for every stream that has room, behind what is queued for it
already, and a stream sends what is queued for it one by one (`Announced`). It sends each event as
one notification, whose parameters are the event: its kind under `type`, and its parts under names
of their own. A part that may be missing is left out of an operation and null in what a user did
with the map, so a part that is there has to be told apart from both.

Main statement: `eq_of_alike`, by which the parameters of a notification determine the event, as
long as the numbers of the event are finite.
-/

namespace LiveMap

/-! ## Streams -/

namespace RpcSocket

variable {socket : RpcSocket} {stream : EventStream} {hub : Hub}

/-- An open stream that is not cut off sends the event that is queued first for it, if there is
one. -/
theorem deliver_of_live (hv : hub.events.Valid) (hs : socket.stream = some stream)
    (hlive : hub.events.isSubscribed stream.subscriber = true) :
    ∃ delivered, socket.deliver hub =
      ((hub.events.queued stream.subscriber).head?.map .notification,
        ⟨some { stream with delivered }⟩,
        { hub with events := (hub.events.receive stream.subscriber).2 }) := by
  obtain ⟨hnone, -⟩ | ⟨s, hsome, hend, -⟩ | ⟨s, delivered, hsome, -, hdeliver, -⟩ :=
    (⟨socket, hub, true⟩ : Conversation).deliver_cases
  · cases hs.symm.trans hnone
  · cases hs.symm.trans hsome
    have hcut := (hv.cut_of_receive_ended hend).2
    cases hlive.symm.trans hcut
  · cases hs.symm.trans hsome
    rw [Channel.item?_receive] at hdeliver
    exact ⟨delivered, hdeliver⟩

/-- An open stream that is not cut off sends what is queued for it, in order, up to the limit. -/
theorem deliverUpTo_of_live (limit : Nat) :
    ∀ (socket : RpcSocket) (stream : EventStream) (hub : Hub), hub.events.Valid →
      socket.stream = some stream → hub.events.isSubscribed stream.subscriber = true →
      (deliverUpTo limit socket hub).1 =
        ((hub.events.queued stream.subscriber).take limit).map .notification := by
  induction limit with
  | zero => exact fun _ _ _ _ _ _ => rfl
  | succ limit ih =>
    intro socket stream hub hv hs hlive
    obtain ⟨delivered, hdeliver⟩ := deliver_of_live hv hs hlive
    have hafter := hub.events.queued_receive_self stream.subscriber
    rw [deliverUpTo, hdeliver]
    cases hq : hub.events.queued stream.subscriber with
    | nil => rfl
    | cons event queue =>
      have hrest := ih ⟨some { stream with delivered }⟩ { stream with delivered }
        { hub with events := (hub.events.receive stream.subscriber).2 }
        (hv.receive stream.subscriber) rfl
        ((hub.events.isSubscribed_receive _ _).trans hlive)
      rw [hafter, hq] at hrest
      exact congrArg (RpcMessage.notification event :: ·) hrest

/-- An open stream that is not cut off sends all that is queued for it, in order. -/
theorem deliverAll_of_live (hv : hub.events.Valid) (hs : socket.stream = some stream)
    (hlive : hub.events.isSubscribed stream.subscriber = true) :
    (socket.deliverAll hub).1 = (hub.events.queued stream.subscriber).map .notification := by
  have hlength := hv.length_queued_le stream.subscriber
  rw [deliverAll, deliverUpTo_of_live _ socket stream hub hv hs hlive,
    List.take_of_length_le (Nat.le_succ_of_le hlength)]

end RpcSocket

/-- What comes of an event on the hub that it is published on. -/
structure Announced (hub hub' : Hub) (event : MapEvent) : Prop where
  /-- It is published on the channel of events, once. -/
  published : hub'.events = (hub.events.publish event).2
  /-- Every open stream that has room sends it, after what is queued for it before. -/
  sent : hub.events.Valid → ∀ (socket : RpcSocket) (stream : EventStream),
    socket.stream = some stream → hub.events.isSubscribed stream.subscriber = true →
    (hub.events.queued stream.subscriber).length < hub.events.capacity →
      (socket.deliverAll hub').1 =
        (hub.events.queued stream.subscriber ++ [event]).map .notification
  /-- It is sent as a notification whose parameters are the event. -/
  sentAs : (RpcMessage.notification event).toJson =
    .obj [("jsonrpc", .str "2.0"), ("method", .str "notifications/map.event"),
      ("params", event.toJson)]

/-- An event that is published on the channel of events is announced. -/
theorem announced_of_publish {hub hub' : Hub} {event : MapEvent}
    (h : hub'.events = (hub.events.publish event).2) : Announced hub hub' event where
  published := h
  sent := by
    intro hv socket stream hs hlive hroom
    have hv' : hub'.events.Valid := by
      rw [h]
      exact hv.publish event
    have hlive' : hub'.events.isSubscribed stream.subscriber = true := by
      rw [h]
      exact (hv.isSubscribed_publish event _).2 ⟨hlive, hroom⟩
    have hqueued : hub'.events.queued stream.subscriber =
        hub.events.queued stream.subscriber ++ [event] := by
      rw [h, hv.queued_publish_of_live event hlive, if_neg (Nat.ne_of_lt hroom)]
    rw [RpcSocket.deliverAll_of_live hv' hs hlive', hqueued]
  sentAs := rfl

/-! ## Parameters -/

/-- Whether both numbers of a position are finite. -/
def LatLng.IsFinite (p : LatLng Float) : Prop := p.lat.isFinite = true ∧ p.lng.isFinite = true

/-- Whether all numbers of an event are finite. -/
def MapEvent.IsFinite : MapEvent → Prop
  | markerOp e => ∀ p, e.position = some p → p.IsFinite
  | marker e => e.position.IsFinite
  | map e => e.center.IsFinite ∧ e.zoom.isFinite = true ∧ ∀ p, e.position = some p → p.IsFinite

/-- A finite double is sent as no other double is. -/
theorem Json.ofFloat_inj {x y : Float} (hx : x.isFinite = true)
    (h : Json.ofFloat x = Json.ofFloat y) : x = y := by
  rw [Json.ofFloat_of_isFinite hx] at h
  unfold Json.ofFloat at h
  split at h
  · injection h with h
    injection h
  · cases h

/-- A finite position is sent as no other position is. -/
theorem LatLng.toJson_inj {p q : LatLng Float} (hp : p.IsFinite) (h : p.toJson = q.toJson) :
    p = q := by
  obtain ⟨lat, lng⟩ := p
  obtain ⟨lat', lng'⟩ := q
  injection h with h
  injection h with hlat h
  injection h with hlng
  obtain rfl : lat = lat' := Json.ofFloat_inj hp.1 hlat
  obtain rfl : lng = lng' := Json.ofFloat_inj hp.2 hlng
  rfl

/-- A finite position that may be missing is left out exactly if it is missing. -/
theorem LatLng.map_toJson_inj {o o' : Option (LatLng Float)} (ho : ∀ p, o = some p → p.IsFinite)
    (h : o.map LatLng.toJson = o'.map LatLng.toJson) : o = o' := by
  cases o with
  | none =>
    cases o' with
    | none => rfl
    | some q => cases h
  | some p =>
    cases o' with
    | none => cases h
    | some q => exact congrArg some (LatLng.toJson_inj (ho p rfl) (Option.some.inj h))

/-- No position is null. -/
theorem LatLng.map_toJson_eq_of_getD {o o' : Option (LatLng Float)}
    (h : (o.map LatLng.toJson).getD .null = (o'.map LatLng.toJson).getD .null) :
    o.map LatLng.toJson = o'.map LatLng.toJson := by
  cases o with
  | none =>
    cases o' with
    | none => rfl
    | some q => cases h
  | some p =>
    cases o' with
    | none => cases h
    | some q => exact congrArg some h

/-- The name of a kind tells the kind. -/
theorem OpKind.name_inj {k k' : OpKind} (h : k.name = k'.name) : k = k' := by
  cases k <;> cases k' <;> first | rfl | exact absurd h (by decide)

/-- Two values that have the same members, in whatever order. -/
def Json.Alike (v w : Json) : Prop := ∀ key, v.member? key = w.member? key

namespace MapEvent

/-- The kind of an event, as it is sent under `type`. -/
def type : MapEvent → String
  | markerOp _ => "marker-op"
  | marker _ => "marker-event"
  | map _ => "map-event"

/-- The kind of an event is sent under `type`. -/
theorem member?_type (e : MapEvent) : e.toJson.member? "type" = some (.str e.type) := by
  cases e <;> rfl

/-- Two texts are the same if they are sent as the same. -/
theorem str_inj {s s' : String} (h : some (Json.str s) = some (.str s')) : s = s' :=
  Json.str.inj (Option.some.inj h)

/-- The parts of an operation, each under its name; a part that is missing is left out. -/
theorem members_markerOp (e : MarkerOpEvent) :
    (markerOp e).toJson.member? "op" = some (.str e.kind.name) ∧
      (markerOp e).toJson.member? "id" = some (.str e.id) ∧
      (markerOp e).toJson.member? "name" = e.name.map .str ∧
      (markerOp e).toJson.member? "latLng" = e.position.map LatLng.toJson := by
  obtain ⟨kind, id, name, position⟩ := e
  cases name <;> cases position <;> exact ⟨rfl, rfl, rfl, rfl⟩

/-- Operations whose parameters agree are the same. -/
theorem markerOp_eq_of_alike {e e' : MarkerOpEvent} (he : (markerOp e).IsFinite)
    (h : (markerOp e).toJson.Alike (markerOp e').toJson) : e = e' := by
  obtain ⟨hop, hid, hname, hlatLng⟩ := members_markerOp e
  obtain ⟨hop', hid', hname', hlatLng'⟩ := members_markerOp e'
  rw [h] at hop hid hname hlatLng
  have hkind : e.kind = e'.kind := OpKind.name_inj (str_inj (hop.symm.trans hop'))
  have hid : e.id = e'.id := str_inj (hid.symm.trans hid')
  have hname : e.name = e'.name :=
    Option.map_injective (fun _ _ => Json.str.inj) (hname.symm.trans hname')
  have hposition : e.position = e'.position :=
    LatLng.map_toJson_inj he (hlatLng.symm.trans hlatLng')
  calc e = ⟨e.kind, e.id, e.name, e.position⟩ := rfl
    _ = ⟨e'.kind, e'.id, e'.name, e'.position⟩ := by rw [hkind, hid, hname, hposition]
    _ = e' := rfl

/-- Interactions with markers whose parameters agree are the same. -/
theorem marker_eq_of_alike {e e' : MarkerInteraction} (he : e.position.IsFinite)
    (h : (marker e).toJson.Alike (marker e').toJson) : e = e' := by
  have hevent : e.event = e'.event := str_inj (h "event")
  have hid : e.id = e'.id := str_inj (h "id")
  have hname : e.name = e'.name := str_inj (h "name")
  have hposition : e.position = e'.position :=
    LatLng.toJson_inj he (Option.some.inj (h "latLng"))
  calc e = ⟨e.event, e.id, e.name, e.position⟩ := rfl
    _ = ⟨e'.event, e'.id, e'.name, e'.position⟩ := by rw [hevent, hid, hname, hposition]
    _ = e' := rfl

/-- Interactions with the map whose parameters agree are the same. -/
theorem map_eq_of_alike {e e' : MapInteraction} (he : (map e).IsFinite)
    (h : (map e).toJson.Alike (map e').toJson) : e = e' := by
  obtain ⟨hfcenter, hfzoom, hfposition⟩ := he
  have hevent : e.event = e'.event := str_inj (h "event")
  have hcenter : e.center = e'.center :=
    LatLng.toJson_inj hfcenter (Option.some.inj (h "center"))
  have hzoom : e.zoom = e'.zoom := Json.ofFloat_inj hfzoom (Option.some.inj (h "zoom"))
  have hposition : e.position = e'.position :=
    LatLng.map_toJson_inj hfposition
      (LatLng.map_toJson_eq_of_getD (Option.some.inj (h "latLng")))
  calc e = ⟨e.event, e.center, e.zoom, e.position⟩ := rfl
    _ = ⟨e'.event, e'.center, e'.zoom, e'.position⟩ := by rw [hevent, hcenter, hzoom, hposition]
    _ = e' := rfl

/-- Parameters that agree member by member are those of one event, provided that the numbers of
the event are finite. -/
theorem eq_of_alike {e e' : MapEvent} (he : e.IsFinite) (h : e.toJson.Alike e'.toJson) :
    e = e' := by
  have htype : e.type = e'.type := str_inj (by rw [← member?_type, ← member?_type, h])
  cases e with
  | markerOp e =>
    cases e' with
    | markerOp e' => exact congrArg markerOp (markerOp_eq_of_alike he h)
    | marker _ | map _ => simp [type] at htype
  | marker e =>
    cases e' with
    | marker e' => exact congrArg marker (marker_eq_of_alike he h)
    | markerOp _ | map _ => simp [type] at htype
  | map e =>
    cases e' with
    | map e' => exact congrArg map (map_eq_of_alike he h)
    | markerOp _ | marker _ => simp [type] at htype

end MapEvent

end LiveMap
