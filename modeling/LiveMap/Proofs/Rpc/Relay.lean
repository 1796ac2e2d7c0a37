import LiveMap.Proofs.Json.Finite
import LiveMap.Proofs.Rpc.Events
import LiveMap.Socket.View

/-!
# From the frame of a browser to the streams of listeners

A frame says what a user did by a tag and a payload (`Says`): the payload gives each field that the
tag declares, under its name or in its place. What the listeners are sent has the name of the tag
and the declared fields, each with the value that the payload gives (`FieldsRelayed`); of these only
the numbers change, which are read as doubles, and a place that is missing becomes null. The numbers
of a frame that was read are finite, so none of them is lost on the way.

Main statement: `events_are_relayed`, for every frame and every operation that commits.
-/

namespace LiveMap

open LiveMap.Json.Tree (HasFiniteNumbers valuesOf)

/-! ## What a frame says -/

/-- What may stand in a field of a payload. -/
inductive Part where
  /-- A text. -/
  | text
  /-- A number. -/
  | number
  /-- A pair of numbers. -/
  | pair
  /-- A pair of numbers, or null, or nothing. -/
  | optionalPair

namespace FrameTag

/-- The name of a kind of frames. -/
def name : FrameTag → String
  | markerEvent => "marker-event"
  | mapEvent => "map-event"

/-- The fields that a kind of frames declares. -/
def declared : FrameTag → List (String × Part)
  | markerEvent => [("event", .text), ("id", .text), ("name", .text), ("latLng", .pair)]
  | mapEvent => [("event", .text), ("center", .pair), ("zoom", .number), ("latLng", .optionalPair)]

end FrameTag

namespace BrowserFrame

/-- A frame is an array of a tag and a payload, or an object with one member for each. -/
inductive IsFrame : Json.Tree Unit → Json.Tree Unit → Json.Tree Unit → Prop
  /-- An array. -/
  | listed (tag payload : Json.Tree Unit) : IsFrame (.arr [tag, payload]) tag payload
  /-- An object. -/
  | named {members : List (Except Unit String × Json.Tree Unit)} {tag payload : Json.Tree Unit}
    (htag : valuesOf "event" members = [tag]) (hpayload : valuesOf "payload" members = [payload]) :
    IsFrame (.obj members) tag payload

/-- A tag is a text, or an object with the text as its only key and nothing under it. -/
inductive IsTag : Json.Tree Unit → String → Prop
  /-- A text. -/
  | text (name : String) : IsTag (.str (.ok name)) name
  /-- An object. -/
  | key (name : String) : IsTag (.obj [(.ok name, .null)]) name

/-- What a payload gives for fields of some names: an object gives at most one value under each
name, and an array lists the values in order and may leave out the last ones. -/
inductive Gives (names : List String) : Json.Tree Unit → List (Option (Json.Tree Unit)) → Prop
  /-- An object. -/
  | named {members : List (Except Unit String × Json.Tree Unit)}
    {given : List (Option (Json.Tree Unit))}
    (h : List.Forall₂ (fun name o => valuesOf name members = o.toList) names given) :
    Gives names (.obj members) given
  /-- An array. -/
  | listed {items : List (Json.Tree Unit)} {absent : Nat}
    (h : items.length + absent = names.length) :
    Gives names (.arr items) (items.map some ++ List.replicate absent none)

/-- What a text says as a frame: its kind, and what its payload gives for the fields that the kind
declares. -/
def Says (text : String) (kind : FrameTag) (given : List (Option (Json.Tree Unit))) : Prop :=
  ∃ t tag payload, Json.Tree.parse? text = some t ∧ IsFrame t tag payload ∧ IsTag tag kind.name ∧
    Gives (kind.declared.map Prod.fst) payload given

/-! ## What listeners are sent -/

/-- What a field is sent as, by what the payload gives for it: a text as it is, numbers as doubles,
and a place that is null or missing as null. -/
inductive IsSentAs : Part → Option (Json.Tree Unit) → Json → Prop
  /-- A text. -/
  | text (s : String) : IsSentAs .text (some (.str (.ok s))) (.str s)
  /-- A number. -/
  | number (n : Json.Number) : IsSentAs .number (some (.num (.ok n))) (.num (.float n.toFloat))
  /-- A pair of numbers. -/
  | pair (m n : Json.Number) : IsSentAs .pair (some (.arr [.num (.ok m), .num (.ok n)]))
    (.arr [.num (.float m.toFloat), .num (.float n.toFloat)])
  /-- A place that is given. -/
  | place (m n : Json.Number) : IsSentAs .optionalPair (some (.arr [.num (.ok m), .num (.ok n)]))
    (.arr [.num (.float m.toFloat), .num (.float n.toFloat)])
  /-- A place that is null. -/
  | noPlace : IsSentAs .optionalPair (some .null) .null
  /-- A place that is missing. -/
  | missing : IsSentAs .optionalPair none .null

/-- Fields as they are sent: all that are declared and no others, in order, under their names. -/
inductive FieldsRelayed :
    List (String × Part) → List (Option (Json.Tree Unit)) → List (String × Json) → Prop
  /-- No fields. -/
  | nil : FieldsRelayed [] [] []
  /-- A field and the others. -/
  | cons {name : String} {part : Part} {o : Option (Json.Tree Unit)} {v : Json}
    {declared : List (String × Part)} {given : List (Option (Json.Tree Unit))}
    {fields : List (String × Json)} (h : IsSentAs part o v)
    (hrest : FieldsRelayed declared given fields) :
    FieldsRelayed ((name, part) :: declared) (o :: given) ((name, v) :: fields)

variable {t : Json.Tree Unit}

/-- A text is sent as it is. -/
theorem isSentAs_text {s : String} (h : t.text? = some s) : IsSentAs .text (some t) (.str s) := by
  cases t with
  | str r =>
    cases r with
    | ok s' =>
      cases h
      exact .text s
    | error _ => cases h
  | null | bool | num | arr | obj => cases h

/-- A number that can be read is one. -/
theorem exists_of_number? {x : Float} (h : t.number? = some x) :
    ∃ n, t = .num (.ok n) ∧ n.toFloat = x := by
  cases t with
  | num r =>
    cases r with
    | ok n => exact ⟨n, rfl, Option.some.inj h⟩
    | error _ => cases h
  | null | bool | str | arr | obj => cases h

/-- A number of a finite tree is sent as a double. -/
theorem isSentAs_number (hf : t.HasFiniteNumbers) {x : Float} (h : t.number? = some x) :
    IsSentAs .number (some t) (Json.ofFloat x) := by
  obtain ⟨n, rfl, rfl⟩ := exists_of_number? h
  rw [Json.ofFloat_of_isFinite hf]
  exact .number n

/-- A number of a finite tree is read as a finite double. -/
theorem isFinite_of_number? (hf : t.HasFiniteNumbers) {x : Float} (h : t.number? = some x) :
    x.isFinite = true := by
  obtain ⟨n, rfl, rfl⟩ := exists_of_number? h
  exact hf

/-- A pair of a finite tree is read as a finite position, which is sent as the two numbers. -/
theorem exists_of_pair? (hf : t.HasFiniteNumbers) {p : LatLng Float} (h : t.pair? = some p) :
    p.IsFinite ∧ ∃ m n, t = .arr [.num (.ok m), .num (.ok n)] ∧
      p.toJson = .arr [.num (.float m.toFloat), .num (.float n.toFloat)] := by
  unfold Json.Tree.pair? at h
  split at h
  · obtain ⟨x, hx, h⟩ := Option.bind_eq_some_iff.1 h
    obtain ⟨y, hy, h⟩ := Option.bind_eq_some_iff.1 h
    cases h
    obtain ⟨m, rfl, rfl⟩ := exists_of_number? hx
    obtain ⟨n, rfl, rfl⟩ := exists_of_number? hy
    refine ⟨⟨hf.1, hf.2.1⟩, m, n, rfl, ?_⟩
    rw [LatLng.toJson, Json.ofFloat_of_isFinite hf.1, Json.ofFloat_of_isFinite hf.2.1]
  · cases h

/-- A pair of a finite tree is sent as a pair of doubles. -/
theorem isSentAs_pair (hf : t.HasFiniteNumbers) {p : LatLng Float} (h : t.pair? = some p) :
    IsSentAs .pair (some t) p.toJson := by
  obtain ⟨-, m, n, rfl, hp⟩ := exists_of_pair? hf h
  rw [hp]
  exact .pair m n

/-- A place of a finite tree is sent as a pair of doubles, and one that is null or missing as null.
-/
theorem isSentAs_optionalPair {o : Option (Json.Tree Unit)}
    (hf : ∀ t, o = some t → t.HasFiniteNumbers) {p : Option (LatLng Float)}
    (h : Json.Tree.optional? Json.Tree.pair? o = some p) :
    IsSentAs .optionalPair o ((p.map LatLng.toJson).getD .null) := by
  unfold Json.Tree.optional? at h
  split at h
  · cases h
    exact .missing
  · cases h
    exact .noPlace
  · next t _ =>
    obtain ⟨q, hq, rfl⟩ := Option.map_eq_some_iff.1 h
    obtain ⟨-, m, n, rfl, hp⟩ := exists_of_pair? (hf _ rfl) hq
    rw [Option.map_some, Option.getD_some, hp]
    exact .place m n

/-- A place of a finite tree is read as a finite position, if it is given. -/
theorem isFinite_of_optionalPair {o : Option (Json.Tree Unit)}
    (hf : ∀ t, o = some t → t.HasFiniteNumbers) {p : Option (LatLng Float)}
    (h : Json.Tree.optional? Json.Tree.pair? o = some p) : ∀ q, p = some q → q.IsFinite := by
  rintro q rfl
  unfold Json.Tree.optional? at h
  split at h
  · cases h
  · cases h
  · next t _ =>
    obtain ⟨q', hq, hsome⟩ := Option.map_eq_some_iff.1 h
    cases hsome
    exact (exists_of_pair? (hf _ rfl) hq).1

/-! ## Reading a frame -/

/-- What is found for each of some names is found for all of them. -/
theorem forall₂_of_mapM {α β : Type} {f : α → Option β} {names : List α} {found : List β}
    (h : names.mapM f = some found) : List.Forall₂ (fun name o => f name = some o) names found := by
  induction names generalizing found with
  | nil =>
    cases h
    exact .nil
  | cons name names ih =>
    rw [List.mapM_cons] at h
    obtain ⟨o, ho, h⟩ := Option.bind_eq_some_iff.1 h
    obtain ⟨os, hos, h⟩ := Option.bind_eq_some_iff.1 h
    cases h
    exact .cons ho (ih hos)

/-- The fields that are read are what the payload gives. -/
theorem gives_of_fields? {names : List String} {given : List (Option (Json.Tree Unit))}
    (h : t.fields? names = some given) : Gives names t given := by
  cases t with
  | obj members =>
    unfold Json.Tree.fields? Json.Tree.namedFields? at h
    dsimp only at h
    split at h
    · refine .named ((forall₂_of_mapM h).imp fun name o ho => ?_)
      split at ho
      · next hnone =>
        cases ho
        exact hnone
      · next hone =>
        cases ho
        exact hone
      · cases ho
    · cases h
  | arr items =>
    unfold Json.Tree.fields? at h
    dsimp only at h
    split at h
    · next hlength =>
      cases h
      exact .listed (Nat.add_sub_cancel' hlength)
    · cases h
  | null | bool | num | str => cases h

/-- What is found was found for one of the names. -/
theorem exists_of_mem_found {α β : Type} {R : α → β → Prop} {names : List α} {found : List β}
    (h : List.Forall₂ R names found) {b : β} (hb : b ∈ found) : ∃ a, R a b := by
  induction h with
  | nil => cases hb
  | cons h _ ih =>
    rcases List.mem_cons.1 hb with rfl | hb
    · exact ⟨_, h⟩
    · exact ih hb

/-- A value under a name is the value of a member. -/
theorem exists_of_mem_valuesOf {members : List (Except Unit String × Json.Tree Unit)}
    {name : String} (h : t ∈ valuesOf name members) : ∃ key, (key, t) ∈ members := by
  obtain ⟨⟨key, u⟩, hm, hu⟩ := List.mem_filterMap.1 h
  dsimp only at hu
  split at hu
  · cases hu
    exact ⟨key, hm⟩
  · cases hu

/-- What a finite payload gives is finite. -/
theorem Gives.hasFiniteNumbers {names : List String} {given : List (Option (Json.Tree Unit))}
    (h : Gives names t given) (hf : t.HasFiniteNumbers) :
    ∀ u, some u ∈ given → u.HasFiniteNumbers := by
  intro u hu
  cases h with
  | @named members _ h =>
    obtain ⟨name, ho⟩ := exists_of_mem_found h hu
    have hmem : u ∈ valuesOf name members := by
      rw [ho]
      exact List.mem_singleton_self u
    obtain ⟨key, hm⟩ := exists_of_mem_valuesOf hmem
    exact Json.Tree.membersFinite_iff.1 hf _ hm
  | listed h =>
    rcases List.mem_append.1 hu with hu | hu
    · obtain ⟨item, hitem, hsome⟩ := List.mem_map.1 hu
      cases hsome
      exact Json.Tree.itemsFinite_iff.1 hf u hitem
    · cases List.eq_of_mem_replicate hu

/-- A name that is known is the name of its kind. -/
theorem name_of_ofName? {name : String} {kind : FrameTag} (h : FrameTag.ofName? name = some kind) :
    kind.name = name := by
  unfold FrameTag.ofName? at h
  split at h
  · cases h
    rfl
  · cases h
    rfl
  · cases h

/-- A text that names a kind is a tag of that name. -/
theorem isTag_of_ofText? {kind : FrameTag} (h : FrameTag.ofText? t = some kind) :
    IsTag t kind.name := by
  unfold FrameTag.ofText? at h
  split at h
  · rw [name_of_ofName? h]
    exact .text _
  · cases h

/-- A tag that names a kind is a tag of that name. -/
theorem isTag_of_ofTree? {kind : FrameTag} (h : FrameTag.ofTree? t = some kind) :
    IsTag t kind.name := by
  unfold FrameTag.ofTree? at h
  split at h
  · rw [name_of_ofName? h]
    exact .key _
  · exact isTag_of_ofText? h

/-- The values under the name of the tag or the payload are those of the members that matter. -/
theorem valuesOf_eq_of_relevant (members : List (Except Unit String × Json.Tree Unit))
    {name : String} (hname : name = "event" ∨ name = "payload") :
    valuesOf name members =
      (relevant members).filterMap fun m => if m.1 = name then some m.2 else none := by
  unfold valuesOf relevant
  rw [List.filterMap_filterMap]
  refine List.filterMap_congr fun m _ => ?_
  obtain ⟨key, u⟩ := m
  cases key with
  | error _ => rfl
  | ok key =>
    change (if some key = some name then some u else none) =
      (if (decide (key = "event") || decide (key = "payload")) = true then some (key, u)
        else none).bind _
    by_cases hkey : key = name
    · subst hkey
      rw [if_pos rfl, if_pos (by simpa using hname)]
      exact (if_pos rfl).symm
    · rw [if_neg fun h => hkey (Option.some.inj h)]
      split
      · exact (if_neg hkey).symm
      · rfl

/-- The tag and the payload of a frame. -/
theorem exists_of_ofTree? {e : MapEvent} (h : ofTree? t = some e) :
    ∃ tag payload kind, IsFrame t tag payload ∧ IsTag tag (FrameTag.name kind) ∧
      payload? kind payload = some e := by
  unfold ofTree? at h
  split at h
  · next tag payload =>
    obtain ⟨kind, hkind, h⟩ := Option.bind_eq_some_iff.1 h
    exact ⟨tag, payload, kind, .listed tag payload, isTag_of_ofText? hkind, h⟩
  · next members =>
    have htag := valuesOf_eq_of_relevant members (.inl rfl)
    have hpayload := valuesOf_eq_of_relevant members (.inr rfl)
    split at h
    · split at h
      · next tag payload hrelevant =>
        rw [hrelevant] at htag hpayload
        obtain ⟨kind, hkind, h⟩ := Option.bind_eq_some_iff.1 h
        exact ⟨tag, payload, kind, .named htag hpayload, isTag_of_ofTree? hkind, h⟩
      · next payload tag hrelevant =>
        rw [hrelevant] at htag hpayload
        obtain ⟨-, -, h⟩ := Option.bind_eq_some_iff.1 h
        obtain ⟨kind, hkind, h⟩ := Option.bind_eq_some_iff.1 h
        exact ⟨tag, payload, kind, .named htag hpayload, isTag_of_ofTree? hkind, h⟩
      · cases h
    · cases h
  · cases h

/-- The payload of a finite frame is finite. -/
theorem IsFrame.hasFiniteNumbers {tag payload : Json.Tree Unit} (h : IsFrame t tag payload)
    (hf : t.HasFiniteNumbers) : payload.HasFiniteNumbers := by
  cases h with
  | listed => exact hf.2.1
  | @named members _ _ _ hpayload =>
    have hmem : payload ∈ valuesOf "payload" members := by
      rw [hpayload]
      exact List.mem_singleton_self payload
    obtain ⟨key, hm⟩ := exists_of_mem_valuesOf hmem
    exact Json.Tree.membersFinite_iff.1 hf _ hm

/-- Whether an event is what a payload of some kind says: its numbers are finite, and it is sent
with the fields that the payload gives. -/
def IsSaidBy (kind : FrameTag) (payload : Json.Tree Unit) (event : MapEvent) : Prop :=
  event.IsFinite ∧ ∃ given fields, Gives (kind.declared.map Prod.fst) payload given ∧
    FieldsRelayed kind.declared given fields ∧
    event.toJson = .obj (("type", .str kind.name) :: fields)

/-- What a user did with a marker is what the payload says. -/
theorem isSaidBy_of_markerEvent? {e : MarkerInteraction} (hf : t.HasFiniteNumbers)
    (h : markerEvent? t = some e) : IsSaidBy .markerEvent t (.marker e) := by
  obtain ⟨given, hgiven, h⟩ := Option.bind_eq_some_iff.1 h
  have hgives := gives_of_fields? hgiven
  split at h
  · next event id name latLng =>
    obtain ⟨_, hevent, h⟩ := Option.bind_eq_some_iff.1 h
    obtain ⟨_, hid, h⟩ := Option.bind_eq_some_iff.1 h
    obtain ⟨_, hname, h⟩ := Option.bind_eq_some_iff.1 h
    obtain ⟨_, hposition, h⟩ := Option.bind_eq_some_iff.1 h
    cases h
    have hflatLng : latLng.HasFiniteNumbers := hgives.hasFiniteNumbers hf _ (by simp)
    refine ⟨(exists_of_pair? hflatLng hposition).1, _, _, hgives, ?_, rfl⟩
    refine .cons (isSentAs_text hevent) (.cons (isSentAs_text hid) ?_)
    exact .cons (isSentAs_text hname) (.cons (isSentAs_pair hflatLng hposition) .nil)
  · cases h

/-- What a user did with the map is what the payload says. -/
theorem isSaidBy_of_mapEvent? {e : MapInteraction} (hf : t.HasFiniteNumbers)
    (h : mapEvent? t = some e) : IsSaidBy .mapEvent t (.map e) := by
  obtain ⟨given, hgiven, h⟩ := Option.bind_eq_some_iff.1 h
  have hgives := gives_of_fields? hgiven
  split at h
  · next event center zoom latLng =>
    obtain ⟨_, hevent, h⟩ := Option.bind_eq_some_iff.1 h
    obtain ⟨_, hcenter, h⟩ := Option.bind_eq_some_iff.1 h
    obtain ⟨_, hzoom, h⟩ := Option.bind_eq_some_iff.1 h
    obtain ⟨_, hposition, h⟩ := Option.bind_eq_some_iff.1 h
    cases h
    have hfcenter : center.HasFiniteNumbers := hgives.hasFiniteNumbers hf _ (by simp)
    have hfzoom : zoom.HasFiniteNumbers := hgives.hasFiniteNumbers hf _ (by simp)
    -- The place may be missing, and then there is nothing to be finite.
    have hflatLng : ∀ u, latLng = some u → u.HasFiniteNumbers :=
      fun u hu => hgives.hasFiniteNumbers hf u (by simp [hu])
    refine ⟨⟨(exists_of_pair? hfcenter hcenter).1, isFinite_of_number? hfzoom hzoom,
      isFinite_of_optionalPair hflatLng hposition⟩, _, _, hgives, ?_, rfl⟩
    refine .cons (isSentAs_text hevent) (.cons (isSentAs_pair hfcenter hcenter) ?_)
    refine .cons (isSentAs_number hfzoom hzoom) (.cons ?_ .nil)
    exact isSentAs_optionalPair hflatLng hposition
  · cases h

/-- What a user did is what the payload says. -/
theorem isSaidBy_of_payload? {kind : FrameTag} {event : MapEvent} (hf : t.HasFiniteNumbers)
    (h : payload? kind t = some event) : IsSaidBy kind t event := by
  cases kind with
  | markerEvent =>
    obtain ⟨e, he, rfl⟩ := Option.map_eq_some_iff.1 h
    exact isSaidBy_of_markerEvent? hf he
  | mapEvent =>
    obtain ⟨e, he, rfl⟩ := Option.map_eq_some_iff.1 h
    exact isSaidBy_of_mapEvent? hf he

/-- What listeners are sent for a frame are the fields that it says, and no number of them is
lost. -/
theorem exists_of_parse? {text : String} {event : MapEvent} (h : parse? text = some event) :
    event.IsFinite ∧ ∃ kind given fields, Says text kind given ∧
      FieldsRelayed kind.declared given fields ∧
      event.toJson = .obj (("type", .str kind.name) :: fields) := by
  obtain ⟨t, ht, h⟩ := Option.bind_eq_some_iff.1 h
  obtain ⟨tag, payload, kind, hframe, htag, h⟩ := exists_of_ofTree? h
  have hf := hframe.hasFiniteNumbers (Json.hasFiniteNumbers_of_parse? ht)
  obtain ⟨hfinite, given, fields, hgives, hfields, hjson⟩ := isSaidBy_of_payload? hf h
  exact ⟨hfinite, kind, given, fields, ⟨t, tag, payload, ht, hframe, htag, hgives⟩, hfields, hjson⟩

-- No place is given here.
example : (parse? "[\"map-event\",[\"drag\",[1,-2.5],3]]").map
    (fun event => event.toJson.member? "latLng" == some .null) = some true := by decide +kernel

end BrowserFrame

/-! ## The way of an event -/

/-- The socket of an open view publishes what a frame says, and does nothing else. -/
theorem ViewSocket.receiveText_of_parse? {ρ : Type} {socket : ViewSocket ρ} {hub : Hub}
    {text : String} {event : MapEvent} (hopen : socket.session.phase ≠ .closed)
    (h : BrowserFrame.parse? text = some event) :
    socket.receiveText text hub = (.stay, socket, (hub.publishEvent event).2) := by
  unfold receiveText
  rw [h]
  dsimp only
  rw [Session.forward, if_neg hopen]

/-- What listeners are sent for an operation: its kind, the marker, and, unless the marker is gone,
its name and its position. -/
def MarkerOp.params : MarkerOp → Json
  | add id name position =>
    .obj [("type", .str "marker-op"), ("op", .str "add"), ("id", .str id), ("name", .str name),
      ("latLng", position.toJson)]
  | update id name position =>
    .obj [("type", .str "marker-op"), ("op", .str "update"), ("id", .str id), ("name", .str name),
      ("latLng", position.toJson)]
  | delete id => .obj [("type", .str "marker-op"), ("op", .str "delete"), ("id", .str id)]

/-- The event of an operation is sent as its parameters. -/
theorem MarkerOp.toJson_ofOp (op : MarkerOp) :
    (MapEvent.markerOp (.ofOp op)).toJson = op.params := by
  cases op <;> rfl

/-- An operation that commits is announced. -/
theorem Hub.announced_of_perform {hub hub' : Hub} {mutation : Mutation} {op : MarkerOp}
    (h : hub.perform mutation = (some op, hub')) : Announced hub hub' (.markerOp (.ofOp op)) := by
  refine announced_of_publish ?_
  unfold Hub.perform at h
  split at h
  · cases h
  · cases h
    rfl

/-- How the listeners are told what happens on the map. -/
structure RelaysEvents (ρ : Type) : Prop where
  /-- A frame that can be read is announced by every open view, as the event that has the fields of
  its payload and no others. -/
  frame : ∀ (text : String) (event : MapEvent), BrowserFrame.parse? text = some event →
    (∃ kind given fields, BrowserFrame.Says text kind given ∧
      BrowserFrame.FieldsRelayed kind.declared given fields ∧
      event.toJson = .obj (("type", .str kind.name) :: fields)) ∧
    ∀ (socket : ViewSocket ρ) (hub : Hub), socket.session.phase ≠ .closed →
      ∃ hub', socket.receiveText text hub = (.stay, socket, hub') ∧ Announced hub hub' event
  /-- An operation that commits is announced, as the event that has its parts and no others. -/
  operation : ∀ (hub hub' : Hub) (mutation : Mutation) (op : MarkerOp),
    hub.perform mutation = (some op, hub') → Announced hub hub' (.markerOp (.ofOp op)) ∧
      (MapEvent.markerOp (.ofOp op)).toJson = op.params
  /-- The numbers of a frame are finite. -/
  finite : ∀ (text : String) (event : MapEvent), BrowserFrame.parse? text = some event →
    event.IsFinite
  /-- Parameters with the same members are those of one event, if its numbers are finite. -/
  distinct : ∀ event event' : MapEvent, event.IsFinite →
    event.toJson.Alike event'.toJson → event = event'

/-- On every hub, what users do in their browsers and what changes among the markers reaches the
listeners as it is, and no two events look the same to them. -/
theorem events_are_relayed (ρ : Type) : RelaysEvents ρ where
  frame := by
    intro text event h
    refine ⟨(BrowserFrame.exists_of_parse? h).2, fun socket hub hopen => ?_⟩
    exact ⟨_, ViewSocket.receiveText_of_parse? hopen h, announced_of_publish rfl⟩
  operation _ _ _ op h := ⟨Hub.announced_of_perform h, op.toJson_ofOp⟩
  finite _ _ h := (BrowserFrame.exists_of_parse? h).1
  distinct _ _ := MapEvent.eq_of_alike

end LiveMap
