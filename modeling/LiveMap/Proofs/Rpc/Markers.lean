import LiveMap.Proofs.Rpc.Dispatch
import LiveMap.Proofs.Text.ByteOrder

/-!
# The markers that requests leave behind

Three methods change the markers. A request that names one of them, with parameters that can be
read, spells out an operation (`Request.edit?`), and what the registry shows changes as this
operation says (`chart_dispatch`); no other request changes it. So after some requests the registry
shows what their operations show in turn, whatever order it keeps its entries in (`Serves.chart`).
A listing is in ascending order of the ids and is therefore determined by what is shown.

Main statement: `listing_refines_history`, for all requests to a new hub.
-/

namespace LiveMap

/-- The mutation that an operation asks for. The name of an update plays no part. -/
def MarkerOp.mutation : MarkerOp → Mutation
  | add id name position => .add ⟨id, name, position, none⟩
  | update id _ position => .update id position
  | delete id => .delete id

namespace Rpc

open Registry (listing)

/-- The operation that a request spells out, if it names one of the methods that change markers and
its parameters can be read. -/
def Request.edit? (r : Request) : Option MarkerOp :=
  if r.method = "markers.add" then
    match readParams markerShape r.params with
    | .ok (id, name, position, _) => some (.add id name position)
    | .error _ => none
  else if r.method = "markers.update" then
    match readParams markerShape r.params with
    | .ok (id, name, position, _) => some (.update id name position)
    | .error _ => none
  else if r.method = "markers.delete" then
    match readParams markerIdShape r.params with
    | .ok (id, _) => some (.delete id)
    | .error _ => none
  else none

/-- The operations that some requests spell out, in order. -/
def edits (requests : List Request) : List MarkerOp := requests.filterMap Request.edit?

/-- A marker as it is listed. -/
def listedJson (e : String × Pin) : Json :=
  .obj [("id", .str e.1),
    ("latLng", .arr [.ofFloat e.2.position.lat, .ofFloat e.2.position.lng]),
    ("name", .str e.2.name)]

/-- A hub serves some requests in turn, and ends as another hub. At any moment the registry may keep
its entries in another order. -/
inductive Serves : Hub → List Request → Hub → Prop where
  /-- All requests are served. -/
  | done (hub : Hub) : Serves hub [] hub
  /-- The next request is dispatched. -/
  | next {hub final : Hub} (r : Request) {rest : List Request} :
    Serves (dispatch hub r).2 rest final → Serves hub (r :: rest) final
  /-- The registry reorders its entries. -/
  | reorder {hub final : Hub} {requests : List Request} (registry : Registry) :
    hub.registry.entries.Perm registry.entries →
    Serves { hub with registry } requests final → Serves hub requests final

/-! ## One request -/

/-- The mutation that an action consists in, if it does. -/
def Action.mutation? : Action → Option Mutation
  | mutate mutation => some mutation
  | list | issue _ => none

/-- A unary method that changes no marker asks for no mutation. -/
theorem mutation?_of_method {method : UnaryMethod} (params : Json)
    (h : method ∉ [.markersAdd, .markersUpdate, .markersDelete]) :
    (method.action params).toOption.bind Action.mutation? = none := by
  cases method with
  | markersAdd | markersUpdate | markersDelete => exact absurd (by decide) h
  | markersList | mapResetView => rfl
  | mapSetView | mapFlyTo =>
    rw [UnaryMethod.action]
    cases readParams viewShape params <;> rfl
  | mapFitBounds | mapFlyToBounds =>
    rw [UnaryMethod.action]
    cases readParams boundsShape params <;> rfl
  | mapSetZoom =>
    rw [UnaryMethod.action]
    cases readParams zoomShape params <;> rfl
  | mapHighlightMarker =>
    rw [UnaryMethod.action]
    cases readParams markerIdShape params <;> rfl

/-- A request that spells out an operation asks for its mutation, and no other request asks for
one. -/
theorem Request.mutation?_eq (r : Request) :
    r.action?.bind Action.mutation? = r.edit?.map MarkerOp.mutation := by
  rw [action?, edit?]
  by_cases hadd : r.method = "markers.add"
  · have hlookup : lookup r.method = some (.unary .markersAdd) := by rw [hadd]; rfl
    rw [if_pos hadd, hlookup]
    dsimp only
    rw [UnaryMethod.action]
    cases readParams markerShape r.params <;> rfl
  by_cases hupdate : r.method = "markers.update"
  · have hlookup : lookup r.method = some (.unary .markersUpdate) := by rw [hupdate]; rfl
    rw [if_neg hadd, if_pos hupdate, hlookup]
    dsimp only
    rw [UnaryMethod.action]
    cases readParams markerShape r.params <;> rfl
  by_cases hdelete : r.method = "markers.delete"
  · have hlookup : lookup r.method = some (.unary .markersDelete) := by rw [hdelete]; rfl
    rw [if_neg hadd, if_neg hupdate, if_pos hdelete, hlookup]
    dsimp only
    rw [UnaryMethod.action]
    cases readParams markerIdShape r.params <;> rfl
  rw [if_neg hadd, if_neg hupdate, if_neg hdelete, Option.map_none]
  cases hlookup : lookup r.method with
  | none => rfl
  | some handler =>
    cases handler with
    | eventStream => rfl
    | unary method =>
      -- The table has no other name for the methods that change markers.
      have hmem := Keyed.mem_of_find?_eq_some hlookup
      refine mutation?_of_method r.params fun hmethod => ?_
      simp only [List.mem_cons, List.not_mem_nil, or_false] at hmethod
      rcases hmethod with rfl | rfl | rfl
      · exact hadd (by simpa [methodTable] using hmem)
      · exact hupdate (by simpa [methodTable] using hmem)
      · exact hdelete (by simpa [methodTable] using hmem)

/-- The mutation of an operation changes what a valid registry shows as the operation says. -/
theorem chart_commit_mutation {r : Registry} (hv : r.Valid) (op : MarkerOp) :
    (r.commit op.mutation).2.chart = r.chart.apply op := by
  rw [hv.chart_commit, hv.commit_fst]
  -- An update and a removal yield nothing under an absent id, and then change nothing.
  have habsent : ∀ id, r.find? id = none → Function.update r.chart id none = r.chart := by
    intro id hnone
    rw [Function.update_eq_self_iff, Registry.chart, hnone, Option.map_none]
  cases op with
  | add id name position => rfl
  | update id name position =>
    rw [MarkerOp.mutation, Mutation.outcome, Chart.apply]
    cases hm : r.find? id with
    | none =>
      have hshown : r.chart id = none := by rw [Registry.chart, hm, Option.map_none]
      rw [hshown]
      exact (habsent id hm).symm
    | some m => rfl
  | delete id =>
    rw [MarkerOp.mutation, Mutation.outcome, Chart.apply]
    cases hm : r.find? id with
    | none => exact (habsent id hm).symm
    | some m => rfl

/-- A request leaves a registry valid, and changes what it shows as the operation says that the
request spells out. -/
theorem chart_dispatch {hub : Hub} (hv : hub.registry.Valid) (r : Request) :
    (dispatch hub r).2.registry.Valid ∧
      (dispatch hub r).2.registry.chart = hub.registry.chart.replay r.edit?.toList := by
  have hmutation := r.mutation?_eq
  rw [registry_dispatch]
  cases hedit : r.edit? with
  | none =>
    rw [hedit, Option.map_none] at hmutation
    cases haction : r.action? with
    | none => exact ⟨hv, rfl⟩
    | some action =>
      rw [haction] at hmutation
      cases action with
      | mutate mutation => cases hmutation
      | list | issue command => exact ⟨hv, rfl⟩
  | some op =>
    rw [hedit, Option.map_some] at hmutation
    obtain ⟨action, haction, hm⟩ := Option.bind_eq_some_iff.1 hmutation
    cases action with
    | mutate mutation =>
      cases hm
      rw [haction]
      exact ⟨hv.commit _, chart_commit_mutation hv op⟩
    | list | issue command => cases hm

/-! ## All requests -/

/-- After some requests the registry is valid, and shows what their operations show in turn. -/
theorem Serves.chart {hub final : Hub} {requests : List Request} (h : Serves hub requests final)
    (hv : hub.registry.Valid) :
    final.registry.Valid ∧ final.registry.chart = hub.registry.chart.replay (edits requests) := by
  -- By induction on the way the requests are served; what is shown is replayed from the first hub.
  induction h with
  | done hub => exact ⟨hv, rfl⟩
  | @next hub final r rest _ ih =>
    obtain ⟨hvalid, hchart⟩ := chart_dispatch hv r
    obtain ⟨hlast, hshown⟩ := ih hvalid
    refine ⟨hlast, ?_⟩
    have hsplit : edits (r :: rest) = r.edit?.toList ++ edits rest := by
      rw [edits, List.filterMap_cons]
      cases r.edit? <;> rfl
    rw [hshown, hchart, hsplit, Chart.replay_append]
  | @reorder hub final requests registry hp _ ih =>
    -- Neither validity nor what is shown depends on the order.
    obtain ⟨hlast, hshown⟩ := ih (hv.of_perm hp)
    exact ⟨hlast, by rw [hshown, hv.chart_of_perm hp]⟩

/-- A hub serves all requests by dispatching one after the other. -/
theorem serves_foldl (hub : Hub) (requests : List Request) :
    Serves hub requests (requests.foldl (fun hub r => (dispatch hub r).2) hub) := by
  induction requests generalizing hub with
  | nil => exact .done hub
  | cons r rest ih => exact .next r (ih _)

/-! ## Listings -/

/-- The value of a number is in order. -/
theorem canonical_ofFloat (x : Float) : (Json.ofFloat x).canonical = .ofFloat x := by
  rw [Json.ofFloat]
  split <;> rfl

/-- A marker is listed with its members in order. -/
theorem canonical_marker (m : Marker Float) : m.toJson.canonical = listedJson (m.id, m.pin) := by
  rw [Marker.toJson, LatLng.toJson]
  simp only [Json.canonical, Json.canonicalMembers, Json.canonicalItems, canonical_ofFloat]
  rfl

/-- The result of a listing, in full. -/
theorem markerListing_eq (r : Registry) :
    markerListing r = .obj [("markers", .arr ((listing r).map listedJson))] := by
  have hitems : ∀ markers : List (Marker Float),
      Json.canonicalItems (markers.map Marker.toJson) =
        (markers.map fun m => (m.id, m.pin)).map listedJson := by
    intro markers
    induction markers with
    | nil => rfl
    | cons m rest ih =>
      rw [List.map_cons, Json.canonicalItems, canonical_marker, ih, List.map_cons, List.map_cons]
  rw [markerListing, Json.canonical, Json.canonicalMembers, Json.canonical, hitems]
  rfl

/-- Two lists with ascending keys and the same entries are equal. -/
theorem eq_of_ascending {β : Type} {l l' : List (String × β)}
    (h : l.Pairwise fun a b => a.1 < b.1) (h' : l'.Pairwise fun a b => a.1 < b.1)
    (hmem : ∀ e, e ∈ l ↔ e ∈ l') : l = l' := by
  have hnodup : ∀ l : List (String × β), (l.Pairwise fun a b => a.1 < b.1) → l.Nodup := by
    intro l h
    refine h.imp fun {a b} hlt => ?_
    rintro rfl
    exact String.lt_irrefl _ hlt
  -- As sets they are equal, and only one order ascends.
  have hperm : l.Perm l' := (List.perm_ext_iff_of_nodup (hnodup l h) (hnodup l' h')).2 hmem
  refine hperm.eq_of_pairwise (fun a b _ _ hab hba => ?_) h h'
  exact absurd hba (String.lt_asymm hab)

/-- Two listings that show the same are equal. -/
theorem listing_ext {r r' : Registry} (hv : r.Valid) (hv' : r'.Valid) (h : r.chart = r'.chart) :
    listing r = listing r' := by
  refine eq_of_ascending hv.listing_ascends hv'.listing_ascends ?_
  rintro ⟨id, pin⟩
  rw [hv.mem_listing_iff, hv'.mem_listing_iff, h]

/-- The listed names with their ids. -/
def names (r : Registry) : List (String × String) := (listing r).map fun e => (e.1, e.2.name)

/-- A name is listed if it is shown. -/
theorem mem_names_iff {r : Registry} (hv : r.Valid) {id name : String} :
    (id, name) ∈ names r ↔ (r.chart id).map Pin.name = some name := by
  rw [names, List.mem_map, Option.map_eq_some_iff]
  constructor
  · rintro ⟨⟨i, pin⟩, hmem, heq⟩
    cases heq
    exact ⟨pin, hv.mem_listing_iff.1 hmem, rfl⟩
  · rintro ⟨pin, hshown, rfl⟩
    exact ⟨(id, pin), hv.mem_listing_iff.2 hshown, rfl⟩

/-- Two registries that show the same names list the same names. -/
theorem names_ext {r r' : Registry} (hv : r.Valid) (hv' : r'.Valid)
    (h : ∀ id, (r.chart id).map Pin.name = (r'.chart id).map Pin.name) : names r = names r' := by
  refine eq_of_ascending (List.pairwise_map.2 hv.listing_ascends)
    (List.pairwise_map.2 hv'.listing_ascends) ?_
  rintro ⟨id, name⟩
  rw [mem_names_iff hv, mem_names_iff hv', h]

/-- A request for the listing is answered with it, and changes nothing. -/
theorem dispatch_list (hub : Hub) (jsonrpc : Option String) (id params : Json) :
    dispatch hub ⟨jsonrpc, some id, "markers.list", params⟩ =
      (.reply (.success id (.obj [("markers", .arr ((listing hub.registry).map listedJson))])),
        hub) := by
  have hlookup : lookup "markers.list" = some (.unary .markersList) := rfl
  rw [dispatch_unary hub rfl hlookup, ← markerListing_eq]
  rfl

/-- A request for a change is successful exactly if it spells out an operation, and fails on its
parameters otherwise. -/
theorem dispatch_edit (hub : Hub) {r : Request} {id : Json} (hid : r.id = some id)
    (hm : r.method = "markers.add" ∨ r.method = "markers.update" ∨ r.method = "markers.delete") :
    (r.edit?.isSome = true ∧ (dispatch hub r).1 = .reply (.success id okResult)) ∨
    (r.edit? = none ∧ ∃ message, (dispatch hub r).1 = .reply (.failure id ⟨-32602, message⟩)) := by
  rcases hm with hm | hm | hm
  · have hlookup : lookup r.method = some (.unary .markersAdd) := by rw [hm]; rfl
    rw [dispatch_unary hub hid hlookup, Request.edit?, if_pos hm, UnaryMethod.call,
      UnaryMethod.action]
    cases readParams markerShape r.params with
    | ok values => exact Or.inl ⟨rfl, rfl⟩
    | error fault => exact Or.inr ⟨rfl, _, rfl⟩
  · have hlookup : lookup r.method = some (.unary .markersUpdate) := by rw [hm]; rfl
    have hother : r.method ≠ "markers.add" := by rw [hm]; decide
    rw [dispatch_unary hub hid hlookup, Request.edit?, if_neg hother, if_pos hm, UnaryMethod.call,
      UnaryMethod.action]
    cases readParams markerShape r.params with
    | ok values => exact Or.inl ⟨rfl, rfl⟩
    | error fault => exact Or.inr ⟨rfl, _, rfl⟩
  · have hlookup : lookup r.method = some (.unary .markersDelete) := by rw [hm]; rfl
    have hadd : r.method ≠ "markers.add" := by rw [hm]; decide
    have hupdate : r.method ≠ "markers.update" := by rw [hm]; decide
    rw [dispatch_unary hub hid hlookup, Request.edit?, if_neg hadd, if_neg hupdate, if_pos hm,
      UnaryMethod.call, UnaryMethod.action]
    cases readParams markerIdShape r.params with
    | ok values => exact Or.inl ⟨rfl, rfl⟩
    | error fault => exact Or.inr ⟨rfl, _, rfl⟩

/-- An update changes no name and lists no new id, and under an absent id it changes nothing. -/
theorem dispatch_update {hub : Hub} (hv : hub.registry.Valid) {r : Request} {id name : String}
    {position : LatLng Float} (h : r.edit? = some (.update id name position)) :
    names (dispatch hub r).2.registry = names hub.registry ∧
      (id ∉ (listing hub.registry).map Prod.fst →
        listing (dispatch hub r).2.registry = listing hub.registry) := by
  obtain ⟨hv', hchart⟩ := chart_dispatch hv r
  rw [h] at hchart
  have hafter : (dispatch hub r).2.registry.chart = Function.update hub.registry.chart id
      ((hub.registry.chart id).map ({ · with position })) := hchart
  constructor
  · refine names_ext hv' hv fun j => ?_
    rw [hafter]
    by_cases hj : j = id
    · rw [hj, Function.update_self, Option.map_map]
      rfl
    · rw [Function.update_of_ne hj]
  · intro habsent
    -- An id that is not listed is not shown.
    have hnone : hub.registry.chart id = none := by
      by_contra hshown
      obtain ⟨pin, hpin⟩ := Option.ne_none_iff_exists'.1 hshown
      exact habsent (List.mem_map.2 ⟨(id, pin), hv.mem_listing_iff.2 hpin, rfl⟩)
    refine listing_ext hv' hv ?_
    rw [hafter, hnone]
    exact Function.update_eq_self_iff.2 hnone.symm

/-! ## The listing as a history -/

/-- What a hub lists after some requests. -/
structure Listed (requests : List Request) (hub : Hub) : Prop where
  /-- The registry shows what the operations show that the requests spell out. -/
  shown : hub.registry.chart = Chart.empty.replay (edits requests)
  /-- A request for the listing is answered with it, whatever its parameters. -/
  reply : ∀ jsonrpc id params, dispatch hub ⟨jsonrpc, some id, "markers.list", params⟩ =
    (.reply (.success id (.obj [("markers", .arr ((listing hub.registry).map listedJson))])), hub)
  /-- The UTF-8 forms of the ids ascend, so each id is listed once. -/
  ascending : (listing hub.registry).Pairwise fun a b => Text.bytes a.1 < Text.bytes b.1
  /-- An id is listed exactly if it was added and not removed since, under the name with which it
  was added last, at the place where it was put last. -/
  exact : ∀ id pin, (id, pin) ∈ listing hub.registry ↔ Chart.LastAdded (edits requests) id pin

/-- How the listing depends on the requests that a hub has served. -/
structure ListingRefinement (start : Hub) (requests : List Request) : Prop where
  /-- The listing is what the history of the requests says, whatever order the entries are in. -/
  listed : ∀ final, Serves start requests final → Listed requests final
  /-- Dispatching the requests one after the other is one way to serve them. -/
  dispatched : Serves start requests (requests.foldl (fun hub r => (dispatch hub r).2) start)
  /-- The order of the entries plays no part in the answer. -/
  canonical : ∀ final final', Serves start requests final → Serves start requests final' →
    ∀ jsonrpc id params, (dispatch final ⟨jsonrpc, id, "markers.list", params⟩).1 =
      (dispatch final' ⟨jsonrpc, id, "markers.list", params⟩).1
  /-- The requests that count are the successful ones. -/
  successful : ∀ final r id, Serves start requests final → r.id = some id →
    r.method = "markers.add" ∨ r.method = "markers.update" ∨ r.method = "markers.delete" →
      (r.edit?.isSome = true ∧
        (dispatch final r).1 = .reply (.success id (.obj [("ok", .bool true)]))) ∨
      (r.edit? = none ∧
        ∃ message, (dispatch final r).1 = .reply (.failure id ⟨-32602, message⟩))
  /-- An update changes no name and lists no new id, and under an absent id it changes nothing. -/
  updates : ∀ final r id name position, Serves start requests final →
    r.edit? = some (.update id name position) →
      names (dispatch final r).2.registry = names final.registry ∧
      (id ∉ (listing final.registry).map Prod.fst →
        listing (dispatch final r).2.registry = listing final.registry)

/-- On a new hub, the listing after any requests is determined by their history. -/
theorem listing_refines_history (capacity : Nat) (requests : List Request) :
    ListingRefinement (Hub.create capacity) requests := by
  have hstart : (Hub.create capacity).registry.Valid := Registry.valid_empty
  constructor
  case listed =>
    intro final hserves
    obtain ⟨hv, hshown⟩ := hserves.chart hstart
    refine ⟨hshown, dispatch_list final, hv.listing_ascends.imp Text.bytes_lt, fun id pin => ?_⟩
    rw [hv.mem_listing_iff, hshown]
    exact Chart.replay_empty_eq_some_iff
  case dispatched => exact serves_foldl _ requests
  case canonical =>
    intro final final' hserves hserves' jsonrpc id params
    obtain ⟨hv, hshown⟩ := hserves.chart hstart
    obtain ⟨hv', hshown'⟩ := hserves'.chart hstart
    cases id with
    | none => rw [dispatch_of_no_id final rfl, dispatch_of_no_id final' rfl]
    | some id =>
      rw [dispatch_list, dispatch_list, listing_ext hv hv' (hshown.trans hshown'.symm)]
  case successful => exact fun final r id _ hid hm => dispatch_edit final hid hm
  case updates =>
    intro final r id name position hserves hedit
    exact dispatch_update (hserves.chart hstart).1 hedit

end Rpc

end LiveMap
