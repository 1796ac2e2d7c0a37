import LiveMap.Proofs.Rpc.Commands

/-!
# Which parameters are accepted

Nine methods declare the fields of their parameters, all of them required. Parameters are well
formed (`WellFormed`) if they are an object that has each field under its name, or an array that
lists exactly the fields in their order, each with a value of its type. What else an object has does
not matter, and omitted parameters count as an object without members.

The values that are read are the values so found, and `UnaryMethod.Asks` says what a method asks for
with them. So a method asks for something exactly if its parameters are well formed; a request is
answered by a success then, and otherwise refused for its parameters, with no effect. The two
methods that declare no parameters ask for the same whatever they are given.

Main statement: `params_are_accepted_exactly_when_well_formed`.
-/

namespace LiveMap

open Json (Record Field FieldType FieldValues)
open Json.Record (given? Reads)

/-! ## Well-formed parameters -/

/-- Whether a value is of the type of a required field, and is read as the value beside it: a text
as itself, a number as the double it stands for, and an array of two numbers as the position. No
value is of a type that need not be there. -/
def Json.FieldType.Holds : (t : FieldType) → Json → t.Value → Prop
  | text, v, s => v = .str s
  | number, v, x => ∃ n : Json.Number, v = .num n ∧ x = n.toFloat
  | pair, v, p => ∃ lat lng : Json.Number,
      v = .arr [.num lat, .num lng] ∧ p = ⟨lat.toFloat, lng.toFloat⟩
  | anyOrNull, _, _ | anyIfPresent, _, _ | anyOptional, _, _ | textOptional, _, _ => False

/-- Whether an object has every field under its name, with a value of its type. -/
def Named : (fields : List Field) → List (String × Json) → FieldValues fields → Prop
  | [], _, _ => True
  | f :: rest, members, values =>
    (∃ v, Keyed.find? f.name members = some v ∧ f.type.Holds v values.1) ∧
      Named rest members values.2

/-- Whether an array lists exactly the fields, in order, with values of their types. -/
def Listed : (fields : List Field) → List Json → FieldValues fields → Prop
  | [], [], _ => True
  | f :: rest, v :: more, values => f.type.Holds v values.1 ∧ Listed rest more values.2
  | _, _, _ => False

/-- Whether a value has the fields of a record, with these values. -/
inductive WellFormed (record : Record) : Json → FieldValues record.fields → Prop where
  /-- An object has them by their names. -/
  | object {members : List (String × Json)} {values : FieldValues record.fields}
      (h : Named record.fields members values) : WellFormed record (.obj members) values
  /-- An array has them by their places. -/
  | array {items : List Json} {values : FieldValues record.fields}
      (h : Listed record.fields items values) : WellFormed record (.arr items) values

/-! ## Reading well-formed parameters -/

variable {record : Record} {fields : List Field} {members : List (String × Json)}
  {items : List Json} {v : Json}

/-- A required field is read exactly from a value of its type. -/
theorem readField_iff_holds {f : Field} {o : Option Json} {value : f.type.Value}
    (hrequired : f.type.absent? = none) :
    Record.readField f o = .ok value ↔ ∃ v, o = some v ∧ f.type.Holds v value := by
  obtain ⟨name, type⟩ := f
  cases type with
  | anyOrNull | anyIfPresent | anyOptional | textOptional => cases hrequired
  | text =>
    rw [Record.readField_text_iff]
    exact ⟨fun h => ⟨_, h, rfl⟩, fun ⟨_, h, hv⟩ => hv ▸ h⟩
  | number =>
    rw [Record.readField_number_iff]
    exact ⟨fun ⟨n, h, hx⟩ => ⟨_, h, n, rfl, hx⟩, fun ⟨_, h, n, hv, hx⟩ => ⟨n, hv ▸ h, hx⟩⟩
  | pair =>
    rw [Record.readField_pair_iff]
    exact ⟨fun ⟨m, n, h, hp⟩ => ⟨_, h, m, n, rfl, hp⟩,
      fun ⟨_, h, m, n, hv, hp⟩ => ⟨m, n, hv ▸ h, hp⟩⟩

/-- Required fields are read from the members of an object exactly if each is there under its
name. -/
theorem reads_members_iff {values : FieldValues fields}
    (hrequired : ∀ f ∈ fields, f.type.absent? = none) :
    Reads fields (fields.map fun f => Keyed.find? f.name members) values ↔
      Named fields members values := by
  induction fields with
  | nil => exact ⟨fun _ => trivial, fun _ => trivial⟩
  | cons f rest ih =>
    rw [List.map_cons, Reads, Named, readField_iff_holds (hrequired f List.mem_cons_self),
      ih fun g hg => hrequired g (List.mem_cons_of_mem _ hg)]

/-- Required fields are read from the elements of an array exactly if it lists all of them and
nothing else. -/
theorem reads_elements_iff {values : FieldValues fields}
    (hrequired : ∀ f ∈ fields, f.type.absent? = none) :
    (items.length ≤ fields.length ∧
      Reads fields (items.map some ++ List.replicate (fields.length - items.length) none) values) ↔
      Listed fields items values := by
  induction fields generalizing items with
  | nil =>
    cases items with
    | nil => exact ⟨fun _ => trivial, fun _ => ⟨Nat.le_refl _, trivial⟩⟩
    | cons v more => simp [Listed]
  | cons f rest ih =>
    have hf := hrequired f List.mem_cons_self
    have hrest := fun g hg => hrequired g (List.mem_cons_of_mem f hg)
    cases items with
    | nil =>
      -- The first field is required, and there is no element for it.
      have hnone : ¬∃ v, (none : Option Json) = some v ∧ f.type.Holds v values.1 := by simp
      simp only [List.map_nil, List.nil_append, List.length_nil, List.length_cons, Nat.sub_zero,
        List.replicate_succ, Reads, readField_iff_holds hf, hnone, Listed, false_and, and_false]
    | cons v more =>
      have hhead : Record.readField f (some v) = .ok values.1 ↔ f.type.Holds v values.1 := by
        rw [readField_iff_holds hf]
        constructor
        · rintro ⟨_, hv, h⟩
          exact Option.some.inj hv ▸ h
        · exact fun h => ⟨v, rfl, h⟩
      rw [Listed, ← ih hrest, ← hhead]
      simp [Reads, and_left_comm]

/-- A record of required fields is read from a value in order exactly if the value is well formed,
and what is read are the values that it has. -/
theorem read_iff_wellFormed {values : FieldValues record.fields} (hv : v.InOrder)
    (hrequired : ∀ f ∈ record.fields, f.type.absent? = none) :
    record.read v = .ok values ↔ WellFormed record v values := by
  rw [Record.read_eq_ok_iff hv]
  cases v with
  | null | bool | num | str => exact ⟨fun ⟨_, h, _⟩ => (by cases h), fun h => (by cases h)⟩
  | obj members =>
    constructor
    · rintro ⟨_, hgiven, hreads⟩
      cases hgiven
      exact .object ((reads_members_iff hrequired).1 hreads)
    · rintro ⟨h⟩
      exact ⟨_, rfl, (reads_members_iff hrequired).2 h⟩
  | arr items =>
    constructor
    · rintro ⟨given, hgiven, hreads⟩
      rw [given?] at hgiven
      split at hgiven
      · next hlen =>
        cases hgiven
        exact .array ((reads_elements_iff hrequired).1 ⟨hlen, hreads⟩)
      · cases hgiven
    · rintro (_ | h)
      obtain ⟨hlen, hreads⟩ := (reads_elements_iff hrequired).2 h
      exact ⟨_, if_pos hlen, hreads⟩

namespace Rpc

/-! ## What methods ask for -/

/-- What a method asks for, with the values that its parameters have. An update has to name the
marker, but the name is not used. -/
inductive UnaryMethod.Asks (params : Json) : UnaryMethod → Action → Prop where
  /-- A marker is put in place. -/
  | markersAdd {id name : String} {position : LatLng Float}
      (h : WellFormed markerShape (orEmpty params) (id, name, position, ())) :
      Asks params .markersAdd (.mutate (.add ⟨id, name, position, none⟩))
  /-- A marker is moved. -/
  | markersUpdate {id name : String} {position : LatLng Float}
      (h : WellFormed markerShape (orEmpty params) (id, name, position, ())) :
      Asks params .markersUpdate (.mutate (.update id position))
  /-- A marker is removed. -/
  | markersDelete {id : String} (h : WellFormed markerIdShape (orEmpty params) (id, ())) :
      Asks params .markersDelete (.mutate (.delete id))
  /-- The markers are listed, whatever the parameters. -/
  | markersList : Asks params .markersList .list
  /-- The camera of every view is put. -/
  | mapSetView {center : LatLng Float} {zoom : Float}
      (h : WellFormed viewShape (orEmpty params) (center, zoom, ())) :
      Asks params .mapSetView (.issue (.setView center zoom))
  /-- The camera of every view is moved. -/
  | mapFlyTo {center : LatLng Float} {zoom : Float}
      (h : WellFormed viewShape (orEmpty params) (center, zoom, ())) :
      Asks params .mapFlyTo (.issue (.flyTo center zoom))
  /-- A box is shown in every view. -/
  | mapFitBounds {corner1 corner2 : LatLng Float}
      (h : WellFormed boundsShape (orEmpty params) (corner1, corner2, ())) :
      Asks params .mapFitBounds (.issue (.fitBounds corner1 corner2))
  /-- Every view is moved to a box. -/
  | mapFlyToBounds {corner1 corner2 : LatLng Float}
      (h : WellFormed boundsShape (orEmpty params) (corner1, corner2, ())) :
      Asks params .mapFlyToBounds (.issue (.flyToBounds corner1 corner2))
  /-- The zoom of every view is changed. -/
  | mapSetZoom {zoom : Float} (h : WellFormed zoomShape (orEmpty params) (zoom, ())) :
      Asks params .mapSetZoom (.issue (.setZoom zoom))
  /-- Every view is reset, whatever the parameters. -/
  | mapResetView : Asks params .mapResetView (.issue .resetView)
  /-- A marker is highlighted in every view. -/
  | mapHighlightMarker {id : String} (h : WellFormed markerIdShape (orEmpty params) (id, ())) :
      Asks params .mapHighlightMarker (.issue (.highlightMarker id))

variable {method : UnaryMethod} {params : Json} {action : Action}

/-- Omitted parameters count as a value in order. -/
theorem inOrder_orEmpty (h : params.InOrder) : (orEmpty params).InOrder := by
  cases params with
  | null => exact ⟨List.Pairwise.nil, trivial⟩
  | bool | num | str | arr | obj => exact h

/-- Parameters are read as a record of required fields exactly if they are well formed, as the
values that they have. -/
theorem readParams_iff_wellFormed {values : FieldValues record.fields} (h : params.InOrder)
    (hrequired : ∀ f ∈ record.fields, f.type.absent? = none) :
    readParams record params = .ok values ↔ WellFormed record (orEmpty params) values := by
  rw [readParams_eq]
  exact read_iff_wellFormed (inOrder_orEmpty h) hrequired

/-- A method asks for something exactly if its parameters are well formed, and for what belongs to
their values. -/
theorem action_iff_asks (h : params.InOrder) :
    method.action params = .ok action ↔ method.Asks params action := by
  constructor
  · intro ha
    cases method with
    | markersList | mapResetView =>
      cases ha
      constructor
    | markersAdd | markersUpdate | markersDelete | mapSetView | mapFlyTo | mapFitBounds
      | mapFlyToBounds | mapSetZoom | mapHighlightMarker =>
      obtain ⟨values, hread, ha⟩ := exists_of_bind_eq_ok ha
      cases ha
      constructor
      exact (readParams_iff_wellFormed h (by decide)).1 hread
  · intro ha
    cases ha with
    | markersList | mapResetView => rfl
    | markersAdd hw | markersUpdate hw | markersDelete hw | mapSetView hw | mapFlyTo hw
      | mapFitBounds hw | mapFlyToBounds hw | mapSetZoom hw | mapHighlightMarker hw =>
      exact bind_eq_ok_of ((readParams_iff_wellFormed h (by decide)).2 hw) rfl

/-- A method asks for something exactly if it declares no parameters, or has well-formed ones. -/
theorem exists_asks_iff : (∃ action, method.Asks params action) ↔
    ∀ record, method.shape? = some record →
      ∃ values, WellFormed record (orEmpty params) values := by
  constructor
  · rintro ⟨action, ha⟩ record hshape
    cases ha with
    | markersList | mapResetView => cases hshape
    | markersAdd hw | markersUpdate hw | markersDelete hw | mapSetView hw | mapFlyTo hw
      | mapFitBounds hw | mapFlyToBounds hw | mapSetZoom hw | mapHighlightMarker hw =>
      cases hshape
      exact ⟨_, hw⟩
  · intro h
    cases method with
    | markersList => exact ⟨_, .markersList⟩
    | mapResetView => exact ⟨_, .mapResetView⟩
    | markersAdd | markersUpdate | markersDelete | mapSetView | mapFlyTo | mapFitBounds
      | mapFlyToBounds | mapSetZoom | mapHighlightMarker =>
      obtain ⟨values, hw⟩ := h _ rfl
      exact ⟨_, by constructor; exact hw⟩

/-! ## Answers -/

/-- What becomes of the calls of a method with some parameters at a hub. -/
structure AcceptsWellFormed (hub : Hub) (method : UnaryMethod) (params : Json) : Prop where
  /-- The parameters are read exactly if they are well formed, as the values that they have. -/
  reads : ∀ record, method.shape? = some record → ∀ values : FieldValues record.fields,
    readParams record params = .ok values ↔ WellFormed record (orEmpty params) values
  /-- The method asks for what belongs to these values, and for nothing otherwise. -/
  asks : ∀ action, method.action params = .ok action ↔ method.Asks params action
  /-- A call succeeds exactly if the method declares no parameters, or has well-formed ones. -/
  succeeds : ∀ (r : Request) (id : Json), lookup r.method = some (.unary method) →
    r.params = params → r.id = some id →
      ((∃ result, (dispatch hub r).1 = .reply (.success id result)) ↔
        ∀ record, method.shape? = some record →
          ∃ values, WellFormed record (orEmpty params) values)
  /-- A call that succeeds does what the method asks for, and is answered with the result. -/
  serves : ∀ (r : Request) (id : Json) action, lookup r.method = some (.unary method) →
    r.params = params → r.id = some id → method.Asks params action →
      dispatch hub r = (.reply (.success id (action.run hub).1), (action.run hub).2)
  /-- In every other case it is refused for its parameters, and does nothing. -/
  refuses : ∀ (r : Request) (id : Json), lookup r.method = some (.unary method) →
    r.params = params → r.id = some id → (∀ action, ¬method.Asks params action) →
      ∃ message, dispatch hub r = (.reply (.failure id ⟨-32602, message⟩), hub)

variable {hub : Hub} {r : Request} {id : Json}

/-- A call that asks for something does it, and is answered with the result. -/
theorem dispatch_of_action (hknown : lookup r.method = some (.unary method)) (hid : r.id = some id)
    (ha : method.action r.params = .ok action) :
    dispatch hub r = (.reply (.success id (action.run hub).1), (action.run hub).2) := by
  rw [dispatch_unary hub hid hknown, UnaryMethod.call, ha]
  rfl

/-- A call whose parameters cannot be read is refused for them, and does nothing. -/
theorem dispatch_of_refused {fault : Json.RecordFault}
    (hknown : lookup r.method = some (.unary method)) (hid : r.id = some id)
    (ha : method.action r.params = .error fault) :
    dispatch hub r = (.reply (.failure id (.invalidParams fault.message)), hub) := by
  rw [dispatch_unary hub hid hknown, UnaryMethod.call, ha]
  rfl

/-- On every hub, every method accepts exactly the well-formed parameters, does with their values
what it is for, and refuses all others. -/
theorem params_are_accepted_exactly_when_well_formed (hub : Hub) (method : UnaryMethod)
    {params : Json} (h : params.InOrder) : AcceptsWellFormed hub method params where
  reads record hshape _ := readParams_iff_wellFormed h (UnaryMethod.required hshape)
  asks _ := action_iff_asks h
  succeeds r id hknown hparams hid := by
    subst hparams
    rw [← exists_asks_iff]
    constructor
    · rintro ⟨result, hreply⟩
      cases ha : method.action r.params with
      | ok action => exact ⟨action, (action_iff_asks h).1 ha⟩
      | error fault =>
        rw [dispatch_of_refused hknown hid ha] at hreply
        cases hreply
    · rintro ⟨action, ha⟩
      have hdispatch : dispatch hub r = (.reply (.success _ _), _) :=
        dispatch_of_action hknown hid ((action_iff_asks h).2 ha)
      exact ⟨_, congrArg Prod.fst hdispatch⟩
  serves r id action hknown hparams hid ha := by
    subst hparams
    exact dispatch_of_action hknown hid ((action_iff_asks h).2 ha)
  refuses r id hknown hparams hid hnone := by
    subst hparams
    cases ha : method.action r.params with
    | ok action => exact absurd ((action_iff_asks h).1 ha) (hnone action)
    | error fault => exact ⟨fault.message, dispatch_of_refused hknown hid ha⟩

/-- Parameters for an addition: an object with a member that belongs to no field. -/
def markerParams : Json :=
  .obj [("colour", .null), ("id", .str "a1"), ("latLng", .arr [.num (.int 30), .num (.float 0.5)]),
    ("name", .str "Alpha-01")]

/-- The parameters are well formed, and so they are accepted. -/
theorem markerParams_are_accepted : markerParams.InOrder ∧
    AcceptsWellFormed (Hub.create 16) .markersAdd markerParams ∧
    UnaryMethod.markersAdd.Asks markerParams
      (.mutate (.add ⟨"a1", "Alpha-01", ⟨(Json.Number.int 30).toFloat, 0.5⟩, none⟩)) := by
  have hordered : markerParams.InOrder := by
    refine ⟨?_, by simp [Json.MembersInOrder, Json.InOrder, Json.ItemsInOrder]⟩
    rw [Keyed.Ascending]
    decide
  refine ⟨hordered,
    params_are_accepted_exactly_when_well_formed (Hub.create 16) .markersAdd hordered,
    .markersAdd (.object ?_)⟩
  exact ⟨⟨_, rfl, rfl⟩, ⟨_, rfl, rfl⟩, ⟨_, rfl, _, _, rfl, rfl⟩, trivial⟩

end Rpc

end LiveMap
