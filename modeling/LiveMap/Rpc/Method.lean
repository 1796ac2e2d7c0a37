import LiveMap.Rpc.Message

/-!
# Methods

Every method is named once in a table. All but one are unary: their parameters decide on one action,
the action is carried out on the hub, and its result is the answer. What a request asks for does not
depend on the hub.
-/

namespace LiveMap.Rpc

open Json (Record RecordFault)

/-- The methods that are answered once. -/
inductive UnaryMethod where
  /-- Put a marker in place. -/
  | markersAdd
  /-- Move a marker. -/
  | markersUpdate
  /-- Remove a marker. -/
  | markersDelete
  /-- List the markers. -/
  | markersList
  /-- Put the camera of every view at once. -/
  | mapSetView
  /-- Move the camera of every view smoothly. -/
  | mapFlyTo
  /-- Show a box in every view at once. -/
  | mapFitBounds
  /-- Move every view smoothly to a box. -/
  | mapFlyToBounds
  /-- Change the zoom of every view. -/
  | mapSetZoom
  /-- Reset every view. -/
  | mapResetView
  /-- Highlight a marker in every view. -/
  | mapHighlightMarker
  deriving DecidableEq, Repr

/-- How a method is served. -/
inductive Handler where
  /-- One answer to each request. -/
  | unary (method : UnaryMethod)
  /-- A stream of notifications, answered when it ends. -/
  | eventStream
  deriving DecidableEq, Repr

/-- The names of the methods, and how they are served. -/
def methodTable : List (String × Handler) :=
  [("markers.add", .unary .markersAdd),
   ("markers.update", .unary .markersUpdate),
   ("markers.delete", .unary .markersDelete),
   ("markers.list", .unary .markersList),
   ("map.setView", .unary .mapSetView),
   ("map.flyTo", .unary .mapFlyTo),
   ("map.fitBounds", .unary .mapFitBounds),
   ("map.flyToBounds", .unary .mapFlyToBounds),
   ("map.setZoom", .unary .mapSetZoom),
   ("map.resetView", .unary .mapResetView),
   ("map.highlightMarker", .unary .mapHighlightMarker),
   ("map.events.subscribe", .eventStream)]

/-- How the method of a name is served. -/
def lookup (name : String) : Option Handler := Keyed.find? name methodTable

/-- Why a table of methods is unusable. -/
inductive TableFault where
  /-- A name is empty or belongs to the protocol. -/
  | reserved (name : String)
  /-- A name is used twice. -/
  | duplicate (name : String)
  deriving DecidableEq, Repr

/-- Whether a name is empty or belongs to the protocol. -/
def isReserved (name : String) : Bool := name.isEmpty || "$/".isPrefixOf name

/-- Checks the names of a table against those that were `seen` before them, and counts all. -/
def checkNames (seen : List String) : List String → Except TableFault Nat
  | [] => .ok seen.length
  | name :: rest =>
    if isReserved name then .error (.reserved name)
    else if seen.contains name then .error (.duplicate name)
    else checkNames (name :: seen) rest

/-- The number of methods, if the table is usable. -/
def validateTable : Except TableFault Nat := checkNames [] (methodTable.map Prod.fst)

/-! ## Parameters -/

/-- A marker as a parameter. -/
abbrev markerShape : Record := ⟨"MarkerParams", [⟨"id", .text⟩, ⟨"name", .text⟩, ⟨"latLng", .pair⟩]⟩

/-- The id of a marker as a parameter. -/
abbrev markerIdShape : Record := ⟨"MarkerIdParams", [⟨"id", .text⟩]⟩

/-- A camera position as a parameter. -/
abbrev viewShape : Record := ⟨"ViewParams", [⟨"latLng", .pair⟩, ⟨"zoom", .number⟩]⟩

/-- A box as a parameter. -/
abbrev boundsShape : Record := ⟨"BoundsParams", [⟨"corner1", .pair⟩, ⟨"corner2", .pair⟩]⟩

/-- A zoom as a parameter. -/
abbrev zoomShape : Record := ⟨"ZoomParams", [⟨"zoom", .number⟩]⟩

/-- Reads parameters. Omitted ones count as an empty object, so that missing fields are reported by
name. -/
def readParams (record : Record) (params : Json) :
    Except RecordFault (Json.FieldValues record.fields) :=
  match params with
  | .null => record.read (.obj [])
  | v => record.read v

/-! ## Actions -/

/-- What a unary request asks for. -/
inductive Action where
  /-- Change the registry. -/
  | mutate (mutation : Mutation)
  /-- List the markers. -/
  | list
  /-- Send a command to every view. -/
  | issue (command : MapCommand)

/-- The action that a method and its parameters ask for. An update requires a name, but the stored
name is kept. -/
def UnaryMethod.action (method : UnaryMethod) (params : Json) : Except RecordFault Action :=
  match method with
  | markersAdd => do
    let (id, name, position, _) ← readParams markerShape params
    return .mutate (.add ⟨id, name, position, none⟩)
  | markersUpdate => do
    let (id, _, position, _) ← readParams markerShape params
    return .mutate (.update id position)
  | markersDelete => do
    let (id, _) ← readParams markerIdShape params
    return .mutate (.delete id)
  | markersList => return .list
  | mapSetView => do
    let (center, zoom, _) ← readParams viewShape params
    return .issue (.setView center zoom)
  | mapFlyTo => do
    let (center, zoom, _) ← readParams viewShape params
    return .issue (.flyTo center zoom)
  | mapFitBounds => do
    let (corner1, corner2, _) ← readParams boundsShape params
    return .issue (.fitBounds corner1 corner2)
  | mapFlyToBounds => do
    let (corner1, corner2, _) ← readParams boundsShape params
    return .issue (.flyToBounds corner1 corner2)
  | mapSetZoom => do
    let (zoom, _) ← readParams zoomShape params
    return .issue (.setZoom zoom)
  | mapResetView => return .issue .resetView
  | mapHighlightMarker => do
    let (id, _) ← readParams markerIdShape params
    return .issue (.highlightMarker id)

/-- The result of an action that has nothing to say. -/
def okResult : Json := .obj [("ok", .bool true)]

/-- The markers in ascending order of their ids, as a result. -/
def markerListing (registry : Registry) : Json :=
  Json.canonical (.obj [("markers", .arr (registry.sortedMarkers.map Marker.toJson))])

/-- Carries out an action and gives its result. -/
def Action.run (hub : Hub) : Action → Json × Hub
  | mutate mutation => (okResult, (hub.perform mutation).2)
  | list => (markerListing hub.registry, hub)
  | issue command => (okResult, (hub.issueCommand command).2)

/-- Serves a unary method: its result, or the reason why the parameters do not fit. -/
def UnaryMethod.call (method : UnaryMethod) (params : Json) (hub : Hub) :
    Except RpcError Json × Hub :=
  match method.action params with
  | .error fault => (.error (.invalidParams fault.message), hub)
  | .ok action =>
    let (result, hub) := action.run hub
    (.ok result, hub)

end LiveMap.Rpc
