import LiveMap.Json.Printer
import LiveMap.Session

/-!
# What the server sends

The JSON forms of markers, commands, events and of the messages to a view. Positions always travel
as a pair of numbers, the latitude first. Members are in a fixed order, and the tag that tells the
cases apart comes first.
-/

namespace LiveMap

/-- A position as a pair. -/
def LatLng.toJson (p : LatLng Float) : Json := .arr [.ofFloat p.lat, .ofFloat p.lng]

/-- A marker as views and listings show it. -/
def Marker.toJson (m : Marker Float) : Json :=
  .obj [("id", .str m.id), ("name", .str m.name), ("latLng", m.position.toJson)]

namespace MapCommand

/-- The name of a command on the wire. -/
def name : MapCommand → String
  | setView .. => "setView"
  | flyTo .. => "flyTo"
  | fitBounds .. => "fitBounds"
  | flyToBounds .. => "flyToBounds"
  | setZoom .. => "setZoom"
  | resetView => "resetView"
  | highlightMarker .. => "highlightMarker"

/-- The details of a command. -/
def details : MapCommand → List (String × Json)
  | setView center zoom => [("latLng", center.toJson), ("zoom", .ofFloat zoom)]
  | flyTo center zoom => [("latLng", center.toJson), ("zoom", .ofFloat zoom)]
  | fitBounds c₁ c₂ => [("corner1", c₁.toJson), ("corner2", c₂.toJson)]
  | flyToBounds c₁ c₂ => [("corner1", c₁.toJson), ("corner2", c₂.toJson)]
  | setZoom zoom => [("zoom", .ofFloat zoom)]
  | resetView => []
  | highlightMarker id => [("id", .str id)]

/-- A command as a view receives it. -/
def toJson (c : MapCommand) : Json := .obj (("command", .str c.name) :: c.details)

end MapCommand

/-- A member that is left out when there is nothing to say. -/
def optionalMember (key : String) (v : Option Json) : List (String × Json) :=
  (v.map fun v => (key, v)).toList

/-- An event as listeners receive it. The name and the position are left out for a marker that is
gone; a missing place on the map is null. -/
def MapEvent.toJson : MapEvent → Json
  | markerOp e =>
    .obj ([("type", .str "marker-op"), ("op", .str e.kind.name), ("id", .str e.id)] ++
      optionalMember "name" (e.name.map .str) ++
      optionalMember "latLng" (e.position.map LatLng.toJson))
  | marker e =>
    .obj [("type", .str "marker-event"), ("event", .str e.event), ("id", .str e.id),
      ("name", .str e.name), ("latLng", e.position.toJson)]
  | map e =>
    .obj [("type", .str "map-event"), ("event", .str e.event), ("center", e.center.toJson),
      ("zoom", .ofFloat e.zoom), ("latLng", (e.position.map LatLng.toJson).getD .null)]

/-- A message to a view. -/
inductive ViewMessage where
  /-- The markers to show at first. -/
  | mount (markers : List (Marker Float))
  /-- A change to show. -/
  | delta (d : ViewDelta)

namespace ViewMessage

/-- The tag of a change. -/
def deltaTag : ViewDelta → String
  | .addMarker .. => "dmarker-add"
  | .moveMarker .. => "dmarker-update"
  | .removeMarker .. => "dmarker-delete"
  | .command .. => "map-command"

/-- The details of a change. -/
def deltaPayload : ViewDelta → Json
  | .addMarker id name position => (⟨id, name, position, none⟩ : Marker Float).toJson
  | .moveMarker id position => .obj [("id", .str id), ("latLng", position.toJson)]
  | .removeMarker id => .obj [("id", .str id)]
  | .command c => c.toJson

/-- A message as a view receives it. -/
def toJson : ViewMessage → Json
  | mount markers =>
    .obj [("event", .str "mount"),
      ("payload", .obj [("markers", .arr (markers.map Marker.toJson))])]
  | delta d => .obj [("event", .str (deltaTag d)), ("payload", deltaPayload d)]

end ViewMessage

end LiveMap
