import LiveMap.Marker

/-!
# Map commands and map events

Commands go from the server to every view: they move the camera or highlight a marker. Events go to
everyone who listens to the map: changes of the marker set, and what users do in a browser.
-/

namespace LiveMap

/-- What every view is told to do. -/
inductive MapCommand where
  /-- Put the camera at once. -/
  | setView (center : LatLng Float) (zoom : Float)
  /-- Move the camera smoothly. -/
  | flyTo (center : LatLng Float) (zoom : Float)
  /-- Show the box between two corners at once. -/
  | fitBounds (corner1 corner2 : LatLng Float)
  /-- Move smoothly to the box between two corners. -/
  | flyToBounds (corner1 corner2 : LatLng Float)
  /-- Change the zoom only. -/
  | setZoom (zoom : Float)
  /-- Go back to the initial view. -/
  | resetView
  /-- Draw attention to a marker. -/
  | highlightMarker (id : String)

/-- A change of the marker set, as listeners are told. -/
structure MarkerOpEvent where
  /-- What happened. -/
  kind : OpKind
  /-- The marker. -/
  id : String
  /-- The name, unless the marker is gone. -/
  name : Option String
  /-- The position, unless the marker is gone. -/
  position : Option (LatLng Float)

/-- The event that reports an operation. -/
def MarkerOpEvent.ofOp : MarkerOp → MarkerOpEvent
  | .add id name position => ⟨.add, id, some name, some position⟩
  | .update id name position => ⟨.update, id, some name, some position⟩
  | .delete id => ⟨.delete, id, none, none⟩

/-- What a user did with a marker, such as a click. -/
structure MarkerInteraction where
  /-- The browser's name for it. -/
  event : String
  /-- The marker. -/
  id : String
  /-- The marker's name in the browser. -/
  name : String
  /-- The marker's position in the browser. -/
  position : LatLng Float

/-- What a user did with the map, such as a drag. -/
structure MapInteraction where
  /-- The browser's name for it. -/
  event : String
  /-- The centre of the visible map. -/
  center : LatLng Float
  /-- The zoom of the visible map. -/
  zoom : Float
  /-- The place pointed at, if there is one. -/
  position : Option (LatLng Float)

/-- Everything that listeners of the map are told. -/
inductive MapEvent where
  /-- The marker set changed. -/
  | markerOp (e : MarkerOpEvent)
  /-- A user did something with a marker. -/
  | marker (e : MarkerInteraction)
  /-- A user did something with the map. -/
  | map (e : MapInteraction)

end LiveMap
