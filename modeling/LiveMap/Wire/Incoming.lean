import LiveMap.Event
import LiveMap.Json.Fields

/-!
# What a browser sends

A browser reports what its user did by a frame with a tag and a payload. The frame is an object with
the members `event` and `payload` or an array of the two. In an array the tag is a text; in an
object it may also be an object of its own, whose only key is that text. If the payload stands
before the tag, it is kept until the tag is known, and for that it has to be a value throughout;
otherwise those of its members that are not asked for only have to fit the grammar.
-/

namespace LiveMap

/-- The kinds of browser frames. -/
inductive FrameTag where
  /-- Something done with a marker. -/
  | markerEvent
  /-- Something done with the map. -/
  | mapEvent
  deriving DecidableEq, Repr

namespace FrameTag

/-- The kind with a name. -/
def ofName? : String → Option FrameTag
  | "marker-event" => some markerEvent
  | "map-event" => some mapEvent
  | _ => none

/-- The kind that a text names. -/
def ofText? : Json.Tree Unit → Option FrameTag
  | .str (.ok name) => ofName? name
  | _ => none

/-- The kind that a tag names: by a text, or by the only key of an object whose value is null. -/
def ofTree? : Json.Tree Unit → Option FrameTag
  | .obj [(.ok name, .null)] => ofName? name
  | tag => ofText? tag

end FrameTag

namespace BrowserFrame

/-- The deepest nesting of a payload that is kept until its tag is known. The frame around it counts
too. -/
def keptNesting : Nat := Json.nestingLimit - 1

/-- Reads what a user did with a marker. -/
def markerEvent? (t : Json.Tree Unit) : Option MarkerInteraction := do
  match ← t.fields? ["event", "id", "name", "latLng"] with
  | [some event, some id, some name, some latLng] =>
    return ⟨← event.text?, ← id.text?, ← name.text?, ← latLng.pair?⟩
  | _ => none

/-- Reads what a user did with the map. The place pointed at may be absent or null. -/
def mapEvent? (t : Json.Tree Unit) : Option MapInteraction := do
  match ← t.fields? ["event", "center", "zoom", "latLng"] with
  | [some event, some center, some zoom, latLng] =>
    return ⟨← event.text?, ← center.pair?, ← zoom.number?,
      ← Json.Tree.optional? Json.Tree.pair? latLng⟩
  | _ => none

/-- Reads a payload of a known kind. -/
def payload? : FrameTag → Json.Tree Unit → Option MapEvent
  | .markerEvent, t => (markerEvent? t).map .marker
  | .mapEvent, t => (mapEvent? t).map .map

/-- Reads a tag and a payload that follows it. -/
def tagged? (tag payload : Json.Tree Unit) : Option MapEvent := do
  payload? (← FrameTag.ofTree? tag) payload

/-- Reads a payload and a tag that follows it. -/
def buffered? (payload tag : Json.Tree Unit) : Option MapEvent := do
  let _ ← payload.value? keptNesting
  payload? (← FrameTag.ofTree? tag) payload

/-- The members that matter: the tag and the payload, in order. -/
def relevant (members : List (Except Unit String × Json.Tree Unit)) :
    List (String × Json.Tree Unit) :=
  members.filterMap fun (key, t) =>
    match key with
    | .ok name => if name = "event" || name = "payload" then some (name, t) else none
    | .error _ => none

/-- Reads a frame. -/
def ofTree? : Json.Tree Unit → Option MapEvent
  | .arr [tag, payload] => do payload? (← FrameTag.ofText? tag) payload
  | .obj members =>
    if Json.Tree.keysSound members then
      match relevant members with
      | [("event", tag), ("payload", payload)] => tagged? tag payload
      | [("payload", payload), ("event", tag)] => buffered? payload tag
      | _ => none
    else none
  | _ => none

/-- Reads the text of a frame. -/
def parse? (text : String) : Option MapEvent := (Json.Tree.parse? text).bind ofTree?

end BrowserFrame

end LiveMap
