import LiveMap.Geo

/-!
# Markers and the operations broadcast for them

A marker is a named position. Simulated markers carry a heading and a speed; markers that a client
placed do not, and move only when a client moves them.
-/

namespace LiveMap

/-- How a simulated marker travels. -/
structure Motion (α : Type) where
  /-- Degrees in `[0, 360)`; zero is north and ninety is east. -/
  heading : α
  /-- Degrees of arc per tick, before jitter. -/
  speed : α

/-- A named position on the map. -/
structure Marker (α : Type) where
  /-- The key under which the marker is stored. -/
  id : String
  /-- The label shown to users. -/
  name : String
  /-- Where the marker is. -/
  position : LatLng α
  /-- Present exactly for simulated markers. -/
  motion : Option (Motion α) := none

/-- Whether the marker is simulated. -/
def Marker.isMoving (m : Marker α) : Bool := m.motion.isSome

/-- Markers in ascending order of their ids. -/
def Marker.sortById (markers : List (Marker Float)) : List (Marker Float) :=
  markers.mergeSort fun a b => decide (a.id ≤ b.id)

/-- What happened to a marker. -/
inductive OpKind where
  /-- A marker appeared, or replaced the one with its id. -/
  | add
  /-- A marker moved. -/
  | update
  /-- A marker was removed. -/
  | delete
  deriving DecidableEq, Repr

/-- The name of the kind on the wire. -/
def OpKind.name : OpKind → String
  | add => "add"
  | update => "update"
  | delete => "delete"

/-- One change of the marker set, as every view sees it. -/
inductive MarkerOp where
  /-- The marker was put in place, replacing any with its id. -/
  | add (id name : String) (position : LatLng Float)
  /-- The marker moved; the name is the stored one. -/
  | update (id name : String) (position : LatLng Float)
  /-- The marker is gone. -/
  | delete (id : String)

namespace MarkerOp

/-- The operation that announces a new marker. -/
def added (m : Marker Float) : MarkerOp := .add m.id m.name m.position

/-- The operation that announces a marker's new position. -/
def updated (m : Marker Float) : MarkerOp := .update m.id m.name m.position

/-- The marker that the operation is about. -/
def id : MarkerOp → String
  | add id _ _ => id
  | update id _ _ => id
  | delete id => id

/-- What the operation did. -/
def kind : MarkerOp → OpKind
  | add .. => .add
  | update .. => .update
  | delete .. => .delete

end MarkerOp

end LiveMap
