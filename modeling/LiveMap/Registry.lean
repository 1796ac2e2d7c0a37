import LiveMap.Keyed
import LiveMap.Marker

/-!
# The marker registry

The registry holds the markers that all clients share, each under its id. It changes only by
mutations, and a mutation that changes something yields the operation that announces the change. The
mutations of simulated markers apply only while the stored marker still has motion, so a marker that
a client replaced is out of the simulation's reach.
-/

namespace LiveMap

/-- The shared markers by id, in the order in which their ids first arrived. -/
structure Registry where
  /-- Each id once, with its marker. -/
  entries : List (String × Marker Float)

/-- A request to change the registry. -/
inductive Mutation where
  /-- Put a marker in place, motion included, replacing any with its id. -/
  | add (marker : Marker Float)
  /-- Move a marker. -/
  | update (id : String) (position : LatLng Float)
  /-- Move a marker that has motion. -/
  | updateMoving (id : String) (position : LatLng Float)
  /-- Remove a marker. -/
  | delete (id : String)
  /-- Remove a marker that has motion. -/
  | deleteMoving (id : String)

namespace Registry

/-- The registry without markers. -/
def empty : Registry := ⟨[]⟩

/-- The marker under an id. -/
def find? (r : Registry) (id : String) : Option (Marker Float) := Keyed.find? id r.entries

/-- All markers. -/
def markers (r : Registry) : List (Marker Float) := r.entries.map Prod.snd

/-- The number of markers. -/
def size (r : Registry) : Nat := r.entries.length

/-- All markers, in ascending order of their ids. -/
def sortedMarkers (r : Registry) : List (Marker Float) := Marker.sortById r.markers

/-- Puts a marker in place. -/
def add (r : Registry) (m : Marker Float) : MarkerOp × Registry :=
  (.added m, ⟨Keyed.put m.id m r.entries⟩)

/-- Moves the marker under an id if it satisfies the condition. Its name and motion are kept. -/
def updateWhere (r : Registry) (id : String) (position : LatLng Float)
    (applies : Marker Float → Bool) : Option MarkerOp × Registry :=
  match r.find? id with
  | none => (none, r)
  | some m =>
    if applies m then
      let moved := { m with position }
      (some (.updated moved), ⟨Keyed.put id moved r.entries⟩)
    else (none, r)

/-- Removes the marker under an id if it satisfies the condition. -/
def deleteWhere (r : Registry) (id : String) (applies : Marker Float → Bool) :
    Option MarkerOp × Registry :=
  match r.find? id with
  | none => (none, r)
  | some m => if applies m then (some (.delete m.id), ⟨Keyed.erase id r.entries⟩) else (none, r)

/-- Carries out a mutation. The result is the operation to announce, or nothing if the mutation did
not apply; then the registry is as before. -/
def commit (r : Registry) : Mutation → Option MarkerOp × Registry
  | .add m => let (op, r) := r.add m; (some op, r)
  | .update id position => r.updateWhere id position fun _ => true
  | .updateMoving id position => r.updateWhere id position Marker.isMoving
  | .delete id => r.deleteWhere id fun _ => true
  | .deleteMoving id => r.deleteWhere id Marker.isMoving

end Registry

end LiveMap
