import LiveMap.Session
import LiveMap.Socket.Frame
import LiveMap.Wire.Incoming
import LiveMap.Wire.Outgoing

/-!
# The view socket

A browser is sent the markers when it opens the socket, and then the changes of its session, tick by
tick. What it sends is told to the listeners. A few texts that cannot be read are forgiven, counted
over the whole connection.
-/

namespace LiveMap

variable {ρ : Type}

/-- The server's side of a view socket. -/
structure ViewSocket (ρ : Type) where
  /-- The session behind the socket. -/
  session : Session ρ
  /-- The number of texts that could not be read. -/
  invalid : Nat

namespace ViewSocket

/-- The number of unreadable texts that are forgiven. -/
def maxInvalid : Nat := 10

/-- Opens a socket over a source: the session is mounted, and the markers are sent in ascending
order of their ids. -/
def start (source : Source ρ) (hub : Hub) : ViewMessage × ViewSocket ρ × Hub :=
  let (session, hub) := Session.mount source hub
  (.mount (Marker.sortById (session.initialMarkers hub)), ⟨session, 0⟩, hub)

/-- The transport has been up for long enough. -/
def connect (socket : ViewSocket ρ) : ViewSocket ρ :=
  { socket with session := socket.session.connect }

/-- Takes a text from the browser. -/
def receiveText (socket : ViewSocket ρ) (content : String) (hub : Hub) :
    Verdict × ViewSocket ρ × Hub :=
  match BrowserFrame.parse? content with
  | some event => (.stay, socket, (socket.session.forward event hub).2)
  | none =>
    let socket := { socket with invalid := socket.invalid + 1 }
    if maxInvalid < socket.invalid then (.leave (some .invalidPayloads), socket, hub)
    else (.stay, socket, hub)

/-- Takes an incoming frame. The session is left open. -/
def receive (socket : ViewSocket ρ) (frame : Incoming) (hub : Hub) :
    Verdict × ViewSocket ρ × Hub :=
  match frame with
  | .text content => socket.receiveText content hub
  | .binary => (.leave (some .unsupported), socket, hub)
  | .ping | .pong => (.stay, socket, hub)
  | .close _ | .lost => (.leave none, socket, hub)

/-- One tick: the changes to send. The connection ends when the session closed itself. -/
def tick [FleetDraws ρ] (socket : ViewSocket ρ) (hub : Hub) :
    Except Fault (List ViewMessage × Verdict × ViewSocket ρ × Hub) := do
  let (deltas, session, hub) ← socket.session.tick hub
  let verdict : Verdict :=
    if session.phase = .closed then .leave (some .tooSlow) else .stay
  return (deltas.map .delta, verdict, { socket with session }, hub)

/-- The connection is over; the session is closed if it is not yet. -/
def finish (socket : ViewSocket ρ) (hub : Hub) : ViewSocket ρ × Hub :=
  let (session, hub) := socket.session.close .disconnected hub
  ({ socket with session }, hub)

end ViewSocket

end LiveMap
