import LiveMap.Channel
import LiveMap.Session
import LiveMap.Settings.Address
import LiveMap.Text.Blank

/-!
# Settings

The server is set up by variables of its environment. Blanks around a value do not count. A variable
that is unset, or whose value does not fit, leaves the default in place; a number that is too large
for its type does not fit.
-/

namespace LiveMap

/-- The variables that are set, with their values. -/
abbrev Environment := String → Option String

namespace Settings

/-- The value of decimal digits. -/
def decimalValue (ds : List Char) : Nat := ds.foldl (fun n c => n * 10 + (c.toNat - '0'.toNat)) 0

/-- An unsigned number with an optional plus sign, at most `most`. -/
def unsigned? (most : Nat) (text : String) : Option Nat :=
  let ds := match text.toList with
    | '+' :: ds => ds
    | ds => ds
  if ds.isEmpty || !ds.all Char.isDigit then none
  else if decimalValue ds ≤ most then some (decimalValue ds) else none

/-- The greatest number of 16 bits. -/
def max16 : Nat := Nat.pow 2 16 - 1

/-- The greatest number of 64 bits. -/
def max64 : Nat := Nat.pow 2 64 - 1

/-- A variable as a number of at most `most`. -/
def numberOr (env : Environment) (key : String) (most default : Nat) : Nat :=
  ((env key).bind fun raw => unsigned? most (Text.trim raw)).getD default

/-- A variable as a period; zero is none. -/
def periodOr (env : Environment) (key : String) (default : Nat) : Nat :=
  let period := numberOr env key max64 default
  if period = 0 then default else period

/-- A variable as the capacity of a channel, brought into the range of capacities. -/
def capacityOr (env : Environment) (key : String) (default : Nat) : Nat :=
  Channel.clampCapacity (numberOr env key max64 default)

/-- The port that is used unless another one is set. -/
def defaultPort : Nat := 8123

/-- Milliseconds between ticks, unless set. -/
def defaultTickInterval : Nat := 1200

/-- Milliseconds from opening to connection, unless set. -/
def defaultConnectGrace : Nat := 300

/-- The capacity of the channels, unless set. -/
def defaultQueueCapacity : Nat := 256

/-- The size of a private fleet, unless set. -/
def defaultMockInitialMarkers : Nat := 5

/-- The size of the shared fleet, unless set. -/
def defaultFleetSize : Nat := 5

/-- The port to listen on. -/
def port (env : Environment) : Nat := numberOr env "DMAP_PORT" max16 defaultPort

/-- The address to listen on. -/
def bindAddress (env : Environment) : IpAddress :=
  ((env "DMAP_BIND").bind fun raw => IpAddress.parse? (Text.trim raw)).getD .localhost

/-- Milliseconds between ticks. -/
def tickInterval (env : Environment) : Nat := periodOr env "TICK_INTERVAL_MS" defaultTickInterval

/-- Milliseconds from the opening of a view to its connection. -/
def connectGrace (env : Environment) : Nat :=
  numberOr env "VIEW_CONNECT_GRACE_MS" max64 defaultConnectGrace

/-- The capacity of the channels. -/
def queueCapacity (env : Environment) : Nat :=
  capacityOr env "SUBSCRIBER_QUEUE_CAPACITY" defaultQueueCapacity

/-- The source of new sessions. -/
def markerSource (env : Environment) : SourceKind :=
  if (env "MARKER_SOURCE").map Text.trim = some "mock" then .mock else .api

/-- The size of a private fleet. -/
def mockInitialMarkers (env : Environment) : Nat :=
  numberOr env "MOCK_INITIAL_MARKERS" max64 defaultMockInitialMarkers

/-- The size of the shared fleet. -/
def fleetSize (env : Environment) : Nat := numberOr env "SIM_FLEET_SIZE" max64 defaultFleetSize

/-- The token that clients have to show; a blank one is none. -/
def rpcToken (env : Environment) : Option String :=
  ((env "RPC_TOKEN").map Text.trim).filter (· ≠ "")

end Settings

/-- Everything that the server is set up with. Times are in milliseconds. -/
structure ServerSettings where
  /-- The capacity of the channels. -/
  queueCapacity : Nat
  /-- What all sessions have in common. -/
  sessions : SessionSettings
  /-- The size of the shared fleet; zero for none. -/
  fleetSize : Nat
  /-- From one step of the shared fleet to the next. -/
  fleetTickInterval : Nat
  /-- The token that clients have to show, if there is one. -/
  rpcToken : Option String
  deriving DecidableEq, Repr

namespace ServerSettings

open Settings

/-- The settings that an environment asks for. The shared fleet keeps the pace of the views. -/
def ofEnvironment (env : Environment) : ServerSettings where
  queueCapacity := Settings.queueCapacity env
  sessions :=
    { connectGrace := connectGrace env
      tickInterval := tickInterval env
      source := markerSource env
      mockInitialMarkers := mockInitialMarkers env }
  fleetSize := Settings.fleetSize env
  fleetTickInterval := tickInterval env
  rpcToken := Settings.rpcToken env

/-- The settings of a server that is told nothing. -/
def standard : ServerSettings where
  queueCapacity := defaultQueueCapacity
  sessions :=
    { connectGrace := defaultConnectGrace
      tickInterval := defaultTickInterval
      source := .api
      mockInitialMarkers := defaultMockInitialMarkers }
  fleetSize := defaultFleetSize
  fleetTickInterval := defaultTickInterval
  rpcToken := none

end ServerSettings

end LiveMap
