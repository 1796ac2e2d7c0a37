import LiveMap.Json.Fields
import LiveMap.Json.Record
import LiveMap.Wire.Outgoing

/-!
# Requests, responses and notifications

The envelope is that of JSON-RPC 2.0. A request without an id is a notification and is never
answered; an id of null is an id like any other. A response carries the id of its request and either
a result or an error.
-/

namespace LiveMap.Rpc

/-- The version that every message names. -/
def version : String := "2.0"

/-- Why a request failed. -/
structure RpcError where
  /-- The number of the kind of failure. -/
  code : Int
  /-- The reason in words. -/
  message : String

namespace RpcError

/-- The text is not JSON. -/
def parseError (message : String) : RpcError := ⟨-32700, message⟩

/-- The value is not a request, or the request is out of place. -/
def invalidRequest (message : String) : RpcError := ⟨-32600, message⟩

/-- There is no such method. -/
def methodNotFound (method : String) : RpcError := ⟨-32601, "unknown method: " ++ method⟩

/-- The parameters do not fit the method. -/
def invalidParams (message : String) : RpcError := ⟨-32602, message⟩

/-- The server is at fault. -/
def internal (message : String) : RpcError := ⟨-32603, message⟩

/-- The listener fell behind and was cut off. -/
def subscriptionEvicted : RpcError := ⟨-32000, "event subscription evicted: queue full"⟩

/-- An error as it is sent. -/
def toJson (e : RpcError) : Json := .obj [("code", .num (.int e.code)), ("message", .str e.message)]

/-- Reads an error. -/
def ofTree? (t : Json.Tree Unit) : Option RpcError := do
  match ← t.fields? ["code", "message"] with
  | [some code, some message] => return ⟨← code.integer?, ← message.text?⟩
  | _ => none

end RpcError

/-- The answer to a request. -/
structure Response where
  /-- The version. -/
  jsonrpc : String
  /-- The id of the request. -/
  id : Json
  /-- The result, if the request succeeded. -/
  result : Option Json
  /-- The reason, if it failed. -/
  error : Option RpcError

namespace Response

/-- The answer to a request that succeeded. -/
def success (id result : Json) : Response := ⟨version, id, some result, none⟩

/-- The answer to a request that failed. -/
def failure (id : Json) (error : RpcError) : Response := ⟨version, id, none, some error⟩

/-- A response as it is sent; an absent part is left out. -/
def toJson (r : Response) : Json :=
  .obj ([("jsonrpc", .str r.jsonrpc), ("id", r.id)] ++ optionalMember "result" r.result ++
    optionalMember "error" (r.error.map RpcError.toJson))

/-- The text of a response. -/
def render (r : Response) : String := r.toJson.render

/-- The deepest nesting of an id or a result. The response around it counts too. -/
def valueNesting : Nat := Json.nestingLimit - 1

/-- Reads a response. The id may be null but not absent; a result or error of null is absent. -/
def ofTree? (t : Json.Tree Unit) : Option Response := do
  match ← t.fields? ["jsonrpc", "id", "result", "error"] with
  | [some jsonrpc, some id, result, error] =>
    return ⟨← jsonrpc.text?, ← id.value? valueNesting,
      ← Json.Tree.optional? (·.value? valueNesting) result,
      ← Json.Tree.optional? RpcError.ofTree? error⟩
  | _ => none

/-- Reads the text of a response. -/
def parse? (text : String) : Option Response := (Json.Tree.parse? text).bind ofTree?

end Response

/-- The method of the notifications about events. -/
def eventNotification : String := "notifications/map.event"

/-- The notification about an event. -/
def notification (event : MapEvent) : Json :=
  .obj [("jsonrpc", .str version), ("method", .str eventNotification), ("params", event.toJson)]

/-- A request. -/
structure Request where
  /-- The version, if one is named. -/
  jsonrpc : Option String
  /-- The id, unless the request is a notification. -/
  id : Option Json
  /-- The name of the method. -/
  method : String
  /-- The parameters; null if there are none. -/
  params : Json

namespace Request

/-- The id to answer to. -/
def responseId (r : Request) : Json := r.id.getD .null

/-- Whether the request is never answered. -/
def isNotification (r : Request) : Bool := r.id.isNone

/-- The members of a request. -/
abbrev shape : Json.Record where
  name := "RpcRequest"
  fields := [⟨"jsonrpc", .textOptional⟩, ⟨"id", .anyIfPresent⟩, ⟨"method", .text⟩,
    ⟨"params", .anyOrNull⟩]

/-- Reads a request from an object. -/
def ofJson (v : Json) : Except Json.RecordFault Request := do
  let (jsonrpc, id, method, params, _) ← shape.read v
  return ⟨jsonrpc, id, method, params⟩

/-- Whether a value is an object. -/
def isObject : Json → Bool
  | .obj _ => true
  | _ => false

/-- Reads a request from a value. A refusal is the response to send; it carries the id if there is
one. -/
def ofValue (v : Json) : Except Response Request :=
  let id := (v.member? "id").getD .null
  if isObject v then
    match ofJson v with
    | .error fault => .error (.failure id (.invalidRequest fault.message))
    | .ok request =>
      match request.jsonrpc with
      | none => .ok request
      | some named =>
        if named = version then .ok request
        else .error (.failure id (.invalidRequest ("unsupported jsonrpc version: " ++ named)))
  else .error (.failure id (.invalidRequest "request must be a JSON object"))

/-- Reads a request from a text. A refusal is the response to send. -/
def parse (text : String) : Except Response Request :=
  match Json.parse text with
  | .error e => .error (.failure .null (.parseError e.message))
  | .ok v => ofValue v

end Request

end LiveMap.Rpc
