import LiveMap.Rpc.Dispatch
import LiveMap.Text.Blank
import LiveMap.Text.Utf8

/-!
# HTTP

Four routes: a health check, the socket for views, and JSON-RPC by single requests or over a socket.
The two JSON-RPC routes may be guarded by a token, which a client shows in its authorization header.
The token is checked before anything in the request has an effect, but only once the body has been
read: one that is too long, or no text, is refused as such.
-/

namespace LiveMap

/-- A request. -/
structure HttpRequest where
  /-- The method. -/
  method : String
  /-- The path, perhaps with a query and a fragment, perhaps with scheme and host in front. -/
  path : String
  /-- Names and values, in order. -/
  headers : List (String × String)
  /-- The body. -/
  body : List UInt8

/-- A response. -/
structure HttpResponse where
  /-- The status. -/
  status : Nat
  /-- What the body is. -/
  contentType : Option String
  /-- The body. -/
  body : String
  deriving DecidableEq, Repr

namespace HttpResponse

/-- A response without a body. -/
def empty (status : Nat) : HttpResponse := ⟨status, none, ""⟩

/-- A response in plain text. -/
def plain (status : Nat) (body : String) : HttpResponse :=
  ⟨status, some "text/plain; charset=utf-8", body⟩

/-- A response in JSON. -/
def json (status : Nat) (body : Json) : HttpResponse :=
  ⟨status, some "application/json", body.render⟩

/-- The server is well. -/
def healthy : HttpResponse := json 200 (.obj [("status", .str "ok")])

/-- The token is missing or wrong. -/
def unauthorized : HttpResponse :=
  json 401 (.obj [("error", .str "missing or invalid bearer token")])

end HttpResponse

/-! ## Headers -/

namespace Headers

/-- A text with its ASCII letters in lower case. -/
def folded (s : String) : List Char := s.toList.map Char.toLower

/-- The value of the first header of a name, whose letters may be of either case. -/
def first? (name : String) (headers : List (String × String)) : Option String :=
  (headers.find? fun (other, _) => folded other == folded name).map Prod.snd

/-- Whether a transport takes the character away around the value of a header. -/
def isPadding (c : Char) : Bool := c == ' ' || c == '\t'

/-- Some headers without the padding around their values. -/
def unpadded (headers : List (String × String)) : List (String × String) :=
  headers.map fun (name, value) => (name, String.ofList (Text.trimBy isPadding value.toList))

/-- Whether a header reads like this, in letters of either case. -/
def reads (name value : String) (headers : List (String × String)) : Bool :=
  (first? name headers).map folded == some (folded value)

/-- Whether a word stands somewhere in a text. -/
def occurs (word : List Char) : List Char → Bool
  | [] => word.isEmpty
  | c :: rest => word.isPrefixOf (c :: rest) || occurs word rest

/-- Whether a header mentions a word somewhere, in letters of either case. -/
def mentions (name word : String) (headers : List (String × String)) : Bool :=
  (first? name headers).any fun value => occurs (folded word) (folded value)

end Headers

/-! ## The token -/

namespace Authorization

/-- What stands before the token. -/
def scheme : String := "Bearer "

/-- Whether a header value can be read as text: visible ASCII, spaces and tabs. -/
def isReadable (value : String) : Bool :=
  value.toList.all fun c => c = '\t' || (' ' ≤ c && c ≤ '~')

/-- The value of the first authorization header. -/
def header? (headers : List (String × String)) : Option String :=
  Headers.first? "authorization" headers

/-- What follows the scheme in a header value. -/
def afterScheme? (value : List Char) : Option (List Char) :=
  if scheme.toList.isPrefixOf value then some (value.drop scheme.toList.length) else none

/-- The token that a header value shows. -/
def presented? (value : String) : Option String :=
  if isReadable value then
    (afterScheme? value.toList).map fun rest => String.ofList (Text.trimChars rest)
  else none

/-- Whether the headers open a route that is guarded by a token, or by none. -/
def accepts (token : Option String) (headers : List (String × String)) : Bool :=
  match token with
  | none => true
  | some expected => (header? headers).bind presented? == some expected

end Authorization

/-! ## Routes -/

/-- What a path leads to. -/
inductive Route where
  /-- The health check. -/
  | health
  /-- The socket for views. -/
  | view
  /-- JSON-RPC by single requests. -/
  | rpc
  /-- JSON-RPC over a socket. -/
  | rpcSocket
  deriving DecidableEq, Repr

namespace Route

/-- Whether a character may stand in the scheme of an address. -/
def isSchemeChar (c : Char) : Bool := c.isAlphanum || c == '+' || c == '-' || c == '.'

/-- Whether a character ends the host of an address. -/
def endsHost (c : Char) : Bool := c == '/' || c == '?' || c == '#'

/-- Whether a character ends the path of an address. -/
def endsPath (c : Char) : Bool := c == '?' || c == '#'

/-- An address without a scheme and a host in front. -/
def afterHost (address : List Char) : List Char :=
  match address.dropWhile isSchemeChar with
  | ':' :: '/' :: '/' :: rest => rest.dropWhile fun c => !endsHost c
  | _ => address

/-- The path of an address: it has neither scheme nor host, neither query nor fragment. -/
def pathOnly (address : String) : String :=
  String.ofList ((afterHost address.toList).takeWhile fun c => !endsPath c)

/-- What an address leads to. -/
def ofPath? (address : String) : Option Route :=
  match pathOnly address with
  | "/health" => some health
  | "/ws" => some view
  | "/api/rpc" => some rpc
  | "/api/rpc/ws" => some rpcSocket
  | _ => none

/-- The methods that a route serves. -/
def methods : Route → List String
  | rpc => ["POST"]
  | health | view | rpcSocket => ["GET", "HEAD"]

end Route

/-! ## Serving -/

namespace Http

/-- The refusal of a stream of events, which one response cannot carry. -/
def needsSocket : Rpc.RpcError :=
  .invalidRequest "map.events.subscribe requires the /api/rpc/ws transport"

/-- Serves the text of a JSON-RPC request. -/
def rpcText (text : String) (hub : Hub) : HttpResponse × Hub :=
  match Rpc.Request.parse text with
  | .error refusal => (.json 200 refusal.toJson, hub)
  | .ok request =>
    match Rpc.dispatch hub request with
    | (.reply response, hub) => (.json 200 response.toJson, hub)
    | (.subscribe id, hub) => (.json 200 (Rpc.Response.failure id needsSocket).toJson, hub)
    | (.silent, hub) => (.empty 204, hub)

/-- Serves the text of a JSON-RPC request that came with these headers. The token is looked at
before the text is. -/
def rpcGuarded (token : Option String) (headers : List (String × String)) (text : String)
    (hub : Hub) : HttpResponse × Hub :=
  if Authorization.accepts token headers then rpcText text hub else (.unauthorized, hub)

/-- The greatest number of bytes that a body may have to be read. -/
def bodyLimit : Nat := 2097152

/-- Reads a body as a text, or says why it is refused: it is too long, or no text. -/
def readBody (body : List UInt8) : Except HttpResponse String :=
  if bodyLimit < body.length then
    .error (.plain 413 "Failed to buffer the request body: length limit exceeded")
  else
    match Text.Utf8.decode body with
    | .error fault =>
      .error (.plain 400 ("Request body didn't contain valid UTF-8: " ++ fault.message))
    | .ok text => .ok text

/-- Serves a JSON-RPC request. A body that cannot be read is refused before the token is looked at.
-/
def rpc (token : Option String) (request : HttpRequest) (hub : Hub) : HttpResponse × Hub :=
  match readBody request.body with
  | .error refusal => (refusal, hub)
  | .ok text => rpcGuarded token request.headers text hub

/-- A text that comes with the token is served. -/
theorem rpcGuarded_of_accepts {token : Option String} {headers : List (String × String)}
    (h : Authorization.accepts token headers = true) (text : String) (hub : Hub) :
    rpcGuarded token headers text hub = rpcText text hub := if_pos h

/-- A body is read as a text if it is one and not too long. -/
theorem readBody_eq_ok {body : List UInt8} {text : String} (hlength : body.length ≤ bodyLimit)
    (hdecoded : Text.Utf8.decode body = .ok text) : readBody body = .ok text := by
  rw [readBody, if_neg (Nat.not_lt.2 hlength), hdecoded]

/-- A request that comes with the token is served, if its body is a text and not too long. -/
theorem rpc_of_accepts {token : Option String} {request : HttpRequest} {text : String}
    (hlength : request.body.length ≤ bodyLimit)
    (hdecoded : Text.Utf8.decode request.body = .ok text)
    (h : Authorization.accepts token request.headers = true) (hub : Hub) :
    rpc token request hub = rpcText text hub := by
  rw [rpc, readBody_eq_ok hlength hdecoded]
  exact rpcGuarded_of_accepts h text hub

/-- The refusal of a single request on the route of a socket: of what a request for a socket has,
the first thing that is missing. A single request never has the last one, a connection to take over.
-/
def notASocket (request : HttpRequest) : HttpResponse :=
  if request.method ≠ "GET" then .plain 405 "Request method must be \x60GET\x60"
  else if !Headers.mentions "connection" "upgrade" request.headers then
    .plain 400 "Connection header did not include 'upgrade'"
  else if !Headers.reads "upgrade" "websocket" request.headers then
    .plain 400 "\x60Upgrade\x60 header did not include 'websocket'"
  else if Headers.first? "sec-websocket-key" request.headers = none then
    .plain 400 "\x60Sec-WebSocket-Key\x60 header missing"
  else if !Headers.reads "sec-websocket-version" "13" request.headers then
    .plain 400 "\x60Sec-WebSocket-Version\x60 header did not include '13'"
  else
    .plain 426 "WebSocket request couldn't be upgraded since no upgrade state was present"

/-- Serves a request on a route that has the method. -/
def onRoute (token : Option String) (request : HttpRequest) (hub : Hub) :
    Route → HttpResponse × Hub
  | .health => (.healthy, hub)
  | .rpc => rpc token request hub
  | .view | .rpcSocket => (notASocket request, hub)

/-- Serves a request. -/
def serve (token : Option String) (request : HttpRequest) (hub : Hub) : HttpResponse × Hub :=
  match Route.ofPath? request.path with
  | none => (.empty 404, hub)
  | some route =>
    if route.methods.contains request.method then
      let (response, hub) := onRoute token request hub route
      (if request.method = "HEAD" then { response with body := "" } else response, hub)
    else (.empty 405, hub)

end Http

end LiveMap
