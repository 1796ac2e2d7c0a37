import LiveMap.Rpc.Method

/-!
# Dispatch

A request is looked up in the table of methods and served. What the transport has to do afterwards
is to send a reply, to open a stream, or nothing.
-/

namespace LiveMap.Rpc

/-- What a transport has to do for a request. -/
inductive Dispatch where
  /-- Send this. -/
  | reply (response : Response)
  /-- Open a stream of events that answers to this id. -/
  | subscribe (id : Json)
  /-- Nothing. -/
  | silent

/-- The response to a request with this id. -/
def respond (id : Json) : Except RpcError Json → Response
  | .ok result => .success id result
  | .error e => .failure id e

/-- Serves a request. A notification is served like the request, but nothing goes back; a stream
without an id would answer to nothing and is not opened. -/
def dispatch (hub : Hub) (request : Request) : Dispatch × Hub :=
  let answer (response : Response) : Dispatch :=
    if request.isNotification then .silent else .reply response
  match lookup request.method with
  | none => (answer (.failure request.responseId (.methodNotFound request.method)), hub)
  | some .eventStream =>
    (if request.isNotification then .silent else .subscribe request.responseId, hub)
  | some (.unary method) =>
    let (outcome, hub) := method.call request.params hub
    (answer (respond request.responseId outcome), hub)

end LiveMap.Rpc
