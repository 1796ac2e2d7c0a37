/-!
# Frames of a socket

What a server takes from a socket and what it puts on it.
-/

namespace LiveMap

/-- Why a socket is closed: a number and a text. -/
structure CloseFrame where
  /-- The number of the reason. -/
  code : Nat
  /-- The reason in words. -/
  reason : String
  deriving DecidableEq, Repr

namespace CloseFrame

/-- The message is of a kind that is not taken. -/
def unsupported : CloseFrame := ⟨1003, "binary messages not supported"⟩

/-- The client sent too much that could not be read. -/
def invalidPayloads : CloseFrame := ⟨1008, "invalid payloads"⟩

/-- The client fell behind. -/
def tooSlow : CloseFrame := ⟨1008, "too slow"⟩

/-- The client broke the rules of the socket. -/
def violation : CloseFrame := ⟨1002, "Protocol violation"⟩

/-- Whether the number may stand in a frame: the defined reasons, and those left to applications. -/
def isAllowed (frame : CloseFrame) : Bool :=
  (1000 ≤ frame.code && frame.code ≤ 1003) || (1007 ≤ frame.code && frame.code ≤ 1013) ||
    (3000 ≤ frame.code && frame.code ≤ 4999)

/-- The greatest number of bytes that a reason may have. -/
def maxReasonBytes : Nat := 123

/-- What answers a frame from the client: the same frame, if it is allowed. A frame with a reason
that is too long cannot be read, and the answer gives no reason then. -/
def echo? (frame : CloseFrame) : Option CloseFrame :=
  if maxReasonBytes < frame.reason.utf8ByteSize then none
  else if frame.isAllowed then some frame
  else some violation

end CloseFrame

/-- What a server takes from a socket. -/
inductive Incoming where
  /-- A text. -/
  | text (content : String)
  /-- Bytes. -/
  | binary
  /-- A sign of life that asks for one. -/
  | ping
  /-- A sign of life. -/
  | pong
  /-- The client closes the socket. -/
  | close (frame : Option CloseFrame)
  /-- The client is gone. -/
  | lost

/-- What a client sees of a socket. -/
inductive Outgoing where
  /-- A text. -/
  | text (content : String)
  /-- The socket is closed. -/
  | close (frame : Option CloseFrame)
  /-- The connection is over. -/
  | ended

/-- Whether a connection goes on after an incoming frame. -/
inductive Verdict where
  /-- It goes on. -/
  | stay
  /-- It ends; the server closes the socket with this frame, if there is one. -/
  | leave (frame : Option CloseFrame)
  deriving DecidableEq, Repr

end LiveMap
