import CallWire.Message.Basic
import CallWire.Socket.Error

/-!
The ways in which a channel operation can fail, and what becomes of an operation: it is done, or it
waits for something that has not happened yet. `checkReply` is the test a reply has to pass.
-/

namespace CallWire

inductive ChannelError
  | transport (error : TransportError)
  | io (error : IoError)
  | message (error : MessageError)
  | frameTooLarge (size maximum : Nat)
  | frameTooShort (size minimum : Nat)
  /-- The peer went away inside a frame, or where a frame was due. -/
  | connectionClosed
  /-- A listening channel has no peer to talk to. -/
  | notConnected
  | closed
  | missingResponse (callId : UInt16)
  | callIdMismatch (expected actual : UInt16)
  | unexpectedType (expected actual : MessageType)
  deriving DecidableEq, Repr

namespace ChannelError

def text : ChannelError → String
  | transport error => s!"transport error: {error.message}"
  | io error => s!"channel I/O error: {error.text}"
  | message error => s!"invalid message: {error.message}"
  | frameTooLarge size maximum => s!"frame too large ({size} bytes, max {maximum})"
  | frameTooShort size minimum => s!"frame too short ({size} bytes, min {minimum})"
  | connectionClosed => "connection closed (incomplete frame)"
  | notConnected => "channel has no connected peer"
  | closed => "channel is closed"
  | missingResponse callId => s!"handler produced no response for call {callId}"
  | callIdMismatch expected actual =>
    s!"response call id {actual} does not match request call id {expected}"
  | unexpectedType expected actual =>
    s!"expected a {expected.name} message, got {actual.name}"

def isDisconnect : ChannelError → Bool
  | connectionClosed => true
  | io error => error.kind.isDisconnect
  | _ => false

def isTimeout : ChannelError → Bool
  | io error => error.kind.isTimeout
  | _ => false

end ChannelError

/-- What has become of an operation that may have to wait. -/
inductive Outcome (α : Type)
  | done (result : Except ChannelError α)
  | waiting
  deriving Repr

/-- A reply must be a response, and then carry the call id of the request. -/
def checkReply (request reply : Message) : Except ChannelError Unit :=
  match reply.type with
  | .error error => .error (.message error)
  | .ok .request => .error (.unexpectedType .response .request)
  | .ok .response =>
    if reply.callId = request.callId then .ok ()
    else .error (.callIdMismatch request.callId reply.callId)

end CallWire
