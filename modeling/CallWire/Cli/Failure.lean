import CallWire.Argument.Basic
import CallWire.Argument.Duration
import CallWire.Bytes.Hex
import CallWire.Channel.Error

/-!
How a command fails: what people are told, and the status that the program leaves behind. An
input or output error decides the status by its kind wherever it stands.
-/

namespace CallWire

def successStatus : Nat := 0

/-- The peer went away, or answered nothing. -/
def failureStatus : Nat := 1

def transportStatus : Nat := 3

def dataInvalidStatus : Nat := 60

def usageStatus : Nat := 64

def timeoutStatus : Nat := 124

def internalStatus : Nat := 125

/-- The failures of commands; a context says what was being done. -/
inductive Failure
  | duration (error : DurationError)
  | hexInput (error : Hex.DecodeError)
  | undecodable (what : String) (kind : ArgumentKind) (error : WireError)
  | io (context : String) (error : IoError)
  | transport (context : String) (error : TransportError)
  | message (context : String) (error : MessageError)
  | channel (context : String) (error : ChannelError)
  deriving DecidableEq, Repr

def ioStatus (error : IoError) : Nat :=
  match error.kind with
  | .timedOut | .wouldBlock => timeoutStatus
  | .brokenPipe | .connectionReset | .unexpectedEof => failureStatus
  | _ => internalStatus

def transportErrorStatus : TransportError → Nat
  | .io error => ioStatus error
  | _ => transportStatus

def channelErrorStatus : ChannelError → Nat
  | .transport error => transportErrorStatus error
  | .io error => ioStatus error
  | .message _ => dataInvalidStatus
  | .frameTooLarge .. | .frameTooShort .. | .callIdMismatch .. | .unexpectedType .. =>
    dataInvalidStatus
  | .connectionClosed | .missingResponse _ => failureStatus
  | .notConnected | .closed => internalStatus

/-- An input or output error is told by its own text alone. -/
def transportErrorText : TransportError → String
  | .io error => error.text
  | error => error.message

def channelErrorText : ChannelError → String
  | .transport error => transportErrorText error
  | .io error => error.text
  | .message error => error.message
  | error => error.text

namespace Failure

def status : Failure → Nat
  | duration _ | hexInput _ => usageStatus
  | undecodable .. | message .. => dataInvalidStatus
  | io _ error => ioStatus error
  | transport _ error => transportErrorStatus error
  | channel _ error => channelErrorStatus error

def text : Failure → String
  | duration error => error.message
  | hexInput error => s!"invalid hex input: {error.message}"
  | undecodable what kind error => s!"cannot decode {what} as {kind.name}: {error.message}"
  | io context error => s!"{context}: {error.text}"
  | transport context error => s!"{context}: {transportErrorText error}"
  | message context error => s!"{context}: {error.message}"
  | channel context error => s!"{context}: {channelErrorText error}"

end Failure

def decodeReturn (kind : ArgumentKind) (reply : Message) : Except Failure Argument :=
  match reply.returnValue with
  | .error error => .error (.message "invalid reply" error)
  | .ok payload => (Argument.decodeFrom kind payload).mapError (.undecodable "return value" kind)

end CallWire
