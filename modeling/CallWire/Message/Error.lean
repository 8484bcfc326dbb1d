import CallWire.Text.Digits
import CallWire.Wire.Error

/-!
The two types of message, and the ways in which a byte string fails to be a message or a message
fails to hold a field.
-/

namespace CallWire

inductive MessageType
  | request
  | response
  deriving DecidableEq, Repr

namespace MessageType

def toByte : MessageType → UInt8
  | request => 1
  | response => 2

def ofByte? : UInt8 → Option MessageType
  | 1 => some request
  | 2 => some response
  | _ => none

def name : MessageType → String
  | request => "Request"
  | response => "Response"

end MessageType

inductive MessageError
  | truncated (length minimum : Nat)
  | invalidPreamble (found expected : UInt8)
  | unknownType (byte : UInt8)
  /-- The field belongs to the other type of message. -/
  | wrongType (field : String) (expected : MessageType)
  | wire (error : WireError)
  deriving DecidableEq, Repr

def MessageError.message : MessageError → String
  | truncated length minimum => s!"message truncated ({length} bytes, need at least {minimum})"
  | invalidPreamble found expected =>
    s!"invalid message preamble 0x{upperHexByte found} (expected 0x{upperHexByte expected})"
  | unknownType byte => s!"unknown message type {byte}"
  | wrongType field expected => s!"{field} is only present in {expected.name} messages"
  | wire error => s!"codec error: {error.message}"

def MessageType.ofByte (byte : UInt8) : Except MessageError MessageType :=
  match ofByte? byte with
  | some type => .ok type
  | none => .error (.unknownType byte)

end CallWire
