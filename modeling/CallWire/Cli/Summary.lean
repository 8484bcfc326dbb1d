import CallWire.Argument.Basic
import CallWire.Bytes.Hex
import CallWire.Message.Basic

/-!
What is told about a message: its fields, its payload, and the value in it if that was decoded.
-/

namespace CallWire

/-- The ids of method and object are there for a request only. The payload stands in hex in what
is told as text; the bytes themselves are kept to be written as they are. -/
structure Summary where
  typeName : String
  callId : UInt16
  methodId : Option UInt32
  objectId : Option UInt64
  payloadSize : Nat
  payloadHex : String
  value : Option String
  payload : Bytes
  deriving DecidableEq, Repr

namespace Summary

/-- The decoded value is kept as JSON writes it. -/
def ofFields (typeName : String) (callId : UInt16) (methodId : Option UInt32)
    (objectId : Option UInt64) (payload : Bytes) (value : Option Argument) : Summary where
  typeName := typeName
  callId := callId
  methodId := methodId
  objectId := objectId
  payloadSize := payload.length
  payloadHex := Hex.encode payload
  value := value.map Argument.json
  payload := payload

def ofMessage (m : Message) (value : Option Argument) : Except MessageError Summary :=
  match m.body with
  | .request method object args =>
    .ok (ofFields "request" m.callId (some method) (some object) args value)
  | .response payload => .ok (ofFields "response" m.callId none none payload value)
  | .unknown byte .. => .error (.unknownType byte)

/-- The members of the JSON object, each with its value as it is written. Fields that are not
there are left out. -/
def members (s : Summary) : List (String × String) :=
  [("type", jsonString s.typeName), ("call_id", toString s.callId)] ++
    (s.methodId.map fun method => ("method_id", toString method)).toList ++
    (s.objectId.map fun object => ("object_id", toString object)).toList ++
    [("payload_size", toString s.payloadSize), ("payload_hex", jsonString s.payloadHex)] ++
    (s.value.map fun value => ("value", value)).toList

def json (s : Summary) : String := jsonObject s.members

end Summary
end CallWire
