import CallWire.Bytes
import CallWire.Message.Error

/-!
Messages. A message starts with a preamble byte, a type byte and a call id; a request goes on with
a method id, an object id and encoded arguments, a response with an encoded value. A byte string is
a message as soon as it is long enough for its type byte: a wrong preamble or an unknown type is
held as it came, and found by `Message.validate`.
-/

namespace CallWire

/-- The first byte of every valid message. -/
def preambleByte : UInt8 := 0x43

/-- Preamble, type and call id. -/
def headerSize : Nat := 4

/-- Header, method id and object id: where the arguments of a request start. -/
def requestPrefixSize : Nat := 16

/-- Where the fields of a message start. -/
def typeOffset : Nat := 1

def callIdOffset : Nat := 2

def methodIdOffset : Nat := headerSize

def objectIdOffset : Nat := methodIdOffset + 4

/-- The object id of the service itself. -/
def rootObject : UInt64 := 0

def MessageType.prefixSize : MessageType → Nat
  | request => requestPrefixSize
  | response => headerSize

/-- What follows the call id, by type. -/
inductive Body
  | request (methodId : UInt32) (objectId : UInt64) (args : Bytes)
  | response (value : Bytes)
  | unknown (typeByte : UInt8) (rest : Bytes) (isUnknown : MessageType.ofByte? typeByte = none)
  deriving DecidableEq

namespace Body

def typeByte : Body → UInt8
  | request .. => MessageType.request.toByte
  | response .. => MessageType.response.toByte
  | unknown byte .. => byte

def bytes : Body → Bytes
  | request methodId objectId args =>
    Bytes.littleEndian 4 methodId.toNat ++ (Bytes.littleEndian 8 objectId.toNat ++ args)
  | response value => value
  | unknown _ rest _ => rest

def ofBytes (typeByte : UInt8) (rest : Bytes) : Body :=
  match known : MessageType.ofByte? typeByte with
  | some .request =>
    .request (UInt32.ofNat (Bytes.value (rest.take 4)))
      (UInt64.ofNat (Bytes.value ((rest.drop 4).take 8))) (rest.drop 12)
  | some .response => .response rest
  | none => .unknown typeByte rest known

end Body

structure Message where
  preamble : UInt8
  callId : UInt16
  body : Body
  deriving DecidableEq

namespace Message

def bytes (m : Message) : Bytes :=
  m.preamble :: m.body.typeByte :: (Bytes.littleEndian 2 m.callId.toNat ++ m.body.bytes)

def length (m : Message) : Nat := m.bytes.length

/-- The fewest bytes that can be a message, judged by the type byte if there is one. -/
def minimumLength (input : Bytes) : Nat :=
  match input[1]?.bind MessageType.ofByte? with
  | some type => type.prefixSize
  | none => headerSize

/-- The message with these bytes. Only the length is checked. -/
def ofBytes (input : Bytes) : Except MessageError Message :=
  if input.length < minimumLength input then
    .error (.truncated input.length (minimumLength input))
  else
    .ok
      { preamble := input.headD 0
        callId := UInt16.ofNat (Bytes.value ((input.drop callIdOffset).take 2))
        body := .ofBytes ((input.drop typeOffset).headD 0) (input.drop headerSize) }

def type (m : Message) : Except MessageError MessageType :=
  MessageType.ofByte m.body.typeByte

/-- A message is valid if its preamble is right and its type known, looked at in this order. -/
def validate (m : Message) : Except MessageError Unit :=
  if m.preamble ≠ preambleByte then
    .error (.invalidPreamble m.preamble preambleByte)
  else
    m.type.map fun _ => ()

def isRequest (m : Message) : Bool :=
  match m.body with
  | .request .. => true
  | _ => false

def isResponse (m : Message) : Bool :=
  match m.body with
  | .response .. => true
  | _ => false

/-- Why a field of the other type is not there. -/
def missing (m : Message) (field : String) (expected : MessageType) : MessageError :=
  match m.type with
  | .ok _ => .wrongType field expected
  | .error error => error

def methodId (m : Message) : Except MessageError UInt32 :=
  match m.body with
  | .request id _ _ => .ok id
  | _ => .error (m.missing "method_id" .request)

def objectId (m : Message) : Except MessageError UInt64 :=
  match m.body with
  | .request _ id _ => .ok id
  | _ => .error (m.missing "object_id" .request)

def args (m : Message) : Except MessageError Bytes :=
  match m.body with
  | .request _ _ args => .ok args
  | _ => .error (m.missing "args" .request)

def returnValue (m : Message) : Except MessageError Bytes :=
  match m.body with
  | .response value => .ok value
  | _ => .error (m.missing "return_value" .response)

/-- A line for logs: the fields by name, and an unknown type by its byte. -/
def debugText (m : Message) : String :=
  let kind :=
    match m.body with
    | .request methodId objectId _ =>
      s!"type: Request, method_id: {methodId}, object_id: {objectId}"
    | .response _ => "type: Response"
    | .unknown byte _ _ => s!"type: {byte}"
  s!"Message \x7b call_id: {m.callId}, {kind}, len: {m.length} \x7d"

end Message
end CallWire
