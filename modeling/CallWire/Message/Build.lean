import CallWire.Message.Basic
import CallWire.Wire.Encoding

/-!
Building messages. The one-step forms encode everything into one buffer sized by the announced
sizes, prefix included: an encoder that writes less leaves zeros at the end, and one that writes
more fails only where the whole buffer is exceeded. The stepwise form gives each argument a region
of its own, drops an argument that fails, and remembers the first failure.
-/

namespace CallWire

/-- A request whose arguments are encoded already. -/
def Message.request (callId : UInt16) (methodId : UInt32) (objectId : UInt64) (args : Bytes) :
    Message :=
  ⟨preambleByte, callId, .request methodId objectId args⟩

def Message.response (callId : UInt16) (value : Bytes) : Message :=
  ⟨preambleByte, callId, .response value⟩

/-- What is put in front of the payload. -/
def headerPart (type : MessageType) (callId : UInt16) : Encodable :=
  ⟨headerSize, [.bytes [preambleByte], .bytes [type.toByte],
    .bytes (Bytes.littleEndian 2 callId.toNat)]⟩

def requestPart (callId : UInt16) (methodId : UInt32) (objectId : UInt64) : Encodable :=
  ⟨requestPrefixSize, (headerPart .request callId).pieces ++
    [.bytes (Bytes.littleEndian 4 methodId.toNat), .bytes (Bytes.littleEndian 8 objectId.toNat)]⟩

/-- Encode a payload behind what is written of a message; the answer is the payload's bytes. -/
def encodePayload (prefixBytes : Bytes) (contents : List Encodable) : Except MessageError Bytes :=
  let space := total (contents.map Encodable.size)
  let writer : Writer := ⟨prefixBytes, List.replicate space 0⟩
  match writer.putAll (contents.flatMap Encodable.pieces) with
  | (after, .ok _) => .ok (after.buffer.drop prefixBytes.length)
  | (_, .error error) => .error (.wire error)

/-- A request with these arguments, encoded in order. -/
def Message.buildRequest (callId : UInt16) (methodId : UInt32) (objectId : UInt64)
    (args : List Encodable) : Except MessageError Message :=
  (encodePayload (Message.request callId methodId objectId []).bytes args).map
    (Message.request callId methodId objectId)

def Message.buildResponse (callId : UInt16) (value : Encodable) : Except MessageError Message :=
  (encodePayload (Message.response callId []).bytes [value]).map (Message.response callId)

structure RequestBuilder where
  callId : UInt16
  methodId : UInt32
  objectId : UInt64
  args : Bytes
  error : Option WireError
  deriving DecidableEq

namespace RequestBuilder

def start (callId : UInt16) (methodId : UInt32) (objectId : UInt64) : RequestBuilder :=
  ⟨callId, methodId, objectId, [], none⟩

/-- Append an argument. After the first failure nothing is appended any more. -/
def arg (b : RequestBuilder) (e : Encodable) : RequestBuilder :=
  match b.error with
  | some _ => b
  | none =>
    match (Writer.onto (List.replicate e.size 0)).putAll e.pieces with
    | (after, .ok _) => { b with args := b.args ++ after.buffer }
    | (_, .error error) => { b with error := some error }

def argsSize (b : RequestBuilder) : Nat := b.args.length

def build (b : RequestBuilder) : Except MessageError Message :=
  match b.error with
  | some error => .error (.wire error)
  | none => .ok (Message.request b.callId b.methodId b.objectId b.args)

end RequestBuilder
end CallWire
