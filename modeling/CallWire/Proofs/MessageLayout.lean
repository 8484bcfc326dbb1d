import CallWire.Proofs.MessageForms
import CallWire.Proofs.WireEncoding

/-! Messages as they lie in their buffers. Every constructor leaves a byte string that is long enough for what its
type byte promises, so that nothing is looked for behind its end, and a field is found just in messages of its type. -/

namespace CallWire

/-- The bytes at a place, if the place lies within the byte string. -/
def Bytes.slice? (data : Bytes) (offset width : Nat) : Option Bytes :=
  if offset + width ≤ data.length then some ((data.drop offset).take width) else none

def Bytes.from? (data : Bytes) (offset : Nat) : Option Bytes :=
  if offset ≤ data.length then some (data.drop offset) else none

/-! What is read of a message at fixed offsets; `none` where that reaches beyond the end. -/

namespace Layout

def preamble? (data : Bytes) : Option UInt8 := data[0]?

def type? (data : Bytes) : Option (Except MessageError MessageType) := data[typeOffset]?.map MessageType.ofByte

def number? (data : Bytes) (offset width : Nat) : Option Nat := (data.slice? offset width).map Bytes.value

def callId? (data : Bytes) : Option UInt16 := (number? data callIdOffset 2).map UInt16.ofNat

/-- A field is read after the type was found to be the one that has it. -/
def field? {α : Type} (data : Bytes) (field : String) (expected : MessageType) (read : Bytes → Option α) :
    Option (Except MessageError α) :=
  match type? data with
  | none => none
  | some (.error error) => some (.error error)
  | some (.ok type) => if type = expected then (read data).map .ok else some (.error (.wrongType field expected))

def methodId? (data : Bytes) : Option (Except MessageError UInt32) :=
  field? data "method_id" .request fun data => (number? data methodIdOffset 4).map UInt32.ofNat

def objectId? (data : Bytes) : Option (Except MessageError UInt64) :=
  field? data "object_id" .request fun data => (number? data objectIdOffset 8).map UInt64.ofNat

def args? (data : Bytes) : Option (Except MessageError Bytes) :=
  field? data "args" .request fun data => data.from? requestPrefixSize

def returnValue? (data : Bytes) : Option (Except MessageError Bytes) :=
  field? data "return_value" .response fun data => data.from? headerSize

def validate? (data : Bytes) : Option (Except MessageError Unit) :=
  match preamble? data with
  | none => none
  | some preamble =>
    if preamble ≠ preambleByte then some (.error (.invalidPreamble preamble preambleByte))
    else (type? data).map fun type => type.map fun _ => ()

def kindText? (data : Bytes) : Option String :=
  match type? data with
  | none => none
  | some (.ok .request) =>
    match methodId? data, objectId? data with
    | some (.ok methodId), some (.ok objectId) =>
      some s!"type: Request, method_id: {methodId}, object_id: {objectId}"
    | some _, some _ => some "type: Request"
    | _, _ => none
  | some (.ok .response) => some "type: Response"
  | some (.error _) => data[typeOffset]?.map fun byte => s!"type: {byte}"

def debugText? (data : Bytes) : Option String :=
  match callId? data, kindText? data with
  | some callId, some kind => some s!"Message \x7b call_id: {callId}, {kind}, len: {data.length} \x7d"
  | _, _ => none

/-- Everything there is to read lies within the bytes, and is what the message holds. -/
structure Reads (data : Bytes) (m : Message) : Prop where
  preamble : preamble? data = some m.preamble
  type : type? data = some m.type
  callId : callId? data = some m.callId
  methodId : methodId? data = some m.methodId
  objectId : objectId? data = some m.objectId
  args : args? data = some m.args
  returnValue : returnValue? data = some m.returnValue
  validate : validate? data = some m.validate
  debugText : debugText? data = some m.debugText

end Layout

namespace Message

theorem headerSize_le_length (m : Message) : headerSize ≤ m.bytes.length :=
  Nat.le_trans (headerSize_le_minimumLength m.bytes) m.minimumLength_bytes

/-- The type byte promises a length, and the bytes keep it. -/
theorem prefixSize_le_length {m : Message} {type : MessageType} (own : m.body.typeByte = type.toByte) :
    type.prefixSize ≤ m.bytes.length := by
  have long := m.minimumLength_bytes
  rw [minimumLength, m.bytes_front.2, own] at long
  simpa only [Option.bind_some, MessageType.ofByte?_toByte] using long

theorem type_eq_ok {m : Message} {type : MessageType} : m.type = .ok type ↔ m.body.typeByte = type.toByte := by
  rw [← MessageType.ofByte?_eq_some]
  unfold Message.type MessageType.ofByte
  cases MessageType.ofByte? m.body.typeByte with
  | none => simp
  | some other => simp

theorem body_of_request {m : Message} (own : m.type = .ok .request) :
    ∃ methodId objectId args, m.body = .request methodId objectId args := by
  have byte := type_eq_ok.mp own
  cases body : m.body with
  | request methodId objectId args => exact ⟨methodId, objectId, args, rfl⟩
  | response value =>
    rw [body] at byte
    cases byte
  | unknown other rest isUnknown =>
    rw [body] at byte
    cases isUnknown.symm.trans (MessageType.ofByte?_eq_some.mpr byte)

theorem body_of_response {m : Message} (own : m.type = .ok .response) : ∃ value, m.body = .response value := by
  have byte := type_eq_ok.mp own
  cases body : m.body with
  | response value => exact ⟨value, rfl⟩
  | request methodId objectId args =>
    rw [body] at byte
    cases byte
  | unknown other rest isUnknown =>
    rw [body] at byte
    cases isUnknown.symm.trans (MessageType.ofByte?_eq_some.mpr byte)

/-- A field of messages of one type. The others say what they are instead. -/
structure Holds {α : Type} (m : Message) (field : String) (expected : MessageType) (found : Except MessageError α) :
    Prop where
  present : m.type = .ok expected → ∃ a, found = .ok a
  missing : m.type ≠ .ok expected → found = .error (m.missing field expected)

theorem holds_of_request {α : Type} {m : Message} {field : String} {found : Except MessageError α}
    (there : ∀ methodId objectId args, m.body = .request methodId objectId args → ∃ a, found = .ok a)
    (missing : (∀ methodId objectId args, m.body ≠ .request methodId objectId args) →
      found = .error (m.missing field .request)) : m.Holds field .request found := by
  constructor
  · intro own
    obtain ⟨methodId, objectId, args, body⟩ := body_of_request own
    exact there methodId objectId args body
  · intro other
    apply missing
    intro methodId objectId args body
    apply other
    rw [type_eq_ok, body]
    rfl

theorem methodId_holds (m : Message) : m.Holds "method_id" .request m.methodId := by
  apply holds_of_request
  · intro methodId objectId args body
    exact ⟨methodId, by rw [Message.methodId, body]⟩
  · intro other
    unfold Message.methodId
    split
    · exact absurd ‹_› (other _ _ _)
    · rfl

theorem objectId_holds (m : Message) : m.Holds "object_id" .request m.objectId := by
  apply holds_of_request
  · intro methodId objectId args body
    exact ⟨objectId, by rw [Message.objectId, body]⟩
  · intro other
    unfold Message.objectId
    split
    · exact absurd ‹_› (other _ _ _)
    · rfl

theorem args_holds (m : Message) : m.Holds "args" .request m.args := by
  apply holds_of_request
  · intro methodId objectId args body
    exact ⟨args, by rw [Message.args, body]⟩
  · intro other
    unfold Message.args
    split
    · exact absurd ‹_› (other _ _ _)
    · rfl

theorem returnValue_holds (m : Message) : m.Holds "return_value" .response m.returnValue := by
  constructor
  · intro own
    obtain ⟨value, body⟩ := body_of_response own
    exact ⟨value, by rw [Message.returnValue, body]⟩
  · intro other
    unfold Message.returnValue
    split
    · rename_i value body
      refine absurd ?_ other
      rw [type_eq_ok, body]
      rfl
    · rfl

end Message

namespace Layout

theorem slice?_of_le {data : Bytes} {offset width : Nat} (inside : offset + width ≤ data.length) :
    data.slice? offset width = some ((data.drop offset).take width) := if_pos inside

/-- A request has room for all its fields, and they are what its body holds. -/
theorem request_fields {m : Message} (own : m.type = .ok .request) :
    ∃ methodId objectId args, m.body = .request methodId objectId args ∧
      (number? m.bytes methodIdOffset 4).map UInt32.ofNat = some methodId ∧
      (number? m.bytes objectIdOffset 8).map UInt64.ofNat = some objectId ∧
      m.bytes.from? requestPrefixSize = some args := by
  obtain ⟨methodId, objectId, args, body⟩ := Message.body_of_request own
  have long : requestPrefixSize ≤ m.bytes.length := Message.prefixSize_le_length (Message.type_eq_ok.mp own)
  have short : methodIdOffset + 4 ≤ m.bytes.length := Nat.le_trans (by decide) long
  have rest : m.bytes.drop headerSize = m.body.bytes := by simp [Message.bytes, headerSize]
  have parsed : Body.request (UInt32.ofNat (Bytes.value (m.body.bytes.take 4)))
      (UInt64.ofNat (Bytes.value ((m.body.bytes.drop 4).take 8))) (m.body.bytes.drop 12) =
        .request methodId objectId args := by
    rw [body]
    exact Body.ofBytes_bytes (.request methodId objectId args)
  rw [← rest, List.drop_drop, List.drop_drop] at parsed
  obtain ⟨first, second, third⟩ := Body.request.inj parsed
  refine ⟨methodId, objectId, args, body, ?_, ?_, ?_⟩
  · rw [number?, slice?_of_le short]
    exact congrArg some first
  · rw [number?, slice?_of_le long]
    exact congrArg some second
  · rw [Bytes.from?, if_pos long]
    exact congrArg some third

theorem callId?_bytes (m : Message) : callId? m.bytes = some m.callId := by
  have parsed := Message.ofBytes_bytes m
  rw [Message.ofBytes, if_neg (Nat.not_lt.mpr m.minimumLength_bytes)] at parsed
  have own := congrArg Message.callId (Except.ok.inj parsed)
  rw [callId?, number?, slice?_of_le m.headerSize_le_length]
  exact congrArg some own

theorem validate?_bytes (m : Message) : validate? m.bytes = some m.validate := by
  have front : preamble? m.bytes = some m.preamble := rfl
  have type : type? m.bytes = some m.type := rfl
  rw [validate?, front, type, Message.validate]
  by_cases wrong : m.preamble ≠ preambleByte
  · simp only [if_pos wrong]
  · simp only [if_neg wrong, Option.map_some]

/-- A field is read where the type is right, and else the failure is the one that the message tells. -/
theorem field?_bytes {α : Type} {m : Message} {field : String} {expected : MessageType} {read : Bytes → Option α}
    {found : Except MessageError α} (holds : m.Holds field expected found)
    (reads : ∀ a, m.type = .ok expected → found = .ok a → read m.bytes = some a) :
    field? m.bytes field expected read = some found := by
  have type : type? m.bytes = some m.type := rfl
  rw [field?, type]
  by_cases own : m.type = .ok expected
  · obtain ⟨a, rfl⟩ := holds.present own
    simp only [own, if_true, reads a own rfl, Option.map_some]
  · rw [holds.missing own, Message.missing]
    cases known : m.type with
    | error error => rfl
    | ok type =>
      have other : type ≠ expected := by
        intro same
        exact own (known.trans (congrArg _ same))
      simp only [if_neg other]

theorem methodId?_bytes (m : Message) : methodId? m.bytes = some m.methodId := by
  apply field?_bytes m.methodId_holds
  intro found own same
  obtain ⟨methodId, objectId, args, body, read, -, -⟩ := request_fields own
  rw [Message.methodId, body] at same
  cases same
  exact read

theorem objectId?_bytes (m : Message) : objectId? m.bytes = some m.objectId := by
  apply field?_bytes m.objectId_holds
  intro found own same
  obtain ⟨methodId, objectId, args, body, -, read, -⟩ := request_fields own
  rw [Message.objectId, body] at same
  cases same
  exact read

theorem args?_bytes (m : Message) : args? m.bytes = some m.args := by
  apply field?_bytes m.args_holds
  intro found own same
  obtain ⟨methodId, objectId, args, body, -, -, read⟩ := request_fields own
  rw [Message.args, body] at same
  cases same
  exact read

theorem returnValue?_bytes (m : Message) : returnValue? m.bytes = some m.returnValue := by
  apply field?_bytes m.returnValue_holds
  intro found own same
  obtain ⟨value, body⟩ := Message.body_of_response own
  rw [Message.returnValue, body] at same
  cases same
  rw [Bytes.from?, if_pos m.headerSize_le_length]
  simp [Message.bytes, headerSize, body, Body.bytes]

theorem debugText?_bytes (m : Message) : debugText? m.bytes = some m.debugText := by
  have type : type? m.bytes = some m.type := rfl
  have own := methodId?_bytes m
  have own' := objectId?_bytes m
  unfold debugText? kindText?
  rw [callId?_bytes, type, own, own']
  unfold Message.methodId Message.objectId Message.debugText
  cases body : m.body with
  | request methodId objectId args =>
    have known : m.type = .ok .request := by
      rw [Message.type_eq_ok, body]
      rfl
    rw [known]
    rfl
  | response value =>
    have known : m.type = .ok .response := by
      rw [Message.type_eq_ok, body]
      rfl
    rw [known]
    rfl
  | unknown byte rest isUnknown =>
    have known : m.type = .error (.unknownType byte) := by
      rw [Message.type, body]
      simp only [Body.typeByte, MessageType.ofByte, isUnknown]
    have second : m.bytes[typeOffset]? = some byte := by
      rw [show m.bytes[typeOffset]? = some m.body.typeByte from m.bytes_front.2, body]
      rfl
    rw [known]
    simp only [second, Option.map_some]
    rfl

theorem reads (m : Message) : Reads m.bytes m where
  preamble := rfl
  type := rfl
  callId := callId?_bytes m
  methodId := methodId?_bytes m
  objectId := objectId?_bytes m
  args := args?_bytes m
  returnValue := returnValue?_bytes m
  validate := validate?_bytes m
  debugText := debugText?_bytes m

end Layout

/-! The constructors, by the buffers that they fill. -/

namespace Writer

theorem putAll_append (w : Writer) (first second : List Piece) :
    w.putAll (first ++ second) =
      match w.putAll first with
      | (next, .ok _) => next.putAll second
      | (next, .error error) => (next, .error error) := by
  induction first generalizing w with
  | nil => rfl
  | cons piece rest ih =>
    rw [List.cons_append, putAll, putAll]
    cases w.put piece with
    | ok next => exact ih next
    | error error => rfl

end Writer

/-- A buffer of the size that all parts announce together, with the parts put into it one after the other. -/
def fill (parts : List Encodable) : Except MessageError Bytes :=
  match (Writer.onto (List.replicate (total (parts.map Encodable.size)) 0)).putAll (parts.flatMap Encodable.pieces) with
  | (after, .ok _) => .ok after.buffer
  | (_, .error error) => .error (.wire error)

/-- Behind an honest first part the rest is filled as if it were alone. -/
theorem fill_cons {front : Encodable} {image : Bytes} (plain : ∀ piece ∈ front.pieces, piece.IsPlain)
    (own : front.pieces.flatMap Piece.image = image) (honest : image.length = front.size) (contents : List Encodable) :
    fill (front :: contents) = (encodePayload image contents).map (image ++ ·) := by
  have room : total ((front :: contents).map Encodable.size) = front.size + total (contents.map Encodable.size) := rfl
  rw [fill, room, encodePayload, List.flatMap_cons, Writer.putAll_append]
  generalize total (contents.map Encodable.size) = space
  have fits : (front.pieces.flatMap Piece.image).length ≤
      (Writer.onto (List.replicate (front.size + space) 0)).free.length := by
    simp [Writer.onto, own, honest]
  have first : (Writer.onto (List.replicate (front.size + space) 0)).putAll front.pieces =
      (⟨image, List.replicate space 0⟩, .ok ()) := by
    rw [Writer.putAll_plain plain fits, own, honest]
    simp [Writer.onto]
  obtain ⟨content, written, -⟩ :=
    Writer.putAll_extends ⟨image, List.replicate space 0⟩ (contents.flatMap Encodable.pieces)
  simp only [first]
  generalize Writer.putAll ⟨image, List.replicate space 0⟩ (contents.flatMap Encodable.pieces) = done at written
  obtain ⟨after, result⟩ := done
  cases result with
  | error error => rfl
  | ok =>
    have whole : image ++ after.buffer.drop image.length = after.buffer := by
      rw [Writer.buffer, show after.written = image ++ content from written, List.append_assoc, List.drop_left]
    exact congrArg Except.ok whole.symm

/-- How a message can come about: from received bytes, by encoding, or with what was encoded before. -/
inductive Origin
  | received (input : Bytes)
  | request (callId : UInt16) (methodId : UInt32) (objectId : UInt64) (args : List Encodable)
  | response (callId : UInt16) (value : Encodable)
  | encodedRequest (callId : UInt16) (methodId : UInt32) (objectId : UInt64) (args : Bytes)
  | encodedResponse (callId : UInt16) (value : Bytes)
  | stepwise (callId : UInt16) (methodId : UInt32) (objectId : UInt64) (args : List Encodable)

namespace Origin

def message : Origin → Except MessageError Message
  | received input => Message.ofBytes input
  | request callId methodId objectId args => Message.buildRequest callId methodId objectId args
  | response callId value => Message.buildResponse callId value
  | encodedRequest callId methodId objectId args => .ok (Message.request callId methodId objectId args)
  | encodedResponse callId value => .ok (Message.response callId value)
  | stepwise callId methodId objectId args => (args.foldl RequestBuilder.arg (.start callId methodId objectId)).build

/-- The bytes that the constructor makes the message of. -/
def buffer : Origin → Except MessageError Bytes
  | received input =>
    if input.length < Message.minimumLength input then .error (.truncated input.length (Message.minimumLength input))
    else .ok input
  | request callId methodId objectId args => fill (requestPart callId methodId objectId :: args)
  | response callId value => fill [headerPart .response callId, value]
  | encodedRequest callId methodId objectId args =>
    fill [requestPart callId methodId objectId, .ofContent args.length args none]
  | encodedResponse callId value => fill [headerPart .response callId, .ofContent value.length value none]
  | stepwise callId methodId objectId args =>
    let b := args.foldl RequestBuilder.arg (.start callId methodId objectId)
    match b.error with
    | some error => .error (.wire error)
    | none => fill [requestPart b.callId b.methodId b.objectId, .ofContent b.args.length b.args none]

theorem fill_request (callId : UInt16) (methodId : UInt32) (objectId : UInt64) (args : List Encodable) :
    fill (requestPart callId methodId objectId :: args) =
      (encodePayload (Message.request callId methodId objectId []).bytes args).map
        ((Message.request callId methodId objectId []).bytes ++ ·) := by
  apply fill_cons
  · simp [requestPart, headerPart, Piece.IsPlain]
  · simp [requestPart, headerPart, Piece.image, Message.request, Message.bytes, Body.typeByte, Body.bytes]
  · simp [requestPart, requestPrefixSize, Message.request, Message.bytes, Body.bytes]

theorem fill_response (callId : UInt16) (contents : List Encodable) :
    fill (headerPart .response callId :: contents) =
      (encodePayload (Message.response callId []).bytes contents).map ((Message.response callId []).bytes ++ ·) := by
  apply fill_cons
  · simp [headerPart, Piece.IsPlain]
  · simp [headerPart, Piece.image, Message.response, Message.bytes, Body.typeByte, Body.bytes]
  · simp [headerPart, headerSize, Message.response, Message.bytes, Body.bytes]

theorem encodePayload_content (image content : Bytes) :
    encodePayload image [.ofContent content.length content none] = .ok content := by
  let w : Writer := ⟨image, List.replicate content.length 0⟩
  have put : w.putAll [.bytes content] = (⟨image ++ content, []⟩, .ok ()) := by
    simp [w, Writer.putAll, Writer.put, Writer.putBytes, Writer.remaining]
  have same : encodePayload image [.ofContent content.length content none] =
      match w.putAll [.bytes content] with
      | (after, .ok _) => .ok (after.buffer.drop image.length)
      | (_, .error error) => .error (.wire error) := rfl
  rw [same, put]
  simp [Writer.buffer]

theorem request_bytes (callId : UInt16) (methodId : UInt32) (objectId : UInt64) (args : Bytes) :
    (Message.request callId methodId objectId args).bytes = (Message.request callId methodId objectId []).bytes ++ args := by
  simp [Message.request, Message.bytes, Body.bytes, Body.typeByte]

theorem response_bytes (callId : UInt16) (value : Bytes) :
    (Message.response callId value).bytes = (Message.response callId []).bytes ++ value := by
  simp [Message.response, Message.bytes, Body.bytes, Body.typeByte]

theorem buffer_eq (origin : Origin) : origin.buffer = origin.message.map Message.bytes := by
  cases origin with
  | received input =>
    rw [buffer, message]
    by_cases short : input.length < Message.minimumLength input
    · rw [if_pos short, Message.ofBytes, if_pos short]
      rfl
    · obtain ⟨m, parsed⟩ := Message.exists_of_length (Nat.not_lt.mp short)
      rw [if_neg short, parsed, Except.map, Message.bytes_of_ofBytes parsed]
  | request callId methodId objectId args =>
    rw [buffer, fill_request, message, Message.buildRequest]
    cases encodePayload (Message.request callId methodId objectId []).bytes args with
    | error error => rfl
    | ok payload => exact congrArg Except.ok (request_bytes callId methodId objectId payload).symm
  | response callId value =>
    rw [buffer, fill_response, message, Message.buildResponse]
    cases encodePayload (Message.response callId []).bytes [value] with
    | error error => rfl
    | ok payload => exact congrArg Except.ok (response_bytes callId payload).symm
  | encodedRequest callId methodId objectId args =>
    rw [buffer, fill_request, encodePayload_content, message]
    exact congrArg Except.ok (request_bytes callId methodId objectId args).symm
  | encodedResponse callId value =>
    rw [buffer, fill_response, encodePayload_content, message]
    exact congrArg Except.ok (response_bytes callId value).symm
  | stepwise callId methodId objectId args =>
    rw [buffer, message, RequestBuilder.build]
    cases (args.foldl RequestBuilder.arg (.start callId methodId objectId)).error with
    | some error => rfl
    | none =>
      simp only [fill_request, encodePayload_content]
      exact congrArg Except.ok (request_bytes _ _ _ _).symm

end Origin

/-- A field that is there just where the type byte is the right one, and else is said to be missing or not known. -/
structure Message.Guarded {α : Type} (byte : UInt8) (field : String) (expected : MessageType)
    (found : Except MessageError α) : Prop where
  present : (∃ a, found = .ok a) ↔ byte = expected.toByte
  other : ∀ type, type ≠ expected → byte = type.toByte → found = .error (.wrongType field expected)
  unknown : byte ≠ 1 → byte ≠ 2 → found = .error (.unknownType byte)

theorem MessageType.ofByte?_eq_none {byte : UInt8} (first : byte ≠ 1) (second : byte ≠ 2) : ofByte? byte = none := by
  cases known : ofByte? byte with
  | none => rfl
  | some type =>
    have own := ofByte?_eq_some.mp known
    cases type with
    | request => exact absurd own first
    | response => exact absurd own second

namespace Message

theorem Holds.guarded {α : Type} {m : Message} {field : String} {expected : MessageType} {found : Except MessageError α}
    (holds : m.Holds field expected found) : Guarded m.body.typeByte field expected found := by
  have absent : ∀ {answer}, m.type = answer → answer ≠ .ok expected → found = .error (m.missing field expected) := by
    intro answer known different
    apply holds.missing
    rwa [known]
  constructor
  · constructor
    · intro present
      obtain ⟨a, own⟩ := present
      apply type_eq_ok.mp
      apply Classical.byContradiction
      intro other
      cases own.symm.trans (holds.missing other)
    · intro own
      exact holds.present (type_eq_ok.mpr own)
  · intro type different own
    have known : m.type = .ok type := type_eq_ok.mpr own
    rw [absent known (by simpa using different), Message.missing, known]
  · intro first second
    have known : m.type = .error (.unknownType m.body.typeByte) := by
      rw [type, MessageType.ofByte, MessageType.ofByte?_eq_none first second]
    rw [absent known nofun, Message.missing, known]

end Message

/-- Whatever a message comes from, its bytes are long enough for their type byte. So every field, the outcome of the
check and the text for logs are read within bounds, and agree with what the message holds. -/
theorem Origin.reads_in_bounds (origin : Origin) :
    origin.buffer = origin.message.map Message.bytes ∧
    ∀ data, origin.buffer = .ok data →
      4 ≤ data.length ∧ (data[1]? = some 1 → 16 ≤ data.length) ∧
      ∃ m byte, origin.message = .ok m ∧ data[1]? = some byte ∧ Layout.Reads data m ∧
        Message.Guarded byte "method_id" .request m.methodId ∧ Message.Guarded byte "object_id" .request m.objectId ∧
        Message.Guarded byte "args" .request m.args ∧ Message.Guarded byte "return_value" .response m.returnValue := by
  refine ⟨origin.buffer_eq, ?_⟩
  intro data filled
  rw [origin.buffer_eq] at filled
  cases made : origin.message with
  | error error =>
    rw [made] at filled
    cases filled
  | ok m =>
    rw [made] at filled
    cases filled
    refine ⟨m.headerSize_le_length, ?_, m, m.body.typeByte, rfl, m.bytes_front.2, Layout.reads m, ?_⟩
    · intro request
      have own : m.body.typeByte = MessageType.request.toByte := Option.some.inj (m.bytes_front.2.symm.trans request)
      exact Message.prefixSize_le_length own
    · exact ⟨m.methodId_holds.guarded, m.objectId_holds.guarded, m.args_holds.guarded, m.returnValue_holds.guarded⟩

/-- An argument that puts one byte of the two it announces, and received bytes with a wrong preamble and a type that
is not known. -/
theorem Origin.reads_in_bounds_of_odd_messages :
    let sparse : Origin := .stepwise 7 2 3 [⟨2, [.bytes [9]]⟩]
    let odd : Origin := .received [0, 9, 1, 0]
    sparse.buffer = .ok [0x43, 1, 7, 0, 2, 0, 0, 0, 3, 0, 0, 0, 0, 0, 0, 0, 9, 0] ∧ odd.buffer = .ok [0, 9, 1, 0] ∧
      (∃ m, sparse.message = .ok m ∧ ∃ id, m.methodId = .ok id) ∧
      ∃ m, odd.message = .ok m ∧ m.methodId = .error (.unknownType 9) := by
  intro sparse odd
  have filled : sparse.buffer = .ok [0x43, 1, 7, 0, 2, 0, 0, 0, 3, 0, 0, 0, 0, 0, 0, 0, 9, 0] := rfl
  have received : odd.buffer = .ok [0, 9, 1, 0] := rfl
  obtain ⟨-, -, m, byte, made, second, -, field, -⟩ := (reads_in_bounds sparse).2 _ filled
  obtain ⟨-, -, m', byte', made', second', -, field', -⟩ := (reads_in_bounds odd).2 _ received
  obtain rfl : 1 = byte := Option.some.inj second
  obtain rfl : 9 = byte' := Option.some.inj second'
  exact ⟨filled, received, ⟨m, made, field.present.mpr rfl⟩, m', made', field'.unknown (by decide) (by decide)⟩

end CallWire
