import CallWire.Message.Build
import CallWire.Message.Lemmas

/-! Parsing and building messages undo each other. Validity is decided by the first two bytes and the
length alone, and a valid message is rebuilt from what its accessors yield. -/

namespace CallWire

theorem MessageType.ofByte?_eq_some {byte : UInt8} {type : MessageType} :
    ofByte? byte = some type ↔ byte = type.toByte := by
  constructor
  · intro known
    exact (toByte_of_ofByte? known).symm
  · rintro rfl
    exact ofByte?_toByte type

namespace Message

def ValidForm (input : Bytes) : Prop :=
  input[0]? = some 0x43 ∧
    (input[1]? = some 1 ∧ 16 ≤ input.length ∨ input[1]? = some 2 ∧ 4 ≤ input.length)

/-- The message built anew from the fields that the accessors yield. -/
def rebuild (m : Message) : Except MessageError Message := do
  match ← m.type with
  | .request => return request m.callId (← m.methodId) (← m.objectId) (← m.args)
  | .response => return response m.callId (← m.returnValue)

theorem minimumLength_eq (input : Bytes) : minimumLength input = if input[1]? = some 1 then 16 else 4 := by
  unfold minimumLength
  cases second : input[1]? with
  | none => rfl
  | some byte =>
    cases known : MessageType.ofByte? byte with
    | none =>
      have other : byte ≠ 1 := by
        rintro rfl
        cases known
      simp [known, other, headerSize]
    | some type =>
      obtain rfl := MessageType.ofByte?_eq_some.mp known
      cases type <;> rfl

theorem ofBytes_error {input : Bytes} {error : MessageError} :
    ofBytes input = .error error ↔
      input.length < minimumLength input ∧ error = .truncated input.length (minimumLength input) := by
  unfold ofBytes
  split
  · rename_i short
    constructor
    · intro failed
      cases failed
      exact ⟨short, rfl⟩
    · rintro ⟨_, rfl⟩
      rfl
  · rename_i long
    exact ⟨fun failed => (nomatch failed), fun failed => absurd failed.1 long⟩

theorem exists_of_length {input : Bytes} (long : minimumLength input ≤ input.length) :
    ∃ m, ofBytes input = .ok m := by
  cases parsed : ofBytes input with
  | ok m => exact ⟨m, rfl⟩
  | error error => exact absurd (ofBytes_error.mp parsed).1 (Nat.not_lt.mpr long)

theorem length_of_ofBytes {input : Bytes} {m : Message} (parsed : ofBytes input = .ok m) :
    minimumLength input ≤ input.length := by
  have own := bytes_of_ofBytes parsed
  exact own ▸ m.minimumLength_bytes

theorem validate_eq_ok {m : Message} :
    m.validate = .ok () ↔ m.preamble = 0x43 ∧ ∃ type : MessageType, m.body.typeByte = type.toByte := by
  unfold validate type MessageType.ofByte
  split
  · rename_i wrong
    exact ⟨fun valid => (nomatch valid), fun valid => absurd valid.1 wrong⟩
  · rename_i right
    cases known : MessageType.ofByte? m.body.typeByte with
    | none =>
      refine ⟨fun valid => (nomatch valid), ?_⟩
      rintro ⟨_, type, own⟩
      rw [own, MessageType.ofByte?_toByte] at known
      cases known
    | some type => exact ⟨fun _ => ⟨Decidable.not_not.mp right, type, MessageType.ofByte?_eq_some.mp known⟩, fun _ => rfl⟩

theorem bytes_front (m : Message) : m.bytes[0]? = some m.preamble ∧ m.bytes[1]? = some m.body.typeByte :=
  ⟨rfl, rfl⟩

theorem accepted_iff_validForm (input : Bytes) :
    (∃ m, ofBytes input = .ok m ∧ m.validate = .ok ()) ↔ ValidForm input := by
  constructor
  · rintro ⟨m, parsed, valid⟩
    obtain ⟨preamble, type, own⟩ := validate_eq_ok.mp valid
    have long := length_of_ofBytes parsed
    have front := m.bytes_front
    rw [bytes_of_ofBytes parsed, preamble, own] at front
    rw [minimumLength_eq, front.2] at long
    refine ⟨front.1, ?_⟩
    cases type with
    | request => exact .inl ⟨front.2, long⟩
    | response => exact .inr ⟨front.2, long⟩
  · rintro ⟨preamble, kind⟩
    have long : minimumLength input ≤ input.length := by
      rw [minimumLength_eq]
      rcases kind with ⟨second, long⟩ | ⟨second, long⟩
      · simpa [second] using long
      · simpa [second] using long
    obtain ⟨m, parsed⟩ := exists_of_length long
    have front := m.bytes_front
    rw [bytes_of_ofBytes parsed] at front
    refine ⟨m, parsed, validate_eq_ok.mpr ⟨?_, ?_⟩⟩
    · exact Option.some.inj (front.1.symm.trans preamble)
    · rcases kind with ⟨second, _⟩ | ⟨second, _⟩
      · exact ⟨.request, Option.some.inj (front.2.symm.trans second)⟩
      · exact ⟨.response, Option.some.inj (front.2.symm.trans second)⟩

theorem eq_request_or_response {m : Message} (valid : m.validate = .ok ()) :
    (∃ callId methodId objectId args, m = request callId methodId objectId args) ∨
      ∃ callId value, m = response callId value := by
  obtain ⟨preamble, type, own⟩ := validate_eq_ok.mp valid
  obtain ⟨first, callId, body⟩ := m
  cases preamble
  cases body with
  | request methodId objectId args => exact .inl ⟨callId, methodId, objectId, args, rfl⟩
  | response value => exact .inr ⟨callId, value, rfl⟩
  | unknown byte rest isUnknown =>
    have known := MessageType.ofByte?_eq_some.mpr own
    cases isUnknown.symm.trans known

theorem rebuild_of_validate {m : Message} (valid : m.validate = .ok ()) : m.rebuild = .ok m := by
  rcases eq_request_or_response valid with ⟨callId, methodId, objectId, args, rfl⟩ | ⟨callId, value, rfl⟩
  · rfl
  · rfl

/-- Parsing accepts just the valid forms and loses nothing; building yields valid forms, from which every
field reads back; and the one complaint of parsing is about the length. -/
theorem parsing_inverts_building :
    (∀ input, (∃ m, ofBytes input = .ok m ∧ m.validate = .ok ()) ↔ ValidForm input) ∧
    (∀ input m, ofBytes input = .ok m → m.validate = .ok () →
      m.bytes = input ∧ ∃ again, m.rebuild = .ok again ∧ again.bytes = input) ∧
    (∀ callId methodId objectId args,
      (request callId methodId objectId args).bytes =
        [0x43, 1] ++ Bytes.littleEndian 2 callId.toNat ++ Bytes.littleEndian 4 methodId.toNat ++
          Bytes.littleEndian 8 objectId.toNat ++ args ∧
      ∃ m, ofBytes (request callId methodId objectId args).bytes = .ok m ∧ m.validate = .ok () ∧
        m.type = .ok .request ∧ m.callId = callId ∧ m.methodId = .ok methodId ∧ m.objectId = .ok objectId ∧
        m.args = .ok args) ∧
    (∀ callId value,
      (response callId value).bytes = [0x43, 2] ++ Bytes.littleEndian 2 callId.toNat ++ value ∧
      ∃ m, ofBytes (response callId value).bytes = .ok m ∧ m.validate = .ok () ∧
        m.type = .ok .response ∧ m.callId = callId ∧ m.returnValue = .ok value) ∧
    ∀ input error, ofBytes input = .error error ↔
      input.length < (if input[1]? = some 1 then 16 else 4) ∧
        error = .truncated input.length (if input[1]? = some 1 then 16 else 4) := by
  refine ⟨accepted_iff_validForm, ?_, ?_, ?_, ?_⟩
  · intro input m parsed valid
    exact ⟨bytes_of_ofBytes parsed, m, rebuild_of_validate valid, bytes_of_ofBytes parsed⟩
  · intro callId methodId objectId args
    refine ⟨?_, _, ofBytes_bytes _, rfl, rfl, rfl, rfl, rfl, rfl⟩
    simp [bytes, request, Body.bytes, Body.typeByte, MessageType.toByte, preambleByte]
  · intro callId value
    exact ⟨rfl, _, ofBytes_bytes _, rfl, rfl, rfl, rfl⟩
  · intro input error
    rw [ofBytes_error, minimumLength_eq]

/-- A request of the shortest form but for one byte of arguments. -/
theorem parsing_inverts_building_of_request :
    let input : Bytes := [0x43, 1, 7, 0, 2, 0, 0, 0, 3, 0, 0, 0, 0, 0, 0, 0, 9]
    let m := request 7 2 3 [9]
    ofBytes input = .ok m ∧ m.validate = .ok () ∧
      m.bytes = input ∧ ∃ again, m.rebuild = .ok again ∧ again.bytes = input := by
  intro input m
  have same : m.bytes = input := by decide
  have parsed : ofBytes input = .ok m := same ▸ ofBytes_bytes m
  have valid : m.validate = .ok () := rfl
  exact ⟨parsed, valid, parsing_inverts_building.2.1 input m parsed valid⟩

end Message
end CallWire
