import CallWire.Message.Basic

/-!
Messages and their bytes determine each other: the bytes of every message are accepted and give the
message back, and an accepted byte string is that of the message it gave.
-/

namespace CallWire

namespace MessageType

theorem ofByte?_toByte (type : MessageType) : ofByte? type.toByte = some type := by
  cases type <;> rfl

theorem toByte_of_ofByte? {byte : UInt8} {type : MessageType} (h : ofByte? byte = some type) :
    type.toByte = byte := by
  unfold ofByte? at h
  split at h <;> cases h <;> rfl

end MessageType

namespace Body

theorem ofBytes_bytes (b : Body) : ofBytes b.typeByte b.bytes = b := by
  cases b with
  | request methodId objectId args =>
    have method : (bytes (.request methodId objectId args)).take 4 =
        Bytes.littleEndian 4 methodId.toNat := by
      simp [bytes]
    have object : ((bytes (.request methodId objectId args)).drop 4).take 8 =
        Bytes.littleEndian 8 objectId.toNat := by
      simp [bytes]
    have rest : (bytes (.request methodId objectId args)).drop 12 = args := by
      simp [bytes, List.drop_append]
    show Body.request _ _ _ = _
    rw [method, object, rest, Bytes.value_littleEndian, Bytes.value_littleEndian, Nat.pow_eq, Nat.pow_eq]
    congr 1
    · apply UInt32.toNat_inj.1
      have := methodId.toNat_lt
      rw [UInt32.toNat_ofNat']
      omega
    · apply UInt64.toNat_inj.1
      have := objectId.toNat_lt
      rw [UInt64.toNat_ofNat']
      omega
  | response value => rfl
  | unknown byte rest isUnknown =>
    unfold ofBytes
    split
    · rename_i known
      exact absurd known (by simp [typeByte, isUnknown])
    · rename_i known
      exact absurd known (by simp [typeByte, isUnknown])
    · rfl

theorem typeByte_ofBytes (byte : UInt8) (rest : Bytes) : (ofBytes byte rest).typeByte = byte := by
  unfold ofBytes
  split
  · rename_i known
    exact MessageType.toByte_of_ofByte? known
  · rename_i known
    exact MessageType.toByte_of_ofByte? known
  · rfl

theorem bytes_ofBytes {byte : UInt8} {rest : Bytes}
    (long : MessageType.ofByte? byte = some .request → 12 ≤ rest.length) :
    (ofBytes byte rest).bytes = rest := by
  unfold ofBytes
  split
  · rename_i known
    have enough := long known
    have method : Bytes.littleEndian 4 (UInt32.ofNat (Bytes.value (rest.take 4))).toNat =
        rest.take 4 := by
      have width : (rest.take 4).length = 4 := by simp; omega
      have bound := Bytes.value_lt (rest.take 4)
      rw [width] at bound
      rw [UInt32.toNat_ofNat', Nat.mod_eq_of_lt (by omega)]
      exact Bytes.littleEndian_value_of_length width
    have object : Bytes.littleEndian 8 (UInt64.ofNat (Bytes.value ((rest.drop 4).take 8))).toNat =
        (rest.drop 4).take 8 := by
      have width : ((rest.drop 4).take 8).length = 8 := by simp; omega
      have bound := Bytes.value_lt ((rest.drop 4).take 8)
      rw [width] at bound
      rw [UInt64.toNat_ofNat', Nat.mod_eq_of_lt (by omega)]
      exact Bytes.littleEndian_value_of_length width
    show Bytes.littleEndian 4 _ ++ (Bytes.littleEndian 8 _ ++ rest.drop 12) = rest
    rw [method, object]
    have tail : rest.drop 12 = (rest.drop 4).drop 8 := by rw [List.drop_drop]
    rw [tail, List.take_append_drop, List.take_append_drop]
  · rfl
  · rfl

end Body

namespace Message

theorem headerSize_le_minimumLength (input : Bytes) : headerSize ≤ minimumLength input := by
  unfold minimumLength
  split
  · rename_i type _
    cases type <;> decide
  · exact Nat.le_refl _

theorem minimumLength_bytes (m : Message) : minimumLength m.bytes ≤ m.bytes.length := by
  cases body : m.body with
  | request methodId objectId args =>
    simp [minimumLength, bytes, body, Body.typeByte, MessageType.ofByte?_toByte, Body.bytes,
      MessageType.prefixSize, requestPrefixSize]
    omega
  | response value =>
    simp [minimumLength, bytes, body, Body.typeByte, MessageType.ofByte?_toByte, Body.bytes,
      MessageType.prefixSize, headerSize]
  | unknown byte rest isUnknown =>
    simp [minimumLength, bytes, body, Body.typeByte, isUnknown, Body.bytes, headerSize]

theorem ofBytes_bytes (m : Message) : ofBytes m.bytes = .ok m := by
  have callId : UInt16.ofNat (Bytes.value ((m.bytes.drop callIdOffset).take 2)) = m.callId := by
    have taken : (m.bytes.drop callIdOffset).take 2 = Bytes.littleEndian 2 m.callId.toNat := by
      simp [bytes, callIdOffset]
    have := m.callId.toNat_lt
    apply UInt16.toNat_inj.1
    rw [taken, Bytes.value_littleEndian, Nat.pow_eq, UInt16.toNat_ofNat']
    omega
  have rest : m.bytes.drop headerSize = m.body.bytes := by
    simp [bytes, headerSize]
  rw [ofBytes, if_neg (Nat.not_lt.2 m.minimumLength_bytes), callId, rest]
  show Except.ok (Message.mk m.preamble m.callId (Body.ofBytes m.body.typeByte m.body.bytes)) = _
  rw [Body.ofBytes_bytes]

theorem bytes_of_ofBytes {input : Bytes} {m : Message} (h : ofBytes input = .ok m) :
    m.bytes = input := by
  unfold ofBytes at h
  split at h
  · cases h
  · rename_i long
    cases h
    have header := headerSize_le_minimumLength input
    match input with
    | [] | [_] | [_, _] | [_, _, _] =>
      simp [headerSize] at long header
      omega
    | first :: byte :: low :: high :: rest =>
      have enough : MessageType.ofByte? byte = some .request → 12 ≤ rest.length := by
        intro known
        simp [minimumLength, known, MessageType.prefixSize, requestPrefixSize] at long
        omega
      have callId : Bytes.littleEndian 2 (UInt16.ofNat (Bytes.value [low, high])).toNat =
          [low, high] := by
        have bound : Bytes.value [low, high] < Nat.pow 256 2 := Bytes.value_lt [low, high]
        rw [UInt16.toNat_ofNat', Nat.mod_eq_of_lt (by omega)]
        exact Bytes.littleEndian_value [low, high]
      show first :: (Body.ofBytes byte rest).typeByte ::
        (Bytes.littleEndian 2 (UInt16.ofNat (Bytes.value [low, high])).toNat ++
          (Body.ofBytes byte rest).bytes) = _
      rw [Body.typeByte_ofBytes, Body.bytes_ofBytes enough, callId]
      rfl

end Message
end CallWire
