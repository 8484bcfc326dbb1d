import CallWire.Proofs.WireAcceptance

/-! Values and buffers. A value is written whole, at the front of whatever the buffer held, or not at all; and as no
value takes no bytes, a count of zero says that nothing was written or read. -/

namespace CallWire

namespace Kind

/-- Every value takes at least one byte. -/
theorem size_pos (k : Kind) (a : k.Value) : 0 < k.size a := by
  induction k with
  | scalar s => exact s.width_pos
  | bool => exact Nat.one_pos
  | boxed k ih => exact ih a
  | text | sequence | set | map => exact Nat.add_pos_left (by decide) _
  | pair a b first second => exact Nat.add_pos_left (first _) _

theorem consumed_pos {k : Kind} {input : Bytes} {a : k.Value} {n : Nat} (decoded : k.tryDeserialize input = .ok (a, n)) :
    0 < n := by
  obtain ⟨inside, spelled⟩ := tryDeserialize_eq_ok.mp decoded
  have some := spells_length_pos spelled
  rwa [List.length_take_of_le inside] at some

/-- With room for the size announced beforehand the encoder goes to its end, wherever the writer stands. -/
theorem putAll_pieces {k : Kind} {a : k.Value} (small : k.Announceable a) {w : Writer} (room : k.size a ≤ w.remaining) :
    w.putAll (k.pieces a) = (⟨w.written ++ k.encoding a, w.free.drop (k.size a)⟩, .ok ()) := by
  have fits : ((k.pieces a).flatMap Piece.image).length ≤ w.free.length := by
    rw [← encoding, length_encoding]
    exact room
  rw [Writer.putAll_plain (pieces_plain small) fits, ← encoding, length_encoding]

theorem trySerialize_ofValue {k : Kind} {a : k.Value} (small : k.Announceable a) (buffer : Bytes) :
    (Encodable.ofValue k a).trySerialize buffer =
      if k.size a ≤ buffer.length then (.ok (k.size a), k.encoding a ++ buffer.drop (k.size a))
      else (.error (.bufferTooSmall (k.size a) buffer.length), buffer) := by
  have honest : ((Encodable.ofValue k a).pieces.flatMap Piece.image).length = (Encodable.ofValue k a).size :=
    k.length_encoding a
  by_cases room : k.size a ≤ buffer.length
  · rw [if_pos room]
    exact Encodable.trySerialize_plain (pieces_plain small) honest room
  · rw [if_neg room]
    exact if_pos (Nat.not_le.mp room)

/-- A count of zero is never that of a value written. -/
theorem serialize_eq_zero {k : Kind} {a : k.Value} (small : k.Announceable a) (buffer : Bytes) :
    ((Encodable.ofValue k a).serialize buffer).1 = 0 ↔
      ∃ error, ((Encodable.ofValue k a).trySerialize buffer).1 = .error error := by
  have positive := k.size_pos a
  rw [Encodable.serialize, trySerialize_ofValue small]
  by_cases room : k.size a ≤ buffer.length
  · simp only [if_pos room, reduceCtorEq, exists_false, iff_false]
    omega
  · simp only [if_neg room, true_iff]
    exact ⟨_, rfl⟩

theorem deserialize_of_ok {k : Kind} {input : Bytes} {a : k.Value} {n : Nat}
    (decoded : k.tryDeserialize input = .ok (a, n)) (destination : k.Value) :
    k.deserialize destination input = (n, a) := by
  rw [deserialize, decoded]

theorem deserialize_of_error {k : Kind} {input : Bytes} {error : WireError}
    (failed : k.tryDeserialize input = .error error) (destination : k.Value) :
    k.deserialize destination input = (0, destination) := by
  rw [deserialize, failed]

theorem deserialize_eq_zero {k : Kind} (destination : k.Value) (input : Bytes) :
    (k.deserialize destination input).1 = 0 ↔ ∃ error, k.tryDeserialize input = .error error := by
  cases outcome : k.tryDeserialize input with
  | ok decoded =>
    obtain ⟨a, n⟩ := decoded
    have positive := consumed_pos outcome
    simp only [deserialize_of_ok outcome, reduceCtorEq, exists_false, iff_false]
    omega
  | error error =>
    simp only [deserialize_of_error outcome, true_iff]
    exact ⟨error, rfl⟩

/-- A value is written exactly if the buffer has room for its size. Then the front of the buffer is its encoding and the
rest is as before; otherwise all of the buffer is. Reading replaces the destination or leaves it alone, and either way
zero is the count of a failure and of nothing else. -/
theorem writes_whole_or_nothing (k : Kind) :
    (∀ a : k.Value, k.Announceable a →
      ∃ bytes, (Encodable.ofValue k a).toBytes = .ok bytes ∧ bytes.length = k.size a ∧ 1 ≤ k.size a ∧
        (∀ w : Writer, k.size a ≤ w.remaining →
          w.putAll (k.pieces a) = (⟨w.written ++ bytes, w.free.drop (k.size a)⟩, .ok ())) ∧
        ∀ buffer,
          (Encodable.ofValue k a).trySerialize buffer =
            (if k.size a ≤ buffer.length then (.ok (k.size a), bytes ++ buffer.drop (k.size a))
            else (.error (.bufferTooSmall (k.size a) buffer.length), buffer)) ∧
          (((Encodable.ofValue k a).serialize buffer).1 = 0 ↔
            ∃ error, ((Encodable.ofValue k a).trySerialize buffer).1 = .error error) ∧
          ((Encodable.ofValue k a).serialize buffer).2 = ((Encodable.ofValue k a).trySerialize buffer).2) ∧
    ∀ (destination : k.Value) input,
      ((k.deserialize destination input).1 = 0 ↔ ∃ error, k.tryDeserialize input = .error error) ∧
      (∀ error, k.tryDeserialize input = .error error → k.deserialize destination input = (0, destination)) ∧
      ∀ a n, k.tryDeserialize input = .ok (a, n) → 1 ≤ n ∧ k.deserialize destination input = (n, a) := by
  constructor
  · intro a small
    refine ⟨k.encoding a, toBytes_ofValue small, k.length_encoding a, k.size_pos a, fun w => putAll_pieces small, ?_⟩
    intro buffer
    refine ⟨trySerialize_ofValue small buffer, serialize_eq_zero small buffer, ?_⟩
    rw [Encodable.serialize, trySerialize_ofValue small]
    by_cases room : k.size a ≤ buffer.length
    · rw [if_pos room]
    · rw [if_neg room]
  · intro destination input
    refine ⟨deserialize_eq_zero destination input, fun error failed => deserialize_of_error failed destination, ?_⟩
    intro a n decoded
    exact ⟨consumed_pos decoded, deserialize_of_ok decoded destination⟩

/-- A map of texts to pairs in a buffer with a byte to spare, and in one that is a byte short; and read from all of its
bytes and from the first five. -/
theorem writes_whole_or_nothing_map :
    let k := map .sorted text (pair (scalar .u16) (sequence .vector bool))
    let a : k.Value := [("é", (0x0102, [true]))]
    let old : k.Value := [("b", (3, []))]
    let e := Encodable.ofValue k a
    let bytes : Bytes := [1, 0, 0, 0, 2, 0, 0, 0, 0xc3, 0xa9, 2, 1, 1, 0, 0, 0, 1]
    k.Announceable a ∧ e.toBytes = .ok bytes ∧
      e.trySerialize (List.replicate 18 7) = (.ok 17, bytes ++ [7]) ∧
      e.trySerialize (List.replicate 16 7) = (.error (.bufferTooSmall 17 16), List.replicate 16 7) ∧
      (e.serialize (List.replicate 16 7)).1 = 0 ∧
      k.deserialize old bytes = (17, a) ∧ k.deserialize old (bytes.take 5) = (0, old) := by
  intro k a old e bytes
  have small : k.Announceable a := by
    simp [k, a, Announceable]
    decide
  have valid : k.Valid a := by
    simp [k, a, Valid, Enumeration.Enumerates]
  have encoded : k.encoding a = bytes := by decide
  have decoded : k.tryDeserialize bytes = .ok (a, 17) := by
    refine tryDeserialize_eq_ok.mpr ⟨Nat.le_refl 17, ?_⟩
    rw [List.take_of_length_le (Nat.le_refl 17), ← encoded]
    exact spells_encoding valid small
  have failed : k.tryDeserialize (bytes.take 5) = .error (.unexpectedEnd 4 1) := rfl
  obtain ⟨write, read⟩ := writes_whole_or_nothing k
  obtain ⟨content, whole, -, -, -, into⟩ := write a small
  obtain rfl : bytes = content := encoded.symm.trans (Except.ok.inj ((toBytes_ofValue small).symm.trans whole))
  obtain ⟨spare, -⟩ := into (List.replicate 18 7)
  obtain ⟨short, zero, -⟩ := into (List.replicate 16 7)
  refine ⟨small, whole, spare, short, zero.mpr ⟨_, congrArg Prod.fst short⟩, ?_, ?_⟩
  · exact ((read old bytes).2.2 a 17 decoded).2
  · exact (read old (bytes.take 5)).2.1 _ failed

end Kind
end CallWire
