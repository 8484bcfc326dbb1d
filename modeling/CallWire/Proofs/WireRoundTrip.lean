import CallWire.Proofs.WireEncoding

/-! Values survive the wire. -/

namespace CallWire.Kind

/-- Encoding a value succeeds, and decoding takes just its bytes off the front of any input and yields the
value again. A hashed container may enumerate its entries in whatever order it has. -/
theorem tryDeserialize_toBytes_append (k : Kind) (a : k.Value) (valid : k.Valid a) (small : k.Announceable a)
    (rest : Bytes) :
    ∃ bytes, (Encodable.ofValue k a).toBytes = .ok bytes ∧ k.tryDeserialize (bytes ++ rest) = .ok (a, k.size a) := by
  refine ⟨k.encoding a, toBytes_ofValue small, ?_⟩
  have taken := reading_takes (spells_encoding valid small) 0 rest
  rw [tryDeserialize, Cursor.start, taken, length_encoding, Nat.zero_add]

/-- A hashed map out of order, with a number that is no number, in front of another byte. -/
theorem tryDeserialize_hashed_map :
    let k := map .hashed text (sequence .vector (pair (scalar .f32) (set .sorted (boxed bool))))
    let a : k.Value := [("b", [(0x7fc00001, [false, true])]), ("a", [])]
    k.Valid a ∧ k.Announceable a ∧
      ∃ bytes, (Encodable.ofValue k a).toBytes = .ok bytes ∧ k.tryDeserialize (bytes ++ [7]) = .ok (a, k.size a) := by
  intro k a
  have valid : k.Valid a := by
    simp [k, a, Valid, Enumeration.Enumerates, Kind.compare]
    decide
  have small : k.Announceable a := by
    simp [k, a, Announceable]
    decide
  exact ⟨valid, small, tryDeserialize_toBytes_append k a valid small [7]⟩

end CallWire.Kind
