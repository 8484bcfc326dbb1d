import CallWire.Proofs.WireAcceptance

/-! What was decoded can be encoded again, into no more bytes than were consumed, and comes back the same. -/

namespace CallWire.Kind

/-- A hashed container may enumerate the entries decoded in any order when it is encoded again. Nothing is lost but
what merging drops, and nothing is changed but the spelling of booleans. -/
theorem reencoding (k : Kind) (wellFormed : k.isWellFormed) (input : Bytes) (a : k.Value) (n : Nat)
    (decoded : k.tryDeserialize input = .ok (a, n)) :
    n ≤ input.length ∧ k.size a ≤ n ∧ k.Valid a ∧
    (∀ again, k.Valid again → k.meaning again = k.meaning a →
      ∃ bytes, (Encodable.ofValue k again).toBytes = .ok bytes ∧ bytes.length = k.size a ∧
        k.size again = k.size a ∧ k.tryDeserialize bytes = .ok (again, k.size a)) ∧
    (k.holdsMerged = false → k.size a = n) ∧
    (k.holdsMerged = false → k.holdsBool = false → (Encodable.ofValue k a).toBytes = .ok (input.take n)) := by
  obtain ⟨inside, spelled⟩ := tryDeserialize_eq_ok.mp decoded
  have length : (input.take n).length = n := List.length_take_of_le inside
  have valid := valid_of_spells spelled
  have small := announceable_of_spells spelled
  refine ⟨inside, length ▸ size_le_of_spells spelled, valid, ?_, ?_, ?_⟩
  · intro again enumerated same
    have size := size_of_meaning_eq wellFormed enumerated valid same
    have room := announceable_of_meaning_eq wellFormed valid enumerated same.symm small
    refine ⟨k.encoding again, toBytes_ofValue room, (length_encoding k again).trans size, size, ?_⟩
    rw [tryDeserialize_eq_ok, ← size, ← length_encoding, List.take_length]
    exact ⟨Nat.le_refl _, spells_encoding enumerated room⟩
  · intro plain
    rw [size_eq_of_spells plain spelled, length]
  · intro plain exact
    rw [toBytes_ofValue small, ← eq_encoding_of_spells plain exact spelled]

/-- One of the two keys comes twice. Encoded again, the other key goes first. -/
theorem reencoding_reordered :
    let k := map .hashed (set .sorted (scalar .u8)) bool
    let input : Bytes := [3, 0, 0, 0, 2, 0, 0, 0, 1, 2, 0, 1, 0, 0, 0, 3, 1, 2, 0, 0, 0, 2, 1, 7, 9]
    let a : k.Value := [([1, 2], true), ([3], true)]
    let again : k.Value := [([3], true), ([1, 2], true)]
    k.isWellFormed ∧ k.tryDeserialize input = .ok (a, 24) ∧ k.Valid again ∧ k.meaning again = k.meaning a ∧
      k.size a ≤ 24 ∧ ∃ bytes, (Encodable.ofValue k again).toBytes = .ok bytes ∧ bytes.length = k.size a ∧
        k.size again = k.size a ∧ k.tryDeserialize bytes = .ok (again, k.size a) := by
  intro k input a again
  have wellFormed : k.isWellFormed := rfl
  have decoded : k.tryDeserialize input = .ok (a, 24) := rfl
  have valid : k.Valid again := by
    simp [k, again, Valid, Enumeration.Enumerates, Kind.compare]
    decide
  have same : k.meaning again = k.meaning a := by
    refine congrArg (Prod.map _ _ '' ·) (Set.ext fun x => ?_)
    exact (List.Perm.swap _ _ _).mem_iff
  obtain ⟨_, size, _, back, _⟩ := reencoding k wellFormed input a 24 decoded
  exact ⟨wellFormed, decoded, valid, same, size, back again valid same⟩

end CallWire.Kind
