import CallWire.Frame.Basic
import Mathlib.Algebra.GroupWithZero.Nat

/-! What decoding makes of a growing buffer. A frame or a bad length, once found, stays found when more
bytes come, so a byte string can be cut into frames without regard to how it arrives. -/

namespace CallWire

theorem decodeFrame_announced (limit : Nat) {n : Nat} (small : n < 2 ^ 32) (rest : Bytes) :
    decodeFrame limit (Bytes.littleEndian frameLengthWidth n ++ rest) =
      if n < headerSize then .error (.frameTooShort n headerSize)
      else if limit < n then .error (.frameTooLarge n limit)
      else if rest.length < n then .ok none
      else .ok (some (rest.take n, rest.drop n)) := by
  have width := Bytes.littleEndian_length frameLengthWidth n
  have value : Bytes.value (Bytes.littleEndian frameLengthWidth n) = n := Bytes.value_littleEndian_of_lt small
  have long : ¬ (Bytes.littleEndian frameLengthWidth n ++ rest).length < frameLengthWidth := by
    rw [List.length_append, width]
    omega
  rw [decodeFrame, if_neg long]
  simp only [List.take_left' width, List.drop_left' width, value]

theorem decodeFrame_short (limit : Nat) {buffer : Bytes} (short : buffer.length < frameLengthWidth) :
    decodeFrame limit buffer = .ok none := if_pos short

theorem announced_of_length {buffer : Bytes} (long : frameLengthWidth ≤ buffer.length) :
    ∃ n rest, n < 2 ^ 32 ∧ buffer = Bytes.littleEndian frameLengthWidth n ++ rest := by
  have width : (buffer.take frameLengthWidth).length = frameLengthWidth := by
    rw [List.length_take]
    omega
  refine ⟨Bytes.value (buffer.take frameLengthWidth), buffer.drop frameLengthWidth, ?_, ?_⟩
  · have bound := Bytes.value_lt (buffer.take frameLengthWidth)
    rwa [width] at bound
  · rw [Bytes.littleEndian_value_of_length width, List.take_append_drop]

/-- A frame is taken off just where the buffer starts with one that the limits allow. -/
theorem decodeFrame_eq_some {limit : Nat} {buffer frame rest : Bytes} :
    decodeFrame limit buffer = .ok (some (frame, rest)) ↔
      buffer = frameOf frame ++ rest ∧ headerSize ≤ frame.length ∧ frame.length ≤ limit ∧ frame.length < 2 ^ 32 := by
  constructor
  · intro decoded
    by_cases short : buffer.length < frameLengthWidth
    · rw [decodeFrame_short limit short] at decoded
      cases decoded
    · obtain ⟨n, content, small, rfl⟩ := announced_of_length (Nat.not_lt.mp short)
      rw [decodeFrame_announced limit small] at decoded
      split at decoded
      · cases decoded
      · split at decoded
        · cases decoded
        · split at decoded
          · cases decoded
          · cases decoded
            have length : (content.take n).length = n := by
              rw [List.length_take]
              omega
            refine ⟨?_, ?_, ?_, ?_⟩
            · rw [frameOf, length, List.append_assoc, List.take_append_drop]
            all_goals omega
  · rintro ⟨rfl, header, fits, small⟩
    rw [frameOf, List.append_assoc, decodeFrame_announced limit small, if_neg (Nat.not_lt.mpr header),
      if_neg (Nat.not_lt.mpr fits), if_neg (by simp)]
    simp

/-- A bad length is one that is there and is out of bounds, whatever follows it. -/
theorem decodeFrame_eq_error {limit : Nat} {buffer : Bytes} {error : ChannelError} :
    decodeFrame limit buffer = .error error ↔
      ∃ n rest, n < 2 ^ 32 ∧ buffer = Bytes.littleEndian frameLengthWidth n ++ rest ∧
        (n < headerSize ∧ error = .frameTooShort n headerSize ∨
          headerSize ≤ n ∧ limit < n ∧ error = .frameTooLarge n limit) := by
  constructor
  · intro failed
    by_cases short : buffer.length < frameLengthWidth
    · rw [decodeFrame_short limit short] at failed
      cases failed
    · obtain ⟨n, rest, small, rfl⟩ := announced_of_length (Nat.not_lt.mp short)
      rw [decodeFrame_announced limit small] at failed
      refine ⟨n, rest, small, rfl, ?_⟩
      split at failed
      · cases failed
        exact .inl ⟨‹_›, rfl⟩
      · split at failed
        · cases failed
          exact .inr ⟨Nat.not_lt.mp ‹_›, ‹_›, rfl⟩
        · split at failed
          all_goals cases failed
  · rintro ⟨n, rest, small, rfl, ⟨short, rfl⟩ | ⟨header, large, rfl⟩⟩
    · rw [decodeFrame_announced limit small, if_pos short]
    · rw [decodeFrame_announced limit small, if_neg (Nat.not_lt.mpr header), if_pos large]

theorem decodeFrame_append_some {limit : Nat} {buffer frame rest : Bytes}
    (decoded : decodeFrame limit buffer = .ok (some (frame, rest))) (more : Bytes) :
    decodeFrame limit (buffer ++ more) = .ok (some (frame, rest ++ more)) := by
  obtain ⟨rfl, bounds⟩ := decodeFrame_eq_some.mp decoded
  exact decodeFrame_eq_some.mpr ⟨List.append_assoc .., bounds⟩

theorem decodeFrame_append_error {limit : Nat} {buffer : Bytes} {error : ChannelError}
    (failed : decodeFrame limit buffer = .error error) (more : Bytes) :
    decodeFrame limit (buffer ++ more) = .error error := by
  obtain ⟨n, rest, small, rfl, bad⟩ := decodeFrame_eq_error.mp failed
  exact decodeFrame_eq_error.mpr ⟨n, rest ++ more, small, List.append_assoc .., bad⟩

theorem frameOf_length (frame : Bytes) : (frameOf frame).length = frameLengthWidth + frame.length := by
  rw [frameOf, List.length_append, Bytes.littleEndian_length]

theorem decodeFrame_shrinks {limit : Nat} {buffer frame rest : Bytes}
    (decoded : decodeFrame limit buffer = .ok (some (frame, rest))) : rest.length + 8 ≤ buffer.length := by
  obtain ⟨rfl, header, _⟩ := decodeFrame_eq_some.mp decoded
  rw [List.length_append, frameOf_length]
  simp only [frameLengthWidth, headerSize] at *
  omega

/-- The frames at the front of a byte string, and what a reader finds behind the last of them. -/
def framesOf (limit : Nat) (input : Bytes) : List Bytes × Except ChannelError Unit :=
  match _decoded : decodeFrame limit input with
  | .error error => ([], .error error)
  | .ok none => ([], if input.isEmpty then .ok () else .error .connectionClosed)
  | .ok (some (frame, rest)) =>
    let later := framesOf limit rest
    (frame :: later.1, later.2)
termination_by input.length
decreasing_by
  have := decodeFrame_shrinks _decoded
  omega

section
variable {limit : Nat} {input frame rest : Bytes} {error : ChannelError}

theorem framesOf_some (decoded : decodeFrame limit input = .ok (some (frame, rest))) :
    framesOf limit input = (frame :: (framesOf limit rest).1, (framesOf limit rest).2) := by
  rw [framesOf]
  split <;> simp_all

theorem framesOf_error (failed : decodeFrame limit input = .error error) :
    framesOf limit input = ([], .error error) := by
  rw [framesOf]
  split <;> simp_all

theorem framesOf_none (incomplete : decodeFrame limit input = .ok none) :
    framesOf limit input = ([], if input.isEmpty then .ok () else .error .connectionClosed) := by
  rw [framesOf]
  split <;> simp_all

end
end CallWire
