import CallWire.Proofs.FrameDecoding

/-! When a frame is taken off a buffer, and when its length is refused. Either decision is final; as long as there is none
the buffer is kept, and what may still come can bring one about. -/

namespace CallWire

theorem takeFrame_eq (limit : Nat) (buffer : Bytes) :
    takeFrame limit buffer =
      match decodeFrame limit buffer with
      | .ok none => .ok none buffer
      | .ok (some (frame, rest)) => .ok (some frame) rest
      | .error error => .error error buffer := by
  have got (next : Bytes → Receiving (Option Bytes)) : (get >>= next) buffer = next buffer buffer := rfl
  rw [takeFrame, got, decodeFrame]
  by_cases short : buffer.length < frameLengthWidth
  · rw [if_pos short, if_pos short]
    rfl
  · rw [if_neg short, if_neg short]
    dsimp only
    generalize Bytes.value (buffer.take frameLengthWidth) = length
    by_cases low : length < headerSize
    · rw [if_pos low, if_pos low]
      rfl
    · rw [if_neg low, if_neg low]
      by_cases high : limit < length
      · rw [if_pos high, if_pos high]
        rfl
      · have there : (buffer.drop frameLengthWidth).length < length ↔ buffer.length < frameLengthWidth + length := by
          rw [List.length_drop]
          omega
        simp only [if_neg high, there]
        by_cases incomplete : buffer.length < frameLengthWidth + length
        · rw [if_pos incomplete, if_pos incomplete]
          rfl
        · rw [if_neg incomplete, if_neg incomplete]
          rfl

section
variable {limit : Nat} {buffer after frame : Bytes} {error : ChannelError}

theorem takeFrame_eq_some :
    takeFrame limit buffer = .ok (some frame) after ↔ decodeFrame limit buffer = .ok (some (frame, after)) := by
  rw [takeFrame_eq]
  cases decodeFrame limit buffer with
  | error error => simp
  | ok decoded =>
    cases decoded with
    | none => simp
    | some taken => simp [Prod.ext_iff]

theorem takeFrame_eq_none : takeFrame limit buffer = .ok none after ↔ decodeFrame limit buffer = .ok none ∧ buffer = after := by
  rw [takeFrame_eq]
  cases decodeFrame limit buffer with
  | error error => simp
  | ok decoded =>
    cases decoded with
    | none => simp
    | some taken => simp

theorem takeFrame_eq_error :
    takeFrame limit buffer = .error error after ↔ decodeFrame limit buffer = .error error ∧ buffer = after := by
  rw [takeFrame_eq]
  cases decodeFrame limit buffer with
  | error other => simp
  | ok decoded =>
    cases decoded with
    | none => simp
    | some taken => simp

/-- As many bytes as are announced are enough, whatever is there already. -/
theorem decodeFrame_announced_completed (limit : Nat) {n : Nat} (small : n < 2 ^ 32) (rest : Bytes) :
    decodeFrame limit (Bytes.littleEndian frameLengthWidth n ++ rest ++ List.replicate n 0) ≠ .ok none := by
  have enough : ¬ (rest ++ List.replicate n 0).length < n := by
    rw [List.length_append, List.length_replicate]
    omega
  rw [List.append_assoc, decodeFrame_announced limit small, if_neg enough]
  split
  · exact nofun
  · split
    · exact nofun
    · exact nofun

/-- There is no buffer that stays undecided for ever. -/
theorem decodeFrame_completed (limit : Nat) (buffer : Bytes) : ∃ more, decodeFrame limit (buffer ++ more) ≠ .ok none := by
  have long : frameLengthWidth ≤ (buffer ++ List.replicate frameLengthWidth 0).length := by
    rw [List.length_append, List.length_replicate]
    omega
  obtain ⟨n, rest, small, announced⟩ := announced_of_length long
  refine ⟨List.replicate frameLengthWidth 0 ++ List.replicate n 0, ?_⟩
  rw [← List.append_assoc, announced]
  exact decodeFrame_announced_completed limit small rest

end

/-- A frame is taken off just where the buffer starts with one within the bounds, and a length is refused just where it is
out of them. Nothing else is taken from the buffer, neither decision is revised when more bytes come, and there is no
decision only where some more bytes would lead to one. -/
theorem takeFrame_decides (limit : Nat) (buffer : Bytes) :
    (∀ frame after, takeFrame limit buffer = .ok (some frame) after ↔
      buffer = frameOf frame ++ after ∧ headerSize ≤ frame.length ∧ frame.length ≤ limit ∧ frame.length < 2 ^ 32) ∧
    (∀ error after, takeFrame limit buffer = .error error after ↔
      (∃ n rest, n < 2 ^ 32 ∧ buffer = Bytes.littleEndian frameLengthWidth n ++ rest ∧
        (n < headerSize ∧ error = .frameTooShort n headerSize ∨
          headerSize ≤ n ∧ limit < n ∧ error = .frameTooLarge n limit)) ∧ after = buffer) ∧
    (∀ after, takeFrame limit buffer = .ok none after → after = buffer ∧ ∃ more,
      (∃ frame rest, takeFrame limit (buffer ++ more) = .ok (some frame) rest) ∨
        ∃ error, takeFrame limit (buffer ++ more) = .error error (buffer ++ more)) ∧
    ∀ more,
      (∀ frame after, takeFrame limit buffer = .ok (some frame) after →
        takeFrame limit (buffer ++ more) = .ok (some frame) (after ++ more)) ∧
      ∀ error after, takeFrame limit buffer = .error error after →
        takeFrame limit (buffer ++ more) = .error error (buffer ++ more) := by
  refine ⟨?_, ?_, ?_, ?_⟩
  · intro frame after
    rw [takeFrame_eq_some, decodeFrame_eq_some]
  · intro error after
    rw [takeFrame_eq_error, decodeFrame_eq_error, eq_comm]
  · intro after waiting
    obtain ⟨-, rfl⟩ := takeFrame_eq_none.mp waiting
    obtain ⟨more, decided⟩ := decodeFrame_completed limit buffer
    refine ⟨rfl, more, ?_⟩
    cases decoded : decodeFrame limit (buffer ++ more) with
    | error error => exact .inr ⟨error, takeFrame_eq_error.mpr ⟨decoded, rfl⟩⟩
    | ok frame? =>
      cases frame? with
      | none => exact absurd decoded decided
      | some taken => exact .inl ⟨taken.1, taken.2, takeFrame_eq_some.mpr decoded⟩
  · intro more
    constructor
    · intro frame after taken
      apply takeFrame_eq_some.mpr
      exact decodeFrame_append_some (takeFrame_eq_some.mp taken) more
    · intro error after refused
      apply takeFrame_eq_error.mpr
      exact ⟨decodeFrame_append_error (takeFrame_eq_error.mp refused).1 more, rfl⟩

/-- The bytes of a frame in two parts and a byte behind it; and a length just above the limit, alone and with more. -/
theorem takeFrame_decides_in_parts :
    let cut : Bytes := [5, 0, 0, 0, 0x43, 2, 1]
    let large : Bytes := [17, 0, 0, 0]
    takeFrame 16 cut = .ok none cut ∧ takeFrame 16 (cut ++ [0, 9]) = .ok (some [0x43, 2, 1, 0, 9]) [] ∧
      takeFrame 16 (cut ++ [0, 9] ++ [7]) = .ok (some [0x43, 2, 1, 0, 9]) [7] ∧
      takeFrame 16 large = .error (.frameTooLarge 17 16) large ∧
      takeFrame 16 (large ++ [1, 2]) = .error (.frameTooLarge 17 16) (large ++ [1, 2]) := by
  intro cut large
  have whole : takeFrame 16 (cut ++ [0, 9]) = .ok (some [0x43, 2, 1, 0, 9]) [] := by
    apply ((takeFrame_decides 16 (cut ++ [0, 9])).1 _ _).mpr
    exact ⟨rfl, by decide, by decide, by decide⟩
  have refused : takeFrame 16 large = .error (.frameTooLarge 17 16) large := by
    apply ((takeFrame_decides 16 large).2.1 _ _).mpr
    exact ⟨⟨17, [], by decide, rfl, .inr ⟨by decide, by decide, rfl⟩⟩, rfl⟩
  obtain ⟨-, -, -, later⟩ := takeFrame_decides 16 (cut ++ [0, 9])
  obtain ⟨-, -, -, later'⟩ := takeFrame_decides 16 large
  exact ⟨rfl, whole, (later [7]).1 _ _ whole, refused, (later' [1, 2]).2 _ _ refused⟩

end CallWire
