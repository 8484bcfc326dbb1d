import CallWire.Proofs.WireEncoding

/-! Writers in the hands of encoders. Whatever an encoder does, and however its puts fail, the front of the buffer holds
what was put whole, in order, and all behind it is as it was. -/

namespace CallWire

/-- What an encoder does with the writer that it is given. It learns of each put whether it failed, may look at its place
and encode other things on the way, and goes on as it likes, after a failure too, until it answers. -/
inductive Encoder
  | answer (result : Except WireError Unit)
  | put (piece : Piece) (next : Except WireError Unit → Encoder)
  | look (next : (position remaining : Nat) → Encoder)
  | encode (inner : Encoder) (next : Except WireError Unit → Encoder)

/-- What has come of some use of a writer: the byte strings put whole, the writer after it, and the answer. -/
structure Written where
  puts : List Bytes
  writer : Writer
  result : Except WireError Unit

def Written.andThen (first : Written) (next : Except WireError Unit → Writer → Written) : Written :=
  let second := next first.result first.writer
  { second with puts := first.puts ++ second.puts }

def Writer.attempt (w : Writer) (piece : Piece) : Written :=
  match w.put piece with
  | .ok after => ⟨[piece.image], after, .ok ()⟩
  | .error error => ⟨[], w, .error error⟩

namespace Encoder

def run : Encoder → Writer → Written
  | answer result, w => ⟨[], w, result⟩
  | put piece next, w => (w.attempt piece).andThen fun result after => (next result).run after
  | look next, w => (next w.position w.remaining).run w
  | encode inner next, w => (inner.run w).andThen fun result after => (next result).run after

/-- The encoder that puts pieces in order and gives up at the first that fails. -/
def ofPieces : List Piece → Encoder
  | [] => answer (.ok ())
  | piece :: rest => put piece fun
    | .ok _ => ofPieces rest
    | .error error => answer (.error error)

end Encoder

namespace Writer
variable {w next : Writer} {piece : Piece} {error : WireError} {buffer : Bytes} {puts : List Bytes}

theorem take_position (w : Writer) : w.buffer.take w.position = w.written := List.take_left

theorem drop_position (w : Writer) : w.buffer.drop w.position = w.free := List.drop_left

/-- The buffer with all that was put on it at its front. -/
structure Filled (buffer : Bytes) (puts : List Bytes) (w : Writer) : Prop where
  within : w.position + w.remaining = buffer.length
  front : w.buffer.take w.position = puts.flatten
  back : w.buffer.drop w.position = buffer.drop w.position

theorem filled_onto (buffer : Bytes) : Filled buffer [] (onto buffer) := by
  constructor
  · exact Nat.zero_add _
  · rfl
  · rfl

theorem put_bytes (w : Writer) (content : Bytes) :
    w.put (.bytes content) =
      if content.length ≤ w.remaining then .ok ⟨w.written ++ content, w.free.drop content.length⟩
      else .error (.bufferTooSmall (w.position + content.length) (w.position + w.remaining)) := rfl

theorem put_length (w : Writer) (n : Nat) :
    w.put (.length n) =
      if n < 2 ^ 32 then w.put (.bytes (Bytes.littleEndian lengthWidth n)) else .error (.lengthOverflow n) := rfl

theorem put_eq_ok : w.put piece = .ok next ↔
    piece.IsPlain ∧ piece.image.length ≤ w.remaining ∧
      next = ⟨w.written ++ piece.image, w.free.drop piece.image.length⟩ := by
  constructor
  · intro put
    cases piece with
    | bytes content =>
      rw [put_bytes] at put
      split at put
      · cases put
        exact ⟨trivial, ‹_›, rfl⟩
      · cases put
    | length n =>
      rw [put_length, put_bytes] at put
      split at put
      · split at put
        · cases put
          exact ⟨‹_›, ‹_›, rfl⟩
        · cases put
      · cases put
    | refuse error => cases put
  · intro ⟨plain, fits, same⟩
    rw [same]
    exact put_plain plain fits

theorem Filled.put (filled : Filled buffer puts w) (put : w.put piece = .ok next) :
    Filled buffer (puts ++ [piece.image]) next := by
  obtain ⟨-, fits, rfl⟩ := put_eq_ok.mp put
  obtain ⟨within, front, back⟩ := filled
  rw [take_position] at front
  rw [drop_position] at back
  simp only [position, remaining] at within back fits
  constructor
  · simp only [position, remaining, List.length_append, List.length_drop]
    omega
  · rw [take_position, front, List.flatten_append, List.flatten_singleton]
  · rw [drop_position]
    simp only [position, List.length_append, back, List.drop_drop]

theorem Filled.length_flatten (filled : Filled buffer puts w) : puts.flatten.length = w.position := by
  rw [← filled.front, take_position]
  rfl

theorem Filled.attempt (filled : Filled buffer puts w) (piece : Piece) :
    Filled buffer (puts ++ (w.attempt piece).puts) (w.attempt piece).writer := by
  rw [Writer.attempt]
  cases put : w.put piece with
  | ok next => exact filled.put put
  | error error =>
    rw [List.append_nil]
    exact filled

/-- With the size of the buffer in view a failure says how much of it would have been used. -/
theorem Filled.attempt_bytes (filled : Filled buffer puts w) (content : Bytes) :
    w.attempt (.bytes content) =
      if content.length ≤ w.remaining then
        ⟨[content], ⟨w.written ++ content, w.free.drop content.length⟩, .ok ()⟩
      else ⟨[], w, .error (.bufferTooSmall (w.position + content.length) buffer.length)⟩ := by
  rw [Writer.attempt, put_bytes, filled.within]
  by_cases fits : content.length ≤ w.remaining
  · rw [if_pos fits, if_pos fits]
    rfl
  · rw [if_neg fits, if_neg fits]

theorem attempt_length (w : Writer) (n : Nat) :
    w.attempt (.length n) =
      if n < 2 ^ 32 then w.attempt (.bytes (Bytes.littleEndian lengthWidth n))
      else ⟨[], w, .error (.lengthOverflow n)⟩ := by
  simp only [attempt, put_length]
  by_cases small : n < 2 ^ 32
  · simp only [if_pos small]
    rfl
  · simp only [if_neg small]

end Writer

namespace Encoder

open Writer

/-- However far an encoder gets, it adds nothing to the buffer but its own puts. -/
theorem run_filled (e : Encoder) {buffer : Bytes} {puts : List Bytes} {w : Writer} (filled : Filled buffer puts w) :
    Filled buffer (puts ++ (e.run w).puts) (e.run w).writer := by
  induction e generalizing puts w with
  | answer result =>
    rw [run, List.append_nil]
    exact filled
  | put piece next ih =>
    rw [run, Written.andThen, ← List.append_assoc]
    exact ih _ (filled.attempt piece)
  | look next ih => exact ih _ _ filled
  | encode inner next first later =>
    rw [run, Written.andThen, ← List.append_assoc]
    exact later _ (first filled)

theorem run_ofPieces (pieces : List Piece) (w : Writer) :
    w.putAll pieces = (((ofPieces pieces).run w).writer, ((ofPieces pieces).run w).result) := by
  induction pieces generalizing w with
  | nil => rfl
  | cons piece rest ih =>
    cases put : w.put piece with
    | ok next => simp only [putAll, put, ofPieces, run, attempt, Written.andThen, ih]
    | error error => simp only [putAll, put, ofPieces, run, attempt, Written.andThen]

/-- The pieces before the one that failed are put whole, and none after it is. -/
theorem ofPieces_fails {pieces : List Piece} {w : Writer} {error : WireError}
    (failed : ((ofPieces pieces).run w).result = .error error) :
    ∃ complete failing rest, pieces = complete ++ failing :: rest ∧
      ((ofPieces pieces).run w).puts = complete.map Piece.image ∧
      ((ofPieces pieces).run w).writer.put failing = .error error := by
  induction pieces generalizing w with
  | nil => cases failed
  | cons piece rest ih =>
    cases put : w.put piece with
    | ok next =>
      simp only [ofPieces, run, attempt, put, Written.andThen] at failed ⊢
      obtain ⟨complete, failing, others, rfl, puts, refused⟩ := ih failed
      exact ⟨piece :: complete, failing, others, rfl, by rw [puts]; rfl, refused⟩
    | error other =>
      simp only [ofPieces, run, attempt, put, Written.andThen] at failed ⊢
      cases failed
      exact ⟨[], piece, rest, rfl, rfl, put⟩

/-- At any time, whatever was done with the writer before, the buffer holds the byte strings put whole, one behind the
other, and behind them what it held at first. A put that fails alone changes nothing and says what is missing. Something
greater that fails has moved the writer by the puts that it had completed; as far as it gives up at the first failure,
these are all the pieces before the one that failed. -/
theorem fills_in_order (buffer : Bytes) (before : Encoder) :
    let past := before.run (Writer.onto buffer)
    let w := past.writer
    w.Filled buffer past.puts ∧
    (∀ content, w.putAll [.bytes content] =
      if content.length ≤ w.remaining then (⟨w.written ++ content, w.free.drop content.length⟩, .ok ())
      else (w, .error (.bufferTooSmall (w.position + content.length) buffer.length))) ∧
    (∀ n, w.putAll [.length n] =
      if n < 2 ^ 32 then w.putAll [.bytes (Bytes.littleEndian lengthWidth n)] else (w, .error (.lengthOverflow n))) ∧
    (∀ e : Encoder,
      (e.run w).writer.Filled buffer (past.puts ++ (e.run w).puts) ∧
      (e.run w).writer.position = w.position + (e.run w).puts.flatten.length) ∧
    ∀ pieces, w.putAll pieces = (((ofPieces pieces).run w).writer, ((ofPieces pieces).run w).result) ∧
      ∀ error, (w.putAll pieces).2 = .error error →
        ∃ complete failing rest, pieces = complete ++ failing :: rest ∧
          ((ofPieces pieces).run w).puts = complete.map Piece.image ∧ (w.putAll pieces).1.put failing = .error error := by
  intro past w
  have filled : w.Filled buffer past.puts := run_filled before (filled_onto buffer)
  -- A piece by itself is a program of one put, with nothing behind a failure.
  have alone (piece : Piece) : w.putAll [piece] = ((w.attempt piece).writer, (w.attempt piece).result) := by
    rw [run_ofPieces, ofPieces, run, Written.andThen]
    cases (w.attempt piece).result with
    | ok => rfl
    | error => rfl
  refine ⟨filled, ?_, ?_, ?_, ?_⟩
  · intro content
    rw [alone, filled.attempt_bytes]
    split
    · rfl
    · rfl
  · intro n
    rw [alone, alone, attempt_length]
    split
    · rfl
    · rfl
  · intro e
    have later := run_filled e filled
    refine ⟨later, ?_⟩
    rw [← later.length_flatten, ← filled.length_flatten, List.flatten_append, List.length_append]
  · intro pieces
    refine ⟨run_ofPieces pieces w, ?_⟩
    intro error failed
    rw [run_ofPieces] at failed ⊢
    exact ofPieces_fails failed

/-- An encoder that has no room for its second byte string and goes on with a length; then a byte string and a length that
fail, and a pair of which only the first part has room. -/
theorem fills_in_order_past_failure :
    let buffer : Bytes := List.replicate 8 7
    let stubborn : Encoder := .put (.bytes [1, 2]) fun _ => .put (.bytes (List.replicate 7 0)) fun _ =>
      .put (.length 258) .answer
    let w := (stubborn.run (Writer.onto buffer)).writer
    let pair := (Kind.pair (.scalar .u8) (.scalar .u32)).pieces (9, 1)
    w = ⟨[1, 2, 2, 1, 0, 0], [7, 7]⟩ ∧ w.Filled buffer [[1, 2], [2, 1, 0, 0]] ∧
      w.putAll [.bytes [1, 2, 3]] = (w, .error (.bufferTooSmall 9 8)) ∧
      w.putAll [.length (2 ^ 32)] = (w, .error (.lengthOverflow (2 ^ 32))) ∧
      w.putAll pair = (⟨[1, 2, 2, 1, 0, 0, 9], [7]⟩, .error (.bufferTooSmall 11 8)) ∧
      ∃ complete failing rest, pair = complete ++ failing :: rest ∧ ((ofPieces pair).run w).puts = complete.map Piece.image ∧
        (w.putAll pair).1.put failing = .error (.bufferTooSmall 11 8) := by
  intro buffer stubborn w pair
  obtain ⟨filled, bytes, length, -, greater⟩ := fills_in_order buffer stubborn
  have stopped : w.putAll pair = (⟨[1, 2, 2, 1, 0, 0, 9], [7]⟩, .error (.bufferTooSmall 11 8)) := rfl
  refine ⟨rfl, filled, ?_, length (2 ^ 32), stopped, ?_⟩
  · exact bytes [1, 2, 3]
  · exact (greater pair).2 _ (congrArg Prod.snd stopped)

end Encoder
end CallWire
