import CallWire.Bytes
import CallWire.Wire.Error

/-!
A writer fills a buffer of fixed size from the front. It is kept as the bytes already written and
the untouched bytes behind them, so the buffer is their concatenation and the position is the
length of the first part. What an encoder does is a list of pieces; the writer takes them in order
and stops at the first that fails.
-/

namespace CallWire

/-- The width of the length or count in front of strings and containers. -/
def lengthWidth : Nat := 4

inductive Piece
  | bytes (content : Bytes)
  | length (n : Nat)
  /-- The encoder gives up with an error of its own. -/
  | refuse (error : WireError)
  deriving DecidableEq, Repr

structure Writer where
  written : Bytes
  free : Bytes
  deriving DecidableEq, Repr

namespace Writer

def onto (buffer : Bytes) : Writer := ⟨[], buffer⟩

def buffer (w : Writer) : Bytes := w.written ++ w.free

def position (w : Writer) : Nat := w.written.length

def remaining (w : Writer) : Nat := w.free.length

/-- A byte string is copied whole or not at all. -/
def putBytes (w : Writer) (content : Bytes) : Except WireError Writer :=
  if content.length ≤ w.remaining then
    .ok ⟨w.written ++ content, w.free.drop content.length⟩
  else
    .error (.bufferTooSmall (w.position + content.length) (w.position + w.remaining))

/-- A length that needs more than four bytes is refused before space is looked at. -/
def putLength (w : Writer) (n : Nat) : Except WireError Writer :=
  if n < 0x100000000 then w.putBytes (Bytes.littleEndian lengthWidth n) else .error (.lengthOverflow n)

def put (w : Writer) : Piece → Except WireError Writer
  | .bytes content => w.putBytes content
  | .length n => w.putLength n
  | .refuse error => .error error

/-- Put the pieces in order. The pieces before the first failure stay written. -/
def putAll (w : Writer) : List Piece → Writer × Except WireError Unit
  | [] => (w, .ok ())
  | piece :: rest =>
    match w.put piece with
    | .ok next => next.putAll rest
    | .error error => (w, .error error)

@[simp] theorem length_buffer (w : Writer) : w.buffer.length = w.position + w.remaining := by
  simp [buffer, position, remaining]

theorem putBytes_extends {w next : Writer} {content : Bytes} (h : w.putBytes content = .ok next) :
    next.written = w.written ++ content ∧ next.free = w.free.drop content.length ∧
      content.length ≤ w.free.length := by
  unfold putBytes at h
  split at h
  · rename_i fits
    cases h
    exact ⟨rfl, rfl, fits⟩
  · cases h

theorem put_extends {w next : Writer} {piece : Piece} (h : w.put piece = .ok next) :
    ∃ content, next.written = w.written ++ content ∧ next.free = w.free.drop content.length ∧
      content.length ≤ w.free.length := by
  cases piece with
  | bytes content => exact ⟨content, putBytes_extends h⟩
  | length n =>
    simp only [put, putLength] at h
    split at h
    · exact ⟨_, putBytes_extends h⟩
    · cases h
  | refuse error => cases h

/-- Whatever is put, the bytes already written stay and the buffer keeps its length. -/
theorem putAll_extends (w : Writer) (pieces : List Piece) :
    ∃ content, (w.putAll pieces).1.written = w.written ++ content ∧
      (w.putAll pieces).1.buffer.length = w.buffer.length := by
  induction pieces generalizing w with
  | nil => exact ⟨[], by simp [putAll]⟩
  | cons piece rest ih =>
    unfold putAll
    split
    · rename_i next put_ok
      obtain ⟨first, written, free, fits⟩ := put_extends put_ok
      obtain ⟨content, grown, kept⟩ := ih next
      refine ⟨first ++ content, by simp [grown, written], ?_⟩
      rw [kept]
      simp [buffer, written, free]
      omega
    · exact ⟨[], by simp⟩

end Writer
end CallWire
