import CallWire.Bytes
import CallWire.Wire.Writer

/-!
A cursor walks over an input from the front: it knows how far it has come and what is left. A
reading is a step of the cursor that may fail; a failed reading leaves the cursor where the failing
step found it, so what was read before stays consumed.
-/

namespace CallWire

structure Cursor where
  position : Nat
  rest : Bytes
  deriving DecidableEq, Repr

abbrev Reading := EStateM WireError Cursor

namespace Cursor

def start (input : Bytes) : Cursor := ⟨0, input⟩

def remaining (c : Cursor) : Nat := c.rest.length

def isAtEnd (c : Cursor) : Bool := c.remaining == 0

/-- The next `n` bytes, or a failure that moves nothing. -/
def take (n : Nat) : Reading Bytes := fun c =>
  if n ≤ c.remaining then
    .ok (c.rest.take n) ⟨c.position + n, c.rest.drop n⟩
  else
    .error (.unexpectedEnd n c.remaining) c

def takeNumber (width : Nat) : Reading Nat := do
  return (← take width).value

/-- A length prefix. One that exceeds the bytes left after it fails with the prefix consumed. -/
def takeLength : Reading Nat := do
  let n ← takeNumber lengthWidth
  fun c => if n ≤ c.remaining then .ok n c else .error (.unexpectedEnd n c.remaining) c

/-- An element count. Every element takes at least one byte, so a count above the bytes left
cannot be honest and is refused like a length. -/
def takeCount : Reading Nat := takeLength

def peekRest : Reading Bytes := fun c => .ok c.rest c

end Cursor

def Reading.times {α : Type} (reading : Reading α) : Nat → Reading (List α)
  | 0 => pure []
  | n + 1 => do
    let first ← reading
    let others ← Reading.times reading n
    return first :: others

/-- The outcome of a reading from the start of an input, and where it left the cursor. -/
def Reading.outcome {α : Type} (reading : Reading α) (c : Cursor) : Except WireError α × Cursor :=
  match reading c with
  | .ok a next => (.ok a, next)
  | .error e next => (.error e, next)

end CallWire
