import CallWire.Wire.Cursor
import CallWire.Wire.Entries

/-!
Decoding. `Kind.reading` reads one value of a kind at the cursor. The types that the format cannot
tell apart (the sequences among each other, a set from a sequence) accept the same bytes.
-/

namespace CallWire

namespace Kind

/-- Any byte but zero is true; repeated elements and keys are merged as the container does. -/
def reading : (k : Kind) → Reading k.Value
  | scalar s => do return BitVec.ofNat (8 * s.width) (← Cursor.takeNumber s.width)
  | bool => do return (← Cursor.takeNumber 1) != 0
  | text => do
    let content ← Cursor.take (← Cursor.takeLength)
    match Bytes.toText? content with
    | some a => return a
    | none => throw .invalidUtf8
  | boxed k => k.reading
  | sequence _ k => do k.reading.times (← Cursor.takeCount)
  | set order k => do return setOf order k (← k.reading.times (← Cursor.takeCount))
  | map order k v => do
    let entry : Reading (k.Value × v.Value) := do
      let key ← k.reading
      let value ← v.reading
      return (key, value)
    return mapOf order k v (← entry.times (← Cursor.takeCount))
  | pair a b => do
    let first ← a.reading
    let second ← b.reading
    return (first, second)

/-- Decode at the start of the input; the answer holds the value and the bytes consumed. -/
def tryDeserialize (k : Kind) (input : Bytes) : Except WireError (k.Value × Nat) :=
  match k.reading (Cursor.start input) with
  | .ok value c => .ok (value, c.position)
  | .error error _ => .error error

/-- Decode over a destination; the answer is the bytes consumed and the destination afterwards. A
failure is 0 and leaves the destination as it was. -/
def deserialize (k : Kind) (destination : k.Value) (input : Bytes) : Nat × k.Value :=
  match k.tryDeserialize input with
  | .ok (value, consumed) => (consumed, value)
  | .error _ => (0, destination)

def decodeFrom (k : Kind) (payload : Bytes) : Except WireError k.Value :=
  (k.reading.outcome (Cursor.start payload)).1

end Kind
end CallWire
