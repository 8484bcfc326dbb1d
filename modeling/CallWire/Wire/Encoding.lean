import CallWire.Wire.Kind
import CallWire.Wire.Writer

/-!
Encoding. `Kind.pieces` is what the encoder of a value puts, piece by piece; `Kind.size` is the
size it announces beforehand. An `Encodable` is anything that announces a size and puts pieces,
so callers may bring encoders of their own, honest or not.
-/

namespace CallWire

namespace Kind

def size : (k : Kind) → k.Value → Nat
  | scalar s, _ => s.width
  | bool, _ => 1
  | text, a => lengthWidth + (Bytes.ofText a).length
  | boxed k, a => k.size a
  | sequence _ k, xs => lengthWidth + total (List.map k.size xs)
  | set _ k, xs => lengthWidth + total (List.map k.size xs)
  | map _ k v, xs => lengthWidth + total (List.map (fun x => k.size x.1 + v.size x.2) xs)
  | pair a b, x => a.size x.1 + b.size x.2

/-- Numbers are little-endian, strings and containers carry their length or count in front, and
entries follow in the container's order. -/
def pieces : (k : Kind) → k.Value → List Piece
  | scalar s, a => [.bytes (Bytes.littleEndian s.width a.toNat)]
  | bool, a => [.bytes [if a then 1 else 0]]
  | text, a => [.length (Bytes.ofText a).length, .bytes (Bytes.ofText a)]
  | boxed k, a => k.pieces a
  | sequence _ k, xs => .length (List.length xs) :: List.flatMap k.pieces xs
  | set _ k, xs => .length (List.length xs) :: List.flatMap k.pieces xs
  | map _ k v, xs =>
    .length (List.length xs) :: List.flatMap (fun x => k.pieces x.1 ++ v.pieces x.2) xs
  | pair a b, x => a.pieces x.1 ++ b.pieces x.2

end Kind

/-- What can be encoded: a size announced beforehand, and what the encoder then puts. -/
structure Encodable where
  size : Nat
  pieces : List Piece
  deriving DecidableEq, Repr

namespace Encodable

def ofValue (k : Kind) (value : k.Value) : Encodable := ⟨k.size value, k.pieces value⟩

/-- An encoder that puts one byte string and then may fail on a length of its own. -/
def ofContent (size : Nat) (content : Bytes) (overflow : Option Nat) : Encodable :=
  ⟨size, .bytes content :: (overflow.map fun n => .refuse (.lengthOverflow n)).toList⟩

/-- Encode at the start of a buffer; the answer is the number of bytes written, and the buffer
afterwards. Nothing is written unless the announced size fits. -/
def trySerialize (e : Encodable) (buffer : Bytes) : Except WireError Nat × Bytes :=
  if buffer.length < e.size then
    (.error (.bufferTooSmall e.size buffer.length), buffer)
  else
    let (writer, result) := (Writer.onto buffer).putAll e.pieces
    (result.map fun _ => writer.position, writer.buffer)

def serialize (e : Encodable) (buffer : Bytes) : Nat × Bytes :=
  match e.trySerialize buffer with
  | (.ok written, after) => (written, after)
  | (.error _, after) => (0, after)

def toBytes (e : Encodable) : Except WireError Bytes :=
  match e.trySerialize (List.replicate e.size 0) with
  | (.ok _, after) => .ok after
  | (.error error, _) => .error error

end Encodable
end CallWire
