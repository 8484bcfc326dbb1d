import CallWire.Proofs.WireGrammar
import CallWire.Wire.Encoding
import Mathlib.Algebra.GroupWithZero.Nat

/-! What the encoder of a value puts, as one byte string. It has the announced size, it is a spelling of
the value, and a buffer with room for it takes all of it. -/

namespace CallWire

namespace Piece

/-- The bytes that a piece adds to the buffer. -/
def image : Piece → Bytes
  | .bytes content => content
  | .length n => Bytes.littleEndian lengthWidth n
  | .refuse _ => []

/-- A piece that only a lack of space can stop. -/
def IsPlain : Piece → Prop
  | .bytes _ => True
  | .length n => n < 2 ^ 32
  | .refuse _ => False

end Piece

namespace Writer

theorem put_plain {w : Writer} {piece : Piece} (plain : piece.IsPlain)
    (fits : piece.image.length ≤ w.free.length) :
    w.put piece = .ok ⟨w.written ++ piece.image, w.free.drop piece.image.length⟩ := by
  cases piece with
  | bytes content => exact if_pos fits
  | length n => exact (if_pos plain).trans (if_pos fits)
  | refuse error => exact plain.elim

theorem putAll_plain {w : Writer} {pieces : List Piece} (plain : ∀ piece ∈ pieces, piece.IsPlain)
    (fits : (pieces.flatMap Piece.image).length ≤ w.free.length) :
    w.putAll pieces =
      (⟨w.written ++ pieces.flatMap Piece.image, w.free.drop (pieces.flatMap Piece.image).length⟩, .ok ()) := by
  induction pieces generalizing w with
  | nil => simp [putAll]
  | cons piece rest ih =>
    simp only [List.flatMap_cons, List.length_append] at fits ⊢
    have first := put_plain (plain piece (by simp)) (Nat.le_trans (Nat.le_add_right _ _) fits)
    have room : (rest.flatMap Piece.image).length ≤ (w.free.drop piece.image.length).length := by
      rw [List.length_drop]
      omega
    have others := ih (w := ⟨w.written ++ piece.image, w.free.drop piece.image.length⟩)
      (fun other member => plain other (by simp [member])) room
    simp only [putAll, first, others, List.append_assoc, List.drop_drop]

end Writer

/-- Without a failure of its own an encoder fills the front of the buffer with just its bytes. -/
theorem Encodable.trySerialize_plain {e : Encodable} (plain : ∀ piece ∈ e.pieces, piece.IsPlain)
    (honest : (e.pieces.flatMap Piece.image).length = e.size) {buffer : Bytes} (room : e.size ≤ buffer.length) :
    e.trySerialize buffer = (.ok e.size, e.pieces.flatMap Piece.image ++ buffer.drop e.size) := by
  have fits : (e.pieces.flatMap Piece.image).length ≤ (Writer.onto buffer).free.length := honest ▸ room
  rw [trySerialize, if_neg (Nat.not_lt.mpr room), Writer.putAll_plain plain fits]
  simp [Writer.onto, Writer.position, Writer.buffer, Except.map, honest]

namespace Kind

def encoding (k : Kind) (a : k.Value) : Bytes := (k.pieces a).flatMap Piece.image

/-- Sets and maps are enumerated as their containers do it, at every depth. -/
def Valid : (k : Kind) → k.Value → Prop
  | scalar _, _ | bool, _ | text, _ => True
  | boxed k, a => k.Valid a
  | sequence _ k, xs => ∀ x ∈ (xs : List k.Value), k.Valid x
  | set order k, xs => order.Enumerates k.compare xs ∧ ∀ x ∈ (xs : List k.Value), k.Valid x
  | map order k v, xs =>
    order.Enumerates k.compare (List.map Prod.fst xs) ∧
      ∀ x ∈ (xs : List (k.Value × v.Value)), k.Valid x.1 ∧ v.Valid x.2
  | pair a b, x => a.Valid x.1 ∧ b.Valid x.2

/-- All lengths and counts in a value are below the bound of their four bytes. -/
def Announceable : (k : Kind) → k.Value → Prop
  | scalar _, _ | bool, _ => True
  | text, a => (Bytes.ofText a).length < 2 ^ 32
  | boxed k, a => k.Announceable a
  | sequence _ k, xs | set _ k, xs => List.length xs < 2 ^ 32 ∧ ∀ x ∈ (xs : List k.Value), k.Announceable x
  | map _ k v, xs =>
    List.length xs < 2 ^ 32 ∧ ∀ x ∈ (xs : List (k.Value × v.Value)), k.Announceable x.1 ∧ v.Announceable x.2
  | pair a b, x => a.Announceable x.1 ∧ b.Announceable x.2

theorem encoding_scalar (s : Scalar) (a : (scalar s).Value) :
    (scalar s).encoding a = Bytes.littleEndian s.width a.toNat := List.append_nil _

theorem encoding_text (a : String) :
    text.encoding a = Bytes.littleEndian lengthWidth (Bytes.ofText a).length ++ Bytes.ofText a := by
  show _ ++ (_ ++ []) = _
  rw [List.append_nil]
  rfl

theorem encoding_sequence (form : SequenceForm) (k : Kind) (xs : List k.Value) :
    (sequence form k).encoding xs = Bytes.littleEndian lengthWidth xs.length ++ xs.flatMap k.encoding := by
  show _ ++ (xs.flatMap k.pieces).flatMap Piece.image = _
  rw [List.flatMap_assoc]
  rfl

theorem encoding_set (order : Enumeration) (k : Kind) (xs : List k.Value) :
    (set order k).encoding xs = Bytes.littleEndian lengthWidth xs.length ++ xs.flatMap k.encoding :=
  encoding_sequence .vector k xs

theorem encoding_map (order : Enumeration) (k v : Kind) (xs : List (k.Value × v.Value)) :
    (map order k v).encoding xs =
      Bytes.littleEndian lengthWidth xs.length ++ xs.flatMap fun x => k.encoding x.1 ++ v.encoding x.2 := by
  show _ ++ (xs.flatMap fun x => k.pieces x.1 ++ v.pieces x.2).flatMap Piece.image = _
  simp only [List.flatMap_assoc, List.flatMap_append]
  rfl

theorem encoding_pair (a b : Kind) (x : (pair a b).Value) :
    (pair a b).encoding x = a.encoding x.1 ++ b.encoding x.2 :=
  List.flatMap_append

/-- The size announced beforehand is exact. -/
theorem length_encoding (k : Kind) (a : k.Value) : (k.encoding a).length = k.size a := by
  induction k with
  | scalar s => rw [encoding_scalar, Bytes.littleEndian_length, size]
  | bool => rfl
  | text => rw [encoding_text, List.length_append, Bytes.littleEndian_length, size]
  | boxed k ih => exact ih a
  | sequence form k ih =>
    rw [encoding_sequence, List.length_append, length_flatMap_eq_total, Bytes.littleEndian_length]
    simp only [size, ih]
  | set order k ih =>
    rw [encoding_set, List.length_append, length_flatMap_eq_total, Bytes.littleEndian_length]
    simp only [size, ih]
  | map order k v keys values =>
    rw [encoding_map, List.length_append, length_flatMap_eq_total, Bytes.littleEndian_length]
    simp only [size, List.length_append, keys, values]
  | pair a b first second => rw [encoding_pair, List.length_append, first, second, size]

theorem pieces_plain {k : Kind} {a : k.Value} (small : k.Announceable a) :
    ∀ piece ∈ k.pieces a, piece.IsPlain := by
  intro piece member
  induction k with
  | scalar s | bool =>
    cases List.mem_singleton.mp member
    trivial
  | text =>
    rcases List.mem_cons.mp member with rfl | last
    · exact small
    · cases List.mem_singleton.mp last
      trivial
  | boxed k ih => exact ih small member
  | sequence form k ih | set order k ih =>
    rcases List.mem_cons.mp member with rfl | inside
    · exact small.1
    · obtain ⟨x, present, own⟩ := List.mem_flatMap.mp inside
      exact ih (small.2 x present) own
  | map order k v keys values =>
    rcases List.mem_cons.mp member with rfl | inside
    · exact small.1
    · obtain ⟨x, present, own⟩ := List.mem_flatMap.mp inside
      rcases List.mem_append.mp own with key | value
      · exact keys (small.2 x present).1 key
      · exact values (small.2 x present).2 value
  | pair a b first second =>
    rcases List.mem_append.mp member with left | right
    · exact first small.1 left
    · exact second small.2 right

end Kind

theorem spellsAll_flatMap {α : Type} {spells : Bytes → α → Prop} {encode : α → Bytes} {items : List α}
    (each : ∀ x ∈ items, spells (encode x) x) : SpellsAll spells (items.flatMap encode) items := by
  induction items with
  | nil => rfl
  | cons x rest ih =>
    exact ⟨encode x, rest.flatMap encode, rfl, each x (by simp), ih fun y member => each y (by simp [member])⟩

namespace Kind

/-- The encoding of a value is one of its spellings. -/
theorem spells_encoding {k : Kind} {a : k.Value} (valid : k.Valid a) (small : k.Announceable a) :
    k.Spells (k.encoding a) a := by
  induction k with
  | scalar s => exact List.append_nil _
  | bool => exact ⟨if a then 1 else 0, rfl, by cases a <;> rfl⟩
  | text => exact ⟨small, encoding_text a⟩
  | boxed k ih => exact ih valid small
  | sequence form k ih =>
    rw [encoding_sequence]
    exact ⟨small.1, _, rfl, spellsAll_flatMap fun x member => ih (valid x member) (small.2 x member)⟩
  | set order k ih =>
    rw [encoding_set]
    refine ⟨a, ⟨small.1, _, rfl, ?_⟩, setOf_enumeration valid.1⟩
    exact spellsAll_flatMap fun x member => ih (valid.2 x member) (small.2 x member)
  | map order k v keys values =>
    rw [encoding_map]
    refine ⟨a, ⟨small.1, _, rfl, ?_⟩, mapOf_enumeration valid.1⟩
    refine spellsAll_flatMap fun x member => ⟨k.encoding x.1, v.encoding x.2, rfl, ?_, ?_⟩
    · exact keys (valid.2 x member).1 (small.2 x member).1
    · exact values (valid.2 x member).2 (small.2 x member).2
  | pair a b first second =>
    rw [encoding_pair]
    exact ⟨_, _, rfl, first valid.1 small.1, second valid.2 small.2⟩

/-- A buffer of the announced size comes out filled with the encoding. -/
theorem toBytes_ofValue {k : Kind} {a : k.Value} (small : k.Announceable a) :
    (Encodable.ofValue k a).toBytes = .ok (k.encoding a) := by
  have honest : ((Encodable.ofValue k a).pieces.flatMap Piece.image).length = (Encodable.ofValue k a).size :=
    k.length_encoding a
  have room : (Encodable.ofValue k a).size ≤ (List.replicate (Encodable.ofValue k a).size (0 : UInt8)).length := by
    simp
  rw [Encodable.toBytes, Encodable.trySerialize_plain (pieces_plain small) honest room]
  simp only [List.drop_replicate, Nat.sub_self, List.replicate_zero, List.append_nil]
  rfl

end Kind
end CallWire
