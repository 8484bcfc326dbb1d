import CallWire.Proofs.MessageLayout
import CallWire.Wire.Walk
import Mathlib.Algebra.Order.BigOperators.Group.List
import Mathlib.Algebra.Order.Ring.Nat

/-! A request comes out the same whether its arguments are encoded one by one, all at once, or beforehand, and they
are read back one after the other. Where an argument fails, both ways to encode give its failure. -/

namespace CallWire

theorem total_append (first second : List Nat) : total (first ++ second) = total first + total second :=
  List.sum_append_nat

/-- The failure of a piece that no lack of space brings about. -/
def Piece.ownError? : Piece → Option WireError
  | .bytes _ => none
  | .length n => if n < 2 ^ 32 then none else some (.lengthOverflow n)
  | .refuse error => some error

namespace Writer

theorem put_own {w : Writer} {piece : Piece} {error : WireError} (own : piece.ownError? = some error) :
    w.put piece = .error error := by
  cases piece with
  | bytes content => cases own
  | length n =>
    by_cases small : n < 2 ^ 32
    · cases (if_pos small).symm.trans own
    · cases (if_neg small).symm.trans own
      exact if_neg small
  | refuse own' =>
    cases own
    rfl

theorem putAll_own {w : Writer} {before after : List Piece} {piece : Piece} {error : WireError}
    (plain : ∀ piece ∈ before, piece.IsPlain) (fits : (before.flatMap Piece.image).length ≤ w.free.length)
    (own : piece.ownError? = some error) :
    ∃ stopped, w.putAll (before ++ piece :: after) = (stopped, .error error) := by
  rw [putAll_append, putAll_plain plain fits]
  simp only [putAll, put_own own]
  exact ⟨_, rfl⟩

end Writer

namespace Encodable

/-- All that the encoder puts. -/
def image (e : Encodable) : Bytes := e.pieces.flatMap Piece.image

/-- What is put, and zeros up to the announced size. -/
def region (e : Encodable) : Bytes := e.image ++ List.replicate (e.size - e.image.length) 0

/-- The encoder does not give up, and puts no more than it has announced. -/
structure Fits (e : Encodable) : Prop where
  plain : ∀ piece ∈ e.pieces, piece.IsPlain
  room : e.image.length ≤ e.size

/-- The encoder gives up, and puts no more than it has announced before that. -/
def FailsWith (e : Encodable) (error : WireError) : Prop :=
  ∃ before piece after, e.pieces = before ++ piece :: after ∧ Fits ⟨e.size, before⟩ ∧ piece.ownError? = some error

theorem Fits.length_region {e : Encodable} (fits : e.Fits) : e.region.length = e.size := by
  rw [region, List.length_append, List.length_replicate, Nat.add_sub_cancel' fits.room]

/-- Zeros of the announced size take all of it. -/
theorem Fits.putAll {e : Encodable} (fits : e.Fits) (front : Bytes) :
    (⟨front, List.replicate e.size 0⟩ : Writer).putAll e.pieces =
      (⟨front ++ e.image, List.replicate (e.size - e.image.length) 0⟩, .ok ()) := by
  have room : (e.pieces.flatMap Piece.image).length ≤ (List.replicate e.size (0 : UInt8)).length := by
    rw [List.length_replicate]
    exact fits.room
  rw [Writer.putAll_plain fits.plain room, List.drop_replicate]
  rfl

theorem FailsWith.putAll {e : Encodable} {error : WireError} (fails : e.FailsWith error) (front : Bytes) :
    ∃ stopped, (⟨front, List.replicate e.size 0⟩ : Writer).putAll e.pieces = (stopped, .error error) := by
  obtain ⟨before, piece, after, split, within, own⟩ := fails
  rw [split]
  refine Writer.putAll_own within.plain ?_ own
  rw [List.length_replicate]
  exact within.room

/-- One encoder after the other. -/
def joined (parts : List Encodable) : Encodable := ⟨total (parts.map size), parts.flatMap pieces⟩

end Encodable

theorem encodePayload_eq (front : Bytes) (parts : List Encodable) :
    encodePayload front parts =
      match (⟨front, List.replicate (Encodable.joined parts).size 0⟩ : Writer).putAll (Encodable.joined parts).pieces with
      | (after, .ok _) => .ok (after.buffer.drop front.length)
      | (_, .error error) => .error (.wire error) :=
  rfl

theorem encodePayload_of_fits {front : Bytes} {parts : List Encodable} (fits : (Encodable.joined parts).Fits) :
    encodePayload front parts = .ok (Encodable.joined parts).region := by
  rw [encodePayload_eq, fits.putAll]
  simp only [Writer.buffer, List.append_assoc, List.drop_left]
  rfl

namespace RequestBuilder

theorem arg_of_fits {b : RequestBuilder} {e : Encodable} (well : b.error = none) (fits : e.Fits) :
    b.arg e = { b with args := b.args ++ e.region } := by
  simp only [arg, well, Writer.onto, fits.putAll]
  rfl

theorem foldl_arg_of_fits {b : RequestBuilder} {parts : List Encodable} (well : b.error = none)
    (fits : ∀ e ∈ parts, e.Fits) :
    parts.foldl arg b = { b with args := b.args ++ parts.flatMap Encodable.region } := by
  induction parts generalizing b with
  | nil => simp
  | cons e rest ih =>
    have others : ∀ other ∈ rest, other.Fits := by
      intro other member
      exact fits other (List.mem_cons_of_mem e member)
    rw [List.foldl_cons, arg_of_fits well (fits e List.mem_cons_self), ih (by exact well) others]
    simp only [List.flatMap_cons, List.append_assoc]

theorem argsSize_of_fits {b : RequestBuilder} {parts : List Encodable} (well : b.error = none)
    (fits : ∀ e ∈ parts, e.Fits) :
    (parts.foldl arg b).argsSize = b.argsSize + total (parts.map Encodable.size) := by
  rw [foldl_arg_of_fits well fits, argsSize, List.length_append, length_flatMap_eq_total]
  have sizes : (parts.map fun e => e.region.length) = parts.map Encodable.size :=
    List.map_congr_left fun e member => (fits e member).length_region
  rw [sizes, argsSize]

theorem foldl_arg_of_error {b : RequestBuilder} {error : WireError} (failed : b.error = some error)
    (parts : List Encodable) : parts.foldl arg b = b := by
  induction parts with
  | nil => rfl
  | cons e rest ih =>
    have same : b.arg e = b := by
      simp only [arg, failed]
    rw [List.foldl_cons, same, ih]

end RequestBuilder

/-- A value of some kind, as an argument to pass on. -/
structure TypedValue where
  kind : Kind
  value : kind.Value

namespace TypedValue

def encodable (a : TypedValue) : Encodable := .ofValue a.kind a.value

def size (a : TypedValue) : Nat := a.kind.size a.value

def encoding (a : TypedValue) : Bytes := a.kind.encoding a.value

def reading (a : TypedValue) : ReadingStep := .value a.kind

/-- It can be enumerated as it is, and its lengths and counts can be announced. -/
structure IsPassable (a : TypedValue) : Prop where
  valid : a.kind.Valid a.value
  small : a.kind.Announceable a.value

theorem IsPassable.fits {a : TypedValue} (passable : a.IsPassable) : a.encodable.Fits where
  plain := Kind.pieces_plain passable.small
  room := Nat.le_of_eq (a.kind.length_encoding a.value)

theorem fits_map {args : List TypedValue} (passable : ∀ a ∈ args, a.IsPassable) :
    ∀ e ∈ args.map encodable, e.Fits := by
  intro e member
  obtain ⟨a, present, rfl⟩ := List.mem_map.mp member
  exact (passable a present).fits

theorem region_encodable (a : TypedValue) : a.encodable.region = a.encoding := by
  have exact : a.encodable.image.length = a.encodable.size := a.kind.length_encoding a.value
  rw [Encodable.region, exact, Nat.sub_self, List.replicate_zero, List.append_nil]
  rfl

end TypedValue

namespace ReadingWalk

/-- The cursor after the steps. -/
def finish (walk : ReadingWalk) (steps : List ReadingStep) : Cursor :=
  ((walk.run steps).map Prod.snd).getLastD walk.cursor

end ReadingWalk

namespace Origin

end Origin
end CallWire
