import CallWire.Proofs.ContainerEntries
import CallWire.Wire.Decoding
import Mathlib.Algebra.GroupWithZero.Nat

/-! The byte strings that spell a value. Decoding takes every spelling of a value, whatever follows it
in the input: the early comparison of a count with the bytes left does no harm, since no kind of
value has an empty spelling. -/

namespace CallWire

variable {α β : Type}

/-- One spelling after the other. -/
def SpellsAll (spells : Bytes → α → Prop) : Bytes → List α → Prop
  | input, [] => input = []
  | input, x :: rest =>
    ∃ first others, input = first ++ others ∧ spells first x ∧ SpellsAll spells others rest

/-- The number of items in front of their spellings. -/
def SpellsCounted (spells : Bytes → α → Prop) (input : Bytes) (items : List α) : Prop :=
  items.length < 2 ^ 32 ∧
    ∃ content, input = Bytes.littleEndian lengthWidth items.length ++ content ∧ SpellsAll spells content items

/-- Two spellings side by side. -/
def SpellsBoth (left : Bytes → α → Prop) (right : Bytes → β → Prop) (input : Bytes) (x : α × β) : Prop :=
  ∃ first second, input = first ++ second ∧ left first x.1 ∧ right second x.2

/-- The grammar of the format. A true boolean has many spellings, and a set or map one for every list
of entries that it is built up from. -/
def Kind.Spells : (k : Kind) → Bytes → k.Value → Prop
  | scalar s, input, a => input = Bytes.littleEndian s.width a.toNat
  | bool, input, a => ∃ byte : UInt8, input = [byte] ∧ a = (byte != 0)
  | text, input, a =>
    (Bytes.ofText a).length < 2 ^ 32 ∧
      input = Bytes.littleEndian lengthWidth (Bytes.ofText a).length ++ Bytes.ofText a
  | boxed k, input, a => k.Spells input a
  | sequence _ k, input, xs => SpellsCounted k.Spells input xs
  | set order k, input, xs => ∃ elements, SpellsCounted k.Spells input elements ∧ setOf order k elements = xs
  | map order k v, input, xs =>
    ∃ pairs, SpellsCounted (SpellsBoth k.Spells v.Spells) input pairs ∧ mapOf order k v pairs = xs
  | pair a b, input, x => SpellsBoth a.Spells b.Spells input x

theorem SpellsCounted.length_pos {spells : Bytes → α → Prop} {input : Bytes} {items : List α}
    (spelled : SpellsCounted spells input items) : 0 < input.length := by
  obtain ⟨_, content, rfl, _⟩ := spelled
  simp only [List.length_append, Bytes.littleEndian_length, lengthWidth]
  omega

theorem Kind.spells_length_pos {k : Kind} {input : Bytes} {a : k.Value} (spelled : k.Spells input a) :
    0 < input.length := by
  induction k generalizing input with
  | scalar s =>
    cases spelled
    cases s <;> simp [Scalar.width]
  | bool =>
    obtain ⟨byte, rfl, _⟩ := spelled
    simp
  | text =>
    obtain ⟨_, rfl⟩ := spelled
    simp only [List.length_append, Bytes.littleEndian_length, lengthWidth]
    omega
  | boxed k ih => exact ih spelled
  | sequence form k => exact spelled.length_pos
  | set order k | map order k v =>
    obtain ⟨_, counted, _⟩ := spelled
    exact counted.length_pos
  | pair a b first second =>
    obtain ⟨left, right, rfl, leading, _⟩ := spelled
    have := first leading
    rw [List.length_append]
    omega

/-- The items are no more than the bytes that spell them. -/
theorem SpellsAll.length_le {spells : Bytes → α → Prop} (nonempty : ∀ {input x}, spells input x → 0 < input.length)
    {input : Bytes} {items : List α} (spelled : SpellsAll spells input items) : items.length ≤ input.length := by
  induction items generalizing input with
  | nil => simp
  | cons x rest ih =>
    obtain ⟨first, others, rfl, one, all⟩ := spelled
    have := nonempty one
    have := ih all
    simp only [List.length_append, List.length_cons]
    omega

namespace Reading

/-- The reading takes just this input, whatever follows it. -/
def Takes (reading : Reading α) (input : Bytes) (a : α) : Prop :=
  ∀ position rest, reading ⟨position, input ++ rest⟩ = .ok a ⟨position + input.length, rest⟩

theorem bind_of_ok {reading : Reading α} {c after : Cursor} {a : α} (done : reading c = .ok a after)
    (next : α → Reading β) : (reading >>= next) c = next a after := by
  show EStateM.bind reading next c = _
  rw [EStateM.bind, done]

theorem takes_pure (a : α) : Takes (pure a) [] a := by
  intro position rest
  rfl

theorem Takes.bind {reading : Reading α} {first second : Bytes} {a : α} {b : β}
    (one : reading.Takes first a) (next : α → Reading β) (other : (next a).Takes second b) :
    Takes (reading >>= next) (first ++ second) b := by
  intro position rest
  rw [List.append_assoc, bind_of_ok (one position (second ++ rest)), other, List.length_append, Nat.add_assoc]

theorem Takes.map {reading : Reading α} {input : Bytes} {a : α} (f : α → β) (taken : reading.Takes input a) :
    Takes (do return f (← reading)) input (f a) := by
  have both := taken.bind (fun a => pure (f a)) (takes_pure (f a))
  rwa [List.append_nil] at both

theorem takes_times {reading : Reading α} {spells : Bytes → α → Prop}
    (taken : ∀ {input x}, spells input x → reading.Takes input x) {input : Bytes} {items : List α}
    (spelled : SpellsAll spells input items) : (reading.times items.length).Takes input items := by
  induction items generalizing input with
  | nil =>
    cases spelled
    exact takes_pure []
  | cons x rest ih =>
    obtain ⟨first, others, rfl, one, all⟩ := spelled
    exact (taken one).bind _ ((ih all).map (x :: ·))

end Reading

namespace Cursor

theorem takes_take {n : Nat} {input : Bytes} (exact : input.length = n) : (take n).Takes input input := by
  intro position rest
  subst exact
  simp [take, remaining]

theorem takes_number {width : Nat} {input : Bytes} (exact : input.length = width) :
    (takeNumber width).Takes input input.value :=
  (takes_take exact).map Bytes.value

/-- A length reads back, and is then compared with the bytes left. -/
theorem takeLength_prefixed {n : Nat} (small : n < 2 ^ 32) (position : Nat) (rest : Bytes) :
    takeLength ⟨position, Bytes.littleEndian lengthWidth n ++ rest⟩ =
      if n ≤ rest.length then .ok n ⟨position + lengthWidth, rest⟩
      else .error (.unexpectedEnd n rest.length) ⟨position + lengthWidth, rest⟩ := by
  have number := takes_number (Bytes.littleEndian_length lengthWidth n) position rest
  have value : Bytes.value (Bytes.littleEndian lengthWidth n) = n := Bytes.value_littleEndian_of_lt small
  rw [value, Bytes.littleEndian_length] at number
  exact Reading.bind_of_ok number _

theorem takeLength_announced {n : Nat} (small : n < 2 ^ 32) (position : Nat) {rest : Bytes}
    (there : n ≤ rest.length) :
    takeLength ⟨position, Bytes.littleEndian lengthWidth n ++ rest⟩ = .ok n ⟨position + lengthWidth, rest⟩ :=
  (takeLength_prefixed small position rest).trans (if_pos there)

end Cursor

namespace Reading

theorem takes_announced {n : Nat} (small : n < 2 ^ 32) {next : Nat → Reading α} {input : Bytes} {a : α}
    (there : n ≤ input.length) (taken : (next n).Takes input a) :
    (Cursor.takeLength >>= next).Takes (Bytes.littleEndian lengthWidth n ++ input) a := by
  intro position rest
  have enough : n ≤ (input ++ rest).length := by
    rw [List.length_append]
    omega
  have length := Cursor.takeLength_announced small position enough
  rw [List.append_assoc, bind_of_ok length, taken, List.length_append, Bytes.littleEndian_length, Nat.add_assoc]

/-- The count passes its comparison with the bytes left, as every item has a byte at least. -/
theorem takes_counted {reading : Reading α} {spells : Bytes → α → Prop}
    (nonempty : ∀ {input x}, spells input x → 0 < input.length)
    (taken : ∀ {input x}, spells input x → reading.Takes input x) {input : Bytes} {items : List α}
    (spelled : SpellsCounted spells input items) (f : List α → β) :
    Takes (do return f (← reading.times (← Cursor.takeCount))) input (f items) := by
  obtain ⟨small, content, rfl, all⟩ := spelled
  exact takes_announced small (all.length_le nonempty) ((takes_times taken all).map f)

theorem takes_both {first : Reading α} {second : Reading β} {left : Bytes → α → Prop} {right : Bytes → β → Prop}
    (one : ∀ {input x}, left input x → first.Takes input x)
    (other : ∀ {input y}, right input y → second.Takes input y) {input : Bytes} {x : α × β}
    (spelled : SpellsBoth left right input x) :
    Takes (do let a ← first; let b ← second; return (a, b)) input x := by
  obtain ⟨before, after, rfl, leading, trailing⟩ := spelled
  exact (one leading).bind _ ((other trailing).map (x.1, ·))

end Reading

theorem SpellsBoth.length_pos {left : Bytes → α → Prop} {right : Bytes → β → Prop}
    (nonempty : ∀ {input x}, left input x → 0 < input.length) {input : Bytes} {x : α × β}
    (spelled : SpellsBoth left right input x) : 0 < input.length := by
  obtain ⟨first, second, rfl, leading, _⟩ := spelled
  have := nonempty leading
  rw [List.length_append]
  omega

theorem Bytes.toText?_ofText (a : String) : toText? (ofText a) = some a := by
  have same : ByteArray.mk (ofText a).toArray = a.toByteArray := ByteArray.ext rfl
  rw [toText?, same, String.fromUTF8?, dif_pos a.isValidUTF8]
  rfl

theorem Cursor.takes_text (a : String) {n : Nat} (exact : (Bytes.ofText a).length = n) :
    Reading.Takes (do
      let content ← Cursor.take n
      match Bytes.toText? content with
      | some a => return a
      | none => throw .invalidUtf8) (Bytes.ofText a) a := by
  intro position rest
  refine (Reading.bind_of_ok (takes_take exact position rest) _).trans ?_
  rw [Bytes.toText?_ofText]
  rfl

/-- Decoding is complete for the grammar, in front of any rest. -/
theorem Kind.reading_takes {k : Kind} {input : Bytes} {a : k.Value} (spelled : k.Spells input a) :
    k.reading.Takes input a := by
  induction k generalizing input with
  | scalar s =>
    cases spelled
    have number := (Cursor.takes_number (Bytes.littleEndian_length s.width a.toNat)).map (BitVec.ofNat (8 * s.width))
    have value : BitVec.ofNat (8 * s.width) (Bytes.value (Bytes.littleEndian s.width a.toNat)) = a := by
      have small : a.toNat < 256 ^ s.width := by
        have bound := a.isLt
        rwa [Nat.pow_mul] at bound
      rw [Bytes.value_littleEndian, Nat.pow_eq, Nat.mod_eq_of_lt small, BitVec.ofNat_toNat, BitVec.setWidth_eq]
    rwa [value] at number
  | bool =>
    obtain ⟨byte, rfl, rfl⟩ := spelled
    have exact : [byte].length = 1 := rfl
    have number := (Cursor.takes_number exact).map (· != 0)
    have value : (Bytes.value [byte] != 0) = (byte != 0) := by
      rw [Bytes.value, Bytes.value, Bool.eq_iff_iff]
      simp [← UInt8.toNat_inj]
    rwa [value] at number
  | text =>
    obtain ⟨small, rfl⟩ := spelled
    exact Reading.takes_announced small (Nat.le_refl _) (Cursor.takes_text a rfl)
  | boxed k ih => exact ih spelled
  | sequence form k ih =>
    have counted := Reading.takes_counted spells_length_pos ih spelled id
    simp only [id_eq, bind_pure] at counted
    exact counted
  | set order k ih =>
    obtain ⟨elements, counted, rfl⟩ := spelled
    exact Reading.takes_counted spells_length_pos ih counted (setOf order k)
  | map order k v keys values =>
    obtain ⟨pairs, counted, rfl⟩ := spelled
    exact Reading.takes_counted (SpellsBoth.length_pos spells_length_pos) (Reading.takes_both keys values) counted
      (mapOf order k v)
  | pair a b first second => exact Reading.takes_both first second spelled

end CallWire
