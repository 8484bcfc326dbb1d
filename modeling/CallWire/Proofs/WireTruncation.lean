import CallWire.Proofs.WireAcceptance

/-! Decoding looks at nothing behind the value. An input that ends within a value is always found to be too
short: the comparisons with the bytes left, and the check of a text, never get to see a wrong answer first. -/

namespace CallWire

variable {α β : Type}

/-- More bytes were asked for than there are. -/
def WireError.IsShortage : WireError → Prop
  | .unexpectedEnd needed remaining => remaining < needed
  | _ => False

namespace Reading

/-- Where the input is cut short the reading fails for want of bytes. -/
def RunsOut (reading : Reading α) (input : Bytes) : Prop :=
  ∀ position cut, cut < input.length →
    ∃ error after, reading ⟨position, input.take cut⟩ = .error error after ∧ error.IsShortage

theorem bind_of_error {reading : Reading α} {c after : Cursor} {error : WireError}
    (failed : reading c = .error error after) (next : α → Reading β) : (reading >>= next) c = .error error after := by
  show EStateM.bind reading next c = _
  rw [EStateM.bind, failed]

theorem runsOut_nil (reading : Reading α) : reading.RunsOut [] := by
  intro position cut short
  exact absurd short (Nat.not_lt_zero cut)

/-- The cut is in what the first reading takes, or behind it. -/
theorem RunsOut.bind {reading : Reading α} {first second : Bytes} {a : α} (early : reading.RunsOut first)
    (one : reading.Takes first a) (next : α → Reading β) (late : (next a).RunsOut second) :
    (reading >>= next).RunsOut (first ++ second) := by
  intro position cut short
  by_cases within : cut < first.length
  · obtain ⟨error, after, failed, shortage⟩ := early position cut within
    refine ⟨error, after, ?_, shortage⟩
    rw [List.take_append_of_le_length (Nat.le_of_lt within)]
    exact bind_of_error failed next
  · have behind : first.length ≤ cut := Nat.not_lt.mp within
    have inside : cut - first.length < second.length := by
      rw [List.length_append] at short
      omega
    obtain ⟨error, after, failed, shortage⟩ := late (position + first.length) (cut - first.length) inside
    refine ⟨error, after, ?_, shortage⟩
    rw [List.take_append, List.take_of_length_le behind, bind_of_ok (one position _)]
    exact failed

theorem RunsOut.map {reading : Reading α} {input : Bytes} (early : reading.RunsOut input) (f : α → β) :
    RunsOut (do return f (← reading)) input := by
  intro position cut short
  obtain ⟨error, after, failed, shortage⟩ := early position cut short
  exact ⟨error, after, bind_of_error failed _, shortage⟩

theorem runsOut_times {reading : Reading α} {spells : Bytes → α → Prop}
    (taken : ∀ {input x}, spells input x → reading.Takes input x)
    (early : ∀ {input x}, spells input x → reading.RunsOut input) {input : Bytes} {items : List α}
    (spelled : SpellsAll spells input items) : (reading.times items.length).RunsOut input := by
  induction items generalizing input with
  | nil =>
    cases spelled
    exact runsOut_nil _
  | cons x rest ih =>
    obtain ⟨first, others, rfl, one, all⟩ := spelled
    exact (early one).bind (taken one) _ ((ih all).map (x :: ·))

end Reading

namespace Cursor

theorem runsOut_take {n : Nat} {input : Bytes} (exact : input.length = n) : (take n).RunsOut input := by
  intro position cut short
  have fewer : (input.take cut).length < n := by
    rw [List.length_take]
    omega
  exact ⟨_, _, if_neg (Nat.not_le.mpr fewer), fewer⟩

theorem runsOut_number {width : Nat} {input : Bytes} (exact : input.length = width) :
    (takeNumber width).RunsOut input :=
  (runsOut_take exact).map Bytes.value

theorem runsOut_text {content : Bytes} {n : Nat} (exact : content.length = n) : (takeText n).RunsOut content := by
  intro position cut short
  obtain ⟨error, after, failed, shortage⟩ := runsOut_take exact position cut short
  exact ⟨error, after, Reading.bind_of_error failed _, shortage⟩

end Cursor

namespace Reading

/-- If the bytes left are too few for the length, the comparison fails; if they are enough for it the cut is
found later. -/
theorem runsOut_announced {n : Nat} (small : n < 2 ^ 32) {next : Nat → Reading α} {input : Bytes}
    (late : (next n).RunsOut input) :
    (Cursor.takeLength >>= next).RunsOut (Bytes.littleEndian lengthWidth n ++ input) := by
  have width := Bytes.littleEndian_length lengthWidth n
  intro position cut short
  by_cases within : cut < (Bytes.littleEndian lengthWidth n).length
  · obtain ⟨error, after, failed, shortage⟩ := Cursor.runsOut_number width position cut within
    refine ⟨error, after, ?_, shortage⟩
    rw [List.take_append_of_le_length (Nat.le_of_lt within)]
    exact bind_of_error (bind_of_error failed _) next
  · have behind := Nat.not_lt.mp within
    have inside : cut - (Bytes.littleEndian lengthWidth n).length < input.length := by
      rw [List.length_append] at short
      omega
    rw [List.take_append, List.take_of_length_le behind]
    generalize cut - (Bytes.littleEndian lengthWidth n).length = left at inside
    by_cases there : n ≤ (input.take left).length
    · obtain ⟨error, after, failed, shortage⟩ := late (position + lengthWidth) left inside
      refine ⟨error, after, ?_, shortage⟩
      rw [bind_of_ok (Cursor.takeLength_announced small position there)]
      exact failed
    · have refused := (Cursor.takeLength_prefixed small position (input.take left)).trans (if_neg there)
      exact ⟨_, _, bind_of_error refused next, Nat.not_le.mp there⟩

theorem runsOut_counted {reading : Reading α} {spells : Bytes → α → Prop}
    (taken : ∀ {input x}, spells input x → reading.Takes input x)
    (early : ∀ {input x}, spells input x → reading.RunsOut input) {input : Bytes} {items : List α}
    (spelled : SpellsCounted spells input items) (f : List α → β) :
    RunsOut (do return f (← reading.times (← Cursor.takeCount))) input := by
  obtain ⟨small, content, rfl, all⟩ := spelled
  exact runsOut_announced small ((runsOut_times taken early all).map f)

theorem runsOut_both {first : Reading α} {second : Reading β} {left : Bytes → α → Prop} {right : Bytes → β → Prop}
    (taken : ∀ {input x}, left input x → first.Takes input x)
    (early : ∀ {input x}, left input x → first.RunsOut input)
    (late : ∀ {input y}, right input y → second.RunsOut input) {input : Bytes} {x : α × β}
    (spelled : SpellsBoth left right input x) :
    RunsOut (do let a ← first; let b ← second; return (a, b)) input := by
  obtain ⟨before, after, rfl, leading, trailing⟩ := spelled
  exact (early leading).bind (taken leading) _ ((late trailing).map (x.1, ·))

end Reading

namespace Kind

/-- A cut at any depth of a value is found there. -/
theorem reading_runsOut {k : Kind} {input : Bytes} {a : k.Value} (spelled : k.Spells input a) :
    k.reading.RunsOut input := by
  induction k generalizing input with
  | scalar s =>
    cases spelled
    exact (Cursor.runsOut_number (Bytes.littleEndian_length s.width a.toNat)).map (BitVec.ofNat (8 * s.width))
  | bool =>
    obtain ⟨byte, rfl, -⟩ := spelled
    have exact : [byte].length = 1 := rfl
    exact (Cursor.runsOut_number exact).map (· != 0)
  | text =>
    obtain ⟨small, rfl⟩ := spelled
    exact Reading.runsOut_announced small (Cursor.runsOut_text rfl)
  | boxed k ih => exact ih spelled
  | sequence form k ih =>
    have counted := Reading.runsOut_counted reading_takes ih spelled id
    simp only [id_eq, bind_pure] at counted
    exact counted
  | set order k ih =>
    obtain ⟨elements, counted, rfl⟩ := spelled
    exact Reading.runsOut_counted reading_takes ih counted (setOf order k)
  | map order k v keys values =>
    obtain ⟨pairs, counted, rfl⟩ := spelled
    exact Reading.runsOut_counted (Reading.takes_both reading_takes reading_takes)
      (Reading.runsOut_both reading_takes keys values) counted (mapOf order k v)
  | pair a b first second => exact Reading.runsOut_both reading_takes first second spelled

/-- What follows the bytes that were consumed may be anything, and none of them can be missing. A destination is
left alone by an input that ends too early. -/
theorem decoding_stays_within_consumed (k : Kind) (input : Bytes) (a : k.Value) (n : Nat)
    (decoded : k.tryDeserialize input = .ok (a, n)) :
    n ≤ input.length ∧
    (∀ other : Bytes, other.take n = input.take n → k.tryDeserialize other = .ok (a, n)) ∧
    ∀ cut, cut < n →
      (∃ needed remaining, remaining < needed ∧
        k.tryDeserialize (input.take cut) = .error (.unexpectedEnd needed remaining)) ∧
      ∀ destination, k.deserialize destination (input.take cut) = (0, destination) := by
  obtain ⟨inside, spelled⟩ := tryDeserialize_eq_ok.mp decoded
  have length : (input.take n).length = n := List.length_take_of_le inside
  refine ⟨inside, ?_, ?_⟩
  · intro other same
    have enough : n ≤ other.length := by
      rw [← same, List.length_take] at length
      omega
    rw [tryDeserialize_eq_ok, same]
    exact ⟨enough, spelled⟩
  · intro cut short
    have within : cut < (input.take n).length := length.symm ▸ short
    obtain ⟨error, after, failed, shortage⟩ := reading_runsOut spelled 0 cut within
    rw [List.take_take, Nat.min_eq_left (Nat.le_of_lt short)] at failed
    have refused : k.tryDeserialize (input.take cut) = .error error := by
      rw [tryDeserialize, Cursor.start, failed]
    refine ⟨?_, ?_⟩
    · cases error with
      | unexpectedEnd needed remaining => exact ⟨needed, remaining, shortage, refused⟩
      | bufferTooSmall | invalidUtf8 | lengthOverflow => exact shortage.elim
    · intro destination
      rw [deserialize, refused]

/-- A map that ends in a text of two bytes. The cut is between them, where the comparison of the count has passed
and what is left of the text would not be valid. -/
theorem decoding_stays_within_consumed_text :
    let k := map .sorted (scalar .u8) text
    let input : Bytes := [1, 0, 0, 0, 7, 2, 0, 0, 0, 0xc3, 0xa9]
    k.tryDeserialize (input ++ [0xff]) = .ok ([(7, "é")], 11) ∧ k.tryDeserialize input = .ok ([(7, "é")], 11) ∧
      (∃ needed remaining, remaining < needed ∧
        k.tryDeserialize (input.take 10) = .error (.unexpectedEnd needed remaining)) ∧
      k.deserialize [(1, "a")] (input.take 10) = (0, [(1, "a")]) := by
  intro k input
  have spelled : k.Spells input [(7, "é")] := by
    have encoded : k.encoding [(7, "é")] = input := rfl
    rw [← encoded]
    refine spells_encoding ?_ ?_
    · simp [k, Valid, Enumeration.Enumerates]
    · simp [k, Announceable]
      decide
  have decoded : k.tryDeserialize (input ++ [0xff]) = .ok ([(7, "é")], 11) := by
    apply tryDeserialize_eq_ok.mpr
    exact ⟨by decide, spelled⟩
  obtain ⟨-, others, cuts⟩ := decoding_stays_within_consumed k (input ++ [0xff]) _ 11 decoded
  obtain ⟨refused, kept⟩ := cuts 10 (by decide)
  exact ⟨decoded, others input rfl, refused, kept _⟩

end Kind
end CallWire
