import CallWire.Proofs.WireGrammar

/-! Decoding takes nothing but spellings off an input, and it fails for what the input lacks or not at all. Both
hold however the counts of containers are read, so the comparison of a count with the bytes left is a parameter
here. -/

namespace CallWire

variable {α β : Type}

/-- A failure that the input is to blame for. -/
def WireError.IsOfInput : WireError → Prop
  | .unexpectedEnd _ _ | .invalidUtf8 => True
  | .bufferTooSmall _ _ | .lengthOverflow _ => False

/-- The four bytes in front of a text or of the entries of a container. -/
def Announces (input : Bytes) (n : Nat) : Prop :=
  n < 2 ^ 32 ∧ input = Bytes.littleEndian lengthWidth n

namespace Reading

/-- Whatever the reading gives, it has taken a spelling of it. -/
def TakesOnly (reading : Reading α) (spells : Bytes → α → Prop) : Prop :=
  ∀ c a after, reading c = .ok a after →
    ∃ taken, c.rest = taken ++ after.rest ∧ after.position = c.position + taken.length ∧ spells taken a

def FailsOnly (reading : Reading α) (expected : WireError → Prop) : Prop :=
  ∀ c error after, reading c = .error error after → expected error

/-- The reading succeeds where the other one does, in the same way. -/
def Covers (reading other : Reading α) : Prop :=
  ∀ c a after, other c = .ok a after → reading c = .ok a after

theorem bind_eq_ok {reading : Reading α} {next : α → Reading β} {c after : Cursor} {b : β}
    (done : (reading >>= next) c = .ok b after) :
    ∃ a between, reading c = .ok a between ∧ next a between = .ok b after := by
  have done : EStateM.bind reading next c = .ok b after := done
  rw [EStateM.bind] at done
  split at done
  · exact ⟨_, _, ‹_›, done⟩
  · cases done

theorem bind_eq_error {reading : Reading α} {next : α → Reading β} {c after : Cursor} {error : WireError}
    (failed : (reading >>= next) c = .error error after) :
    reading c = .error error after ∨ ∃ a between, reading c = .ok a between ∧ next a between = .error error after := by
  have failed : EStateM.bind reading next c = .error error after := failed
  rw [EStateM.bind] at failed
  split at failed
  · exact .inr ⟨_, _, ‹_›, failed⟩
  · cases failed
    exact .inl ‹_›

theorem takesOnly_pure (a : α) : TakesOnly (pure a) fun input b => input = [] ∧ b = a := by
  intro c b after done
  cases done
  exact ⟨[], rfl, rfl, rfl, rfl⟩

theorem TakesOnly.imp {reading : Reading α} {spells spells' : Bytes → α → Prop} (only : reading.TakesOnly spells)
    (implies : ∀ input a, spells input a → spells' input a) : reading.TakesOnly spells' := by
  intro c a after done
  obtain ⟨taken, rest, position, spelled⟩ := only c a after done
  exact ⟨taken, rest, position, implies taken a spelled⟩

theorem TakesOnly.bind {reading : Reading α} {next : α → Reading β} {left : Bytes → α → Prop}
    {right : α → Bytes → β → Prop} (one : reading.TakesOnly left) (other : ∀ a, (next a).TakesOnly (right a)) :
    (reading >>= next).TakesOnly fun input b =>
      ∃ a first second, input = first ++ second ∧ left first a ∧ right a second b := by
  intro c b after done
  obtain ⟨a, between, began, ended⟩ := bind_eq_ok done
  obtain ⟨first, rest, position, leading⟩ := one c a between began
  obtain ⟨second, rest', position', trailing⟩ := other a between b after ended
  refine ⟨first ++ second, ?_, ?_, a, first, second, rfl, leading, trailing⟩
  · rw [rest, rest', List.append_assoc]
  · rw [position', position, List.length_append, Nat.add_assoc]

theorem TakesOnly.map {reading : Reading α} {spells : Bytes → α → Prop} (only : reading.TakesOnly spells)
    (f : α → β) : TakesOnly (do return f (← reading)) fun input b => ∃ a, spells input a ∧ f a = b := by
  refine (only.bind fun a => takesOnly_pure (f a)).imp fun input b => ?_
  rintro ⟨a, first, second, rfl, spelled, rfl, rfl⟩
  rw [List.append_nil]
  exact ⟨a, spelled, rfl⟩

theorem TakesOnly.times {reading : Reading α} {spells : Bytes → α → Prop} (only : reading.TakesOnly spells)
    (n : Nat) : (reading.times n).TakesOnly fun input items => items.length = n ∧ SpellsAll spells input items := by
  induction n with
  | zero =>
    refine (takesOnly_pure []).imp fun input items => ?_
    rintro ⟨rfl, rfl⟩
    exact ⟨rfl, rfl⟩
  | succ n ih =>
    refine (only.bind fun first => ih.map (first :: ·)).imp fun input items => ?_
    rintro ⟨x, first, others, rfl, one, rest, ⟨length, all⟩, rfl⟩
    exact ⟨congrArg (· + 1) length, first, others, rfl, one, all⟩

theorem TakesOnly.both {first : Reading α} {second : Reading β} {left : Bytes → α → Prop}
    {right : Bytes → β → Prop} (one : first.TakesOnly left) (other : second.TakesOnly right) :
    TakesOnly (do let a ← first; let b ← second; return (a, b)) (SpellsBoth left right) := by
  refine (one.bind fun a => other.map (a, ·)).imp fun input x => ?_
  rintro ⟨a, before, after, rfl, leading, b, trailing, rfl⟩
  exact ⟨before, after, rfl, leading, trailing⟩

theorem TakesOnly.counted {count : Reading Nat} {reading : Reading α} {spells : Bytes → α → Prop}
    (announced : count.TakesOnly Announces) (only : reading.TakesOnly spells) (f : List α → β) :
    TakesOnly (do return f (← reading.times (← count))) fun input b =>
      ∃ items, SpellsCounted spells input items ∧ f items = b := by
  refine (announced.bind fun n => (only.times n).map f).imp fun input b => ?_
  rintro ⟨n, prefixed, content, rfl, ⟨small, rfl⟩, items, ⟨rfl, all⟩, rfl⟩
  exact ⟨items, ⟨small, content, rfl, all⟩, rfl⟩

theorem failsOnly_pure {expected : WireError → Prop} (a : α) : FailsOnly (pure a) expected := by
  intro c error after failed
  cases failed

theorem FailsOnly.bind {expected : WireError → Prop} {reading : Reading α} {next : α → Reading β}
    (one : reading.FailsOnly expected) (other : ∀ a, (next a).FailsOnly expected) :
    (reading >>= next).FailsOnly expected := by
  intro c error after failed
  rcases bind_eq_error failed with early | ⟨a, between, _, late⟩
  · exact one c error after early
  · exact other a between error after late

theorem FailsOnly.times {expected : WireError → Prop} {reading : Reading α} (only : reading.FailsOnly expected)
    (n : Nat) : (reading.times n).FailsOnly expected := by
  induction n with
  | zero => exact failsOnly_pure []
  | succ n ih => exact only.bind fun first => ih.bind fun others => failsOnly_pure (first :: others)

theorem covers_refl (reading : Reading α) : reading.Covers reading := fun _ _ _ done => done

theorem Covers.bind {reading other : Reading α} {next next' : α → Reading β} (one : reading.Covers other)
    (further : ∀ a, (next a).Covers (next' a)) : (reading >>= next).Covers (other >>= next') := by
  intro c b after done
  obtain ⟨a, between, began, ended⟩ := bind_eq_ok done
  rw [bind_of_ok (one c a between began)]
  exact further a between b after ended

theorem Covers.times {reading other : Reading α} (covers : reading.Covers other) (n : Nat) :
    (reading.times n).Covers (other.times n) := by
  induction n with
  | zero => exact covers_refl _
  | succ n ih => exact covers.bind fun first => ih.bind fun others => covers_refl _

end Reading

theorem Bytes.ofText_of_toText? {content : Bytes} {a : String} (valid : toText? content = some a) :
    ofText a = content := by
  unfold toText? String.fromUTF8? at valid
  split at valid
  · cases valid
    rfl
  · cases valid

/-- The reading of a text behind its length. -/
def Cursor.takeText (n : Nat) : Reading String := do
  let content ← Cursor.take n
  match Bytes.toText? content with
  | some a => return a
  | none => throw .invalidUtf8

namespace Cursor

open Reading

theorem take_takesOnly (n : Nat) : (take n).TakesOnly fun input content => input = content ∧ content.length = n := by
  intro c content after done
  unfold take at done
  split at done
  · rename_i enough
    cases done
    have length : (c.rest.take n).length = n := List.length_take_of_le enough
    exact ⟨c.rest.take n, (List.take_append_drop n c.rest).symm, congrArg (c.position + ·) length.symm, rfl, length⟩
  · cases done

theorem takeNumber_takesOnly (width : Nat) :
    (takeNumber width).TakesOnly fun input n => n < 256 ^ width ∧ input = Bytes.littleEndian width n := by
  refine ((take_takesOnly width).map Bytes.value).imp fun input n => ?_
  rintro ⟨content, ⟨rfl, length⟩, rfl⟩
  exact ⟨length ▸ Bytes.value_lt input, (Bytes.littleEndian_value_of_length length).symm⟩

/-- The comparison refuses some lengths and changes nothing else. -/
theorem takeNumber_covers_takeLength : (takeNumber lengthWidth).Covers takeLength := by
  intro c n after done
  obtain ⟨m, between, number, compared⟩ := bind_eq_ok done
  split at compared
  · cases compared
    exact number
  · cases compared

theorem takeNumber_announces : (takeNumber lengthWidth).TakesOnly Announces := takeNumber_takesOnly lengthWidth

theorem takeLength_announces : takeLength.TakesOnly Announces := by
  intro c n after done
  exact takeNumber_announces c n after (takeNumber_covers_takeLength c n after done)

theorem take_failsOnly (n : Nat) : (take n).FailsOnly WireError.IsOfInput := by
  intro c error after failed
  unfold take at failed
  split at failed
  · cases failed
  · cases failed
    trivial

theorem takeNumber_failsOnly (width : Nat) : (takeNumber width).FailsOnly WireError.IsOfInput :=
  (take_failsOnly width).bind fun content => failsOnly_pure content.value

theorem takeLength_failsOnly : takeLength.FailsOnly WireError.IsOfInput := by
  refine (takeNumber_failsOnly lengthWidth).bind fun n => ?_
  intro c error after failed
  dsimp only at failed
  split at failed
  · cases failed
  · cases failed
    trivial

theorem takeText_takesOnly (n : Nat) :
    (takeText n).TakesOnly fun input a => input = Bytes.ofText a ∧ (Bytes.ofText a).length = n := by
  intro c a after done
  obtain ⟨content, between, taken, checked⟩ := bind_eq_ok done
  cases valid : Bytes.toText? content with
  | none =>
    rw [valid] at checked
    cases checked
  | some text =>
    rw [valid] at checked
    cases checked
    have spelled := Bytes.ofText_of_toText? valid
    obtain ⟨input, rest, position, rfl, length⟩ := take_takesOnly n c content _ taken
    exact ⟨input, rest, position, spelled.symm, spelled.symm ▸ length⟩

theorem takeText_failsOnly (n : Nat) : (takeText n).FailsOnly WireError.IsOfInput := by
  refine (take_failsOnly n).bind fun content => ?_
  intro c error after failed
  cases valid : Bytes.toText? content with
  | none =>
    rw [valid] at failed
    cases failed
    trivial
  | some text =>
    rw [valid] at failed
    cases failed

end Cursor

namespace Kind

open Reading

/-- Decoding with the counts of containers read in some other way. -/
def readingBy (count : Reading Nat) : (k : Kind) → Reading k.Value
  | scalar s => do return BitVec.ofNat (8 * s.width) (← Cursor.takeNumber s.width)
  | bool => do return (← Cursor.takeNumber 1) != 0
  | text => do Cursor.takeText (← Cursor.takeLength)
  | boxed k => k.readingBy count
  | sequence _ k => do (k.readingBy count).times (← count)
  | set order k => do return setOf order k (← (k.readingBy count).times (← count))
  | map order k v => do
    let entry : Reading (k.Value × v.Value) := do
      let key ← k.readingBy count
      let value ← v.readingBy count
      return (key, value)
    return mapOf order k v (← entry.times (← count))
  | pair a b => do
    let first ← a.readingBy count
    let second ← b.readingBy count
    return (first, second)

theorem reading_eq_readingBy (k : Kind) : k.reading = k.readingBy Cursor.takeCount := by
  induction k with
  | scalar s | bool | text => rfl
  | boxed k ih => exact ih
  | sequence form k ih | set order k ih => simp only [reading, readingBy, ih]
  | map order k v keys values => simp only [reading, readingBy, keys, values]
  | pair a b first second => simp only [reading, readingBy, first, second]

theorem readingBy_takesOnly {count : Reading Nat} (announced : count.TakesOnly Announces) (k : Kind) :
    (k.readingBy count).TakesOnly k.Spells := by
  induction k with
  | scalar s =>
    refine ((Cursor.takeNumber_takesOnly s.width).map (BitVec.ofNat (8 * s.width))).imp fun input a => ?_
    rintro ⟨n, ⟨small, rfl⟩, rfl⟩
    have bound : n < 2 ^ (8 * s.width) := by rwa [Nat.pow_mul]
    show Bytes.littleEndian s.width n = Bytes.littleEndian s.width (BitVec.ofNat (8 * s.width) n).toNat
    rw [BitVec.toNat_ofNat, Nat.mod_eq_of_lt bound]
  | bool =>
    refine ((Cursor.takeNumber_takesOnly 1).map (· != 0)).imp fun input a => ?_
    rintro ⟨n, ⟨small, rfl⟩, rfl⟩
    refine ⟨UInt8.ofNat n, rfl, ?_⟩
    have same : (UInt8.ofNat n).toNat = n := UInt8.toNat_ofNat_of_lt small
    rw [Bool.eq_iff_iff, bne_iff_ne, bne_iff_ne, Ne, Ne, ← UInt8.toNat_inj, same]
    rfl
  | text =>
    refine (Cursor.takeLength_announces.bind Cursor.takeText_takesOnly).imp fun input a => ?_
    rintro ⟨n, first, second, rfl, ⟨small, rfl⟩, rfl, rfl⟩
    exact ⟨small, rfl⟩
  | boxed k ih => exact ih
  | sequence form k ih =>
    have counted := announced.counted ih id
    simp only [id_eq, bind_pure, exists_eq_right] at counted
    exact counted
  | set order k ih => exact announced.counted ih (setOf order k)
  | map order k v keys values => exact announced.counted (keys.both values) (mapOf order k v)
  | pair a b first second => exact first.both second

theorem readingBy_failsOnly {count : Reading Nat} (honest : count.FailsOnly WireError.IsOfInput) (k : Kind) :
    (k.readingBy count).FailsOnly WireError.IsOfInput := by
  induction k with
  | scalar s => exact (Cursor.takeNumber_failsOnly s.width).bind fun n => failsOnly_pure _
  | bool => exact (Cursor.takeNumber_failsOnly 1).bind fun n => failsOnly_pure _
  | text => exact Cursor.takeLength_failsOnly.bind Cursor.takeText_failsOnly
  | boxed k ih => exact ih
  | sequence form k ih => exact honest.bind ih.times
  | set order k ih => exact honest.bind fun n => (ih.times n).bind fun elements => failsOnly_pure _
  | map order k v keys values =>
    refine honest.bind fun n => ?_
    have entry := keys.bind fun key => values.bind fun value => failsOnly_pure (key, value)
    exact (entry.times n).bind fun pairs => failsOnly_pure _
  | pair a b first second => exact first.bind fun x => second.bind fun y => failsOnly_pure _

theorem readingBy_covers {count count' : Reading Nat} (covers : count.Covers count') (k : Kind) :
    (k.readingBy count).Covers (k.readingBy count') := by
  induction k with
  | scalar s | bool | text => exact covers_refl _
  | boxed k ih => exact ih
  | sequence form k ih => exact covers.bind ih.times
  | set order k ih => exact covers.bind fun n => (ih.times n).bind fun elements => covers_refl _
  | map order k v keys values =>
    refine covers.bind fun n => ?_
    have entry := keys.bind fun key => values.bind fun value => covers_refl (pure (key, value))
    exact (entry.times n).bind fun pairs => covers_refl _
  | pair a b first second => exact first.bind fun x => second.bind fun y => covers_refl _

end Kind
end CallWire
