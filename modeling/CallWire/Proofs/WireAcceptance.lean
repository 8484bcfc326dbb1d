import CallWire.Proofs.SpelledValues
import CallWire.Proofs.WireSoundness

/-! The decoder accepts exactly the grammar. Here the grammar says what an input stands for without building
containers up: a set for the elements listed, a map for the last value of each key. -/

namespace CallWire

section
variable {α β α' β' : Type} {spells : Bytes → α → Prop} {denotes : Bytes → α' → Prop} {f : α → α'}

theorem spellsAll_iff (each : ∀ input m, denotes input m ↔ ∃ x, spells input x ∧ f x = m) {input : Bytes}
    {ms : List α'} : SpellsAll denotes input ms ↔ ∃ items, SpellsAll spells input items ∧ items.map f = ms := by
  induction ms generalizing input with
  | nil =>
    constructor
    · rintro rfl
      exact ⟨[], rfl, rfl⟩
    · rintro ⟨items, all, none⟩
      cases List.map_eq_nil_iff.mp none
      exact all
  | cons m rest ih =>
    constructor
    · rintro ⟨first, others, rfl, one, all⟩
      obtain ⟨x, spelled, rfl⟩ := (each first m).mp one
      obtain ⟨items, spelled', rfl⟩ := ih.mp all
      exact ⟨x :: items, ⟨first, others, rfl, spelled, spelled'⟩, rfl⟩
    · rintro ⟨items, all, equal⟩
      obtain ⟨x, others, rfl, rfl, rfl⟩ := List.map_eq_cons_iff.mp equal
      obtain ⟨first, later, rfl, one, all⟩ := all
      exact ⟨first, later, rfl, (each first (f x)).mpr ⟨x, one, rfl⟩, ih.mpr ⟨others, all, rfl⟩⟩

theorem spellsCounted_iff (each : ∀ input m, denotes input m ↔ ∃ x, spells input x ∧ f x = m) {input : Bytes}
    {ms : List α'} :
    SpellsCounted denotes input ms ↔ ∃ items, SpellsCounted spells input items ∧ items.map f = ms := by
  constructor
  · rintro ⟨small, content, rfl, all⟩
    obtain ⟨items, spelled, rfl⟩ := (spellsAll_iff each).mp all
    rw [List.length_map] at small ⊢
    exact ⟨items, ⟨small, content, rfl, spelled⟩, rfl⟩
  · rintro ⟨items, ⟨small, content, rfl, spelled⟩, rfl⟩
    refine ⟨?_, content, ?_, (spellsAll_iff each).mpr ⟨items, spelled, rfl⟩⟩
    · rwa [List.length_map]
    · rw [List.length_map]

theorem spellsBoth_iff {left : Bytes → α → Prop} {right : Bytes → β → Prop} {left' : Bytes → α' → Prop}
    {right' : Bytes → β' → Prop} {f : α → α'} {g : β → β'}
    (one : ∀ input m, left' input m ↔ ∃ x, left input x ∧ f x = m)
    (other : ∀ input m, right' input m ↔ ∃ y, right input y ∧ g y = m) (input : Bytes) (m : α' × β') :
    SpellsBoth left' right' input m ↔ ∃ x, SpellsBoth left right input x ∧ Prod.map f g x = m := by
  obtain ⟨m, m'⟩ := m
  constructor
  · rintro ⟨first, second, rfl, leading, trailing⟩
    obtain ⟨x, spelled, rfl⟩ := (one first m).mp leading
    obtain ⟨y, spelled', rfl⟩ := (other second m').mp trailing
    exact ⟨(x, y), ⟨first, second, rfl, spelled, spelled'⟩, rfl⟩
  · rintro ⟨⟨x, y⟩, ⟨first, second, rfl, spelled, spelled'⟩, equal⟩
    cases equal
    exact ⟨first, second, rfl, (one first _).mpr ⟨x, spelled, rfl⟩, (other second _).mpr ⟨y, spelled', rfl⟩⟩

end

namespace Kind

/-- What an input stands for. -/
def Denotes : (k : Kind) → Bytes → k.Meaning → Prop
  | scalar s, input, a => input = Bytes.littleEndian s.width a.toNat
  | bool, input, a => ∃ byte : UInt8, input = [byte] ∧ a = (byte != 0)
  | text, input, a =>
    (Bytes.ofText a).length < 2 ^ 32 ∧
      input = Bytes.littleEndian lengthWidth (Bytes.ofText a).length ++ Bytes.ofText a
  | boxed k, input, a => k.Denotes input a
  | sequence _ k, input, xs => SpellsCounted k.Denotes input xs
  | set _ k, input, xs => ∃ elements, SpellsCounted k.Denotes input elements ∧ {x | x ∈ elements} = xs
  | map _ k v, input, xs =>
    ∃ pairs, SpellsCounted (SpellsBoth k.Denotes v.Denotes) input pairs ∧ Latest Prod.fst pairs = xs
  | pair a b, input, x => SpellsBoth a.Denotes b.Denotes input x

theorem meaning_setOf (order : Enumeration) (k : Kind) (elements : List k.Value) :
    (set order k).meaning (setOf order k elements) = {m | m ∈ elements.map k.meaning} := by
  ext m
  constructor
  · rintro ⟨x, member, rfl⟩
    exact List.mem_map_of_mem (((setOf_merged order k elements).1 x).mp member)
  · intro there
    obtain ⟨x, member, rfl⟩ := List.mem_map.mp there
    exact ⟨x, ((setOf_merged order k elements).1 x).mpr member, rfl⟩

/-- Different keys stand for different things, so the last value of a key is what its last spelling stands for. -/
theorem meaning_mapOf {order : Enumeration} {k v : Kind} (ordered : k.isOrdered) {pairs : List (k.Value × v.Value)}
    (valid : ∀ x ∈ pairs, k.Valid x.1) :
    (map order k v).meaning (mapOf order k v pairs) = Latest Prod.fst (pairs.map (Prod.map k.meaning v.meaning)) := by
  have present : {x | x ∈ mapOf order k v pairs} = Latest Prod.fst pairs := Set.ext (mapOf_merged order k v pairs).1
  have kept : Latest Prod.fst (pairs.map (Prod.map k.meaning v.meaning)) =
      Prod.map k.meaning v.meaning '' Latest Prod.fst pairs := by
    refine latest_map fun x there y here => ?_
    exact ⟨eq_of_meaning_eq ordered (valid x there) (valid y here), congrArg k.meaning⟩
  rw [kept, ← present]
  rfl

theorem denotes_iff {k : Kind} (wellFormed : k.isWellFormed) (input : Bytes) (m : k.Meaning) :
    k.Denotes input m ↔ ∃ a, k.Spells input a ∧ k.meaning a = m := by
  induction k generalizing input with
  | scalar s | bool | text => exact exists_eq_right.symm
  | boxed k ih => exact ih wellFormed input m
  | sequence form k ih => exact spellsCounted_iff (ih wellFormed)
  | set order k ih =>
    rw [isWellFormed, Bool.and_eq_true] at wellFormed
    have each ms : SpellsCounted k.Denotes input ms ↔ ∃ xs, SpellsCounted k.Spells input xs ∧ xs.map k.meaning = ms :=
      spellsCounted_iff (ih wellFormed.2)
    constructor
    · rintro ⟨elements', counted, rfl⟩
      obtain ⟨elements, spelled, rfl⟩ := (each elements').mp counted
      exact ⟨setOf order k elements, ⟨elements, spelled, rfl⟩, meaning_setOf order k elements⟩
    · rintro ⟨_, ⟨elements, counted, rfl⟩, rfl⟩
      exact ⟨elements.map k.meaning, (each _).mpr ⟨elements, counted, rfl⟩, (meaning_setOf order k elements).symm⟩
  | map order k v keys values =>
    rw [isWellFormed, Bool.and_eq_true, Bool.and_eq_true] at wellFormed
    have each ms : SpellsCounted (SpellsBoth k.Denotes v.Denotes) input ms ↔
        ∃ xs, SpellsCounted (SpellsBoth k.Spells v.Spells) input xs ∧ xs.map (Prod.map k.meaning v.meaning) = ms :=
      spellsCounted_iff (spellsBoth_iff (keys wellFormed.1.2) (values wellFormed.2))
    -- The keys are ordered, so equal meanings are equal keys, and the latest entry is the same on both sides.
    have entries {pairs : List (k.Value × v.Value)}
        (counted : SpellsCounted (SpellsBoth k.Spells v.Spells) input pairs) :
        (map order k v).meaning (mapOf order k v pairs) =
          Latest Prod.fst (pairs.map (Prod.map k.meaning v.meaning)) := by
      refine meaning_mapOf wellFormed.1.1 (counted.forall_mem fun spelled => ?_)
      exact (spelled.imp valid_of_spells valid_of_spells).1
    constructor
    · rintro ⟨pairs', counted, rfl⟩
      obtain ⟨pairs, spelled, rfl⟩ := (each pairs').mp counted
      exact ⟨mapOf order k v pairs, ⟨pairs, spelled, rfl⟩, entries spelled⟩
    · rintro ⟨_, ⟨pairs, counted, rfl⟩, rfl⟩
      exact ⟨pairs.map (Prod.map k.meaning v.meaning), (each _).mpr ⟨pairs, counted, rfl⟩, (entries counted).symm⟩
  | pair a b first second =>
    rw [isWellFormed, Bool.and_eq_true] at wellFormed
    exact spellsBoth_iff (first wellFormed.1) (second wellFormed.2) input m

/-- Decoding at the start of the input with the counts of containers read in some other way. -/
def tryDeserializeBy (count : Reading Nat) (k : Kind) (input : Bytes) : Except WireError (k.Value × Nat) :=
  match k.readingBy count (Cursor.start input) with
  | .ok value c => .ok (value, c.position)
  | .error error _ => .error error

theorem tryDeserialize_eq_tryDeserializeBy (k : Kind) (input : Bytes) :
    k.tryDeserialize input = k.tryDeserializeBy Cursor.takeCount input := by
  rw [tryDeserialize, reading_eq_readingBy]
  rfl

theorem spells_of_tryDeserializeBy {count : Reading Nat} (announced : count.TakesOnly Announces) {k : Kind}
    {input : Bytes} {a : k.Value} {n : Nat} (decoded : k.tryDeserializeBy count input = .ok (a, n)) :
    n ≤ input.length ∧ k.Spells (input.take n) a := by
  unfold tryDeserializeBy at decoded
  split at decoded
  · rename_i value c read
    cases decoded
    obtain ⟨taken, rest, position, spelled⟩ := readingBy_takesOnly announced k _ _ _ read
    rw [Cursor.start, Nat.zero_add] at position
    have rest : input = taken ++ c.rest := rest
    rw [rest, position, List.take_left, List.length_append]
    exact ⟨Nat.le_add_right _ _, spelled⟩
  · cases decoded

theorem tryDeserialize_eq_ok {k : Kind} {input : Bytes} {a : k.Value} {n : Nat} :
    k.tryDeserialize input = .ok (a, n) ↔ n ≤ input.length ∧ k.Spells (input.take n) a := by
  constructor
  · intro decoded
    rw [tryDeserialize_eq_tryDeserializeBy] at decoded
    exact spells_of_tryDeserializeBy Cursor.takeLength_announces decoded
  · rintro ⟨inside, spelled⟩
    have taken := reading_takes spelled 0 (input.drop n)
    rw [List.take_append_drop, List.length_take_of_le inside, Nat.zero_add] at taken
    rw [tryDeserialize, Cursor.start, taken]

/-- A decoder that reads a count without comparing it with the bytes left accepts nothing more: no element has an
empty spelling, so the elements of a count too large cannot all be there. -/
theorem tryDeserializeBy_takeNumber (k : Kind) (input : Bytes) (a : k.Value) (n : Nat) :
    k.tryDeserializeBy (Cursor.takeNumber lengthWidth) input = .ok (a, n) ↔ k.tryDeserialize input = .ok (a, n) := by
  constructor
  · intro decoded
    exact tryDeserialize_eq_ok.mpr (spells_of_tryDeserializeBy Cursor.takeNumber_announces decoded)
  · intro decoded
    rw [tryDeserialize_eq_tryDeserializeBy] at decoded
    unfold tryDeserializeBy at decoded ⊢
    split at decoded
    · rename_i value c read
      rw [readingBy_covers Cursor.takeNumber_covers_takeLength k _ _ _ read]
      exact decoded
    · cases decoded

theorem tryDeserialize_error {k : Kind} {input : Bytes} {error : WireError}
    (failed : k.tryDeserialize input = .error error) : error.IsOfInput := by
  rw [tryDeserialize_eq_tryDeserializeBy] at failed
  unfold tryDeserializeBy at failed
  split at failed
  · cases failed
  · rename_i read
    cases failed
    exact readingBy_failsOnly Cursor.takeLength_failsOnly k _ _ _ read

/-- The answer is what the part of the input consumed stands for. The comparison of counts with the bytes left
changes no answer, and every failure is one of the input. -/
theorem tryDeserialize_accepts (k : Kind) (wellFormed : k.isWellFormed) (input : Bytes) :
    (∀ m n, (∃ a, k.tryDeserialize input = .ok (a, n) ∧ k.meaning a = m) ↔
      n ≤ input.length ∧ k.Denotes (input.take n) m) ∧
    (∀ a n, k.tryDeserializeBy (Cursor.takeNumber lengthWidth) input = .ok (a, n) ↔
      k.tryDeserialize input = .ok (a, n)) ∧
    ∀ error, k.tryDeserialize input = .error error → error.IsOfInput := by
  refine ⟨fun m n => ?_, tryDeserializeBy_takeNumber k input, fun error => tryDeserialize_error⟩
  simp only [tryDeserialize_eq_ok, denotes_iff wellFormed, and_assoc, exists_and_left]

/-- One key twice, its elements in either order, the second time with another value; then a byte too many. -/
theorem tryDeserialize_accepts_repeated_key :
    let k := map .hashed (set .sorted (scalar .u8)) bool
    let input : Bytes := [2, 0, 0, 0, 2, 0, 0, 0, 1, 2, 0, 2, 0, 0, 0, 2, 1, 7, 9]
    k.isWellFormed ∧ k.tryDeserialize input = .ok ([([1, 2], true)], 18) ∧
      k.Denotes (input.take 18) {({1, 2}, true)} := by
  intro k input
  have wellFormed : k.isWellFormed := rfl
  have decoded : k.tryDeserialize input = .ok ([([1, 2], true)], 18) := rfl
  have meant : k.meaning [([1, 2], true)] = {({1, 2}, true)} := by
    simp [k, meaning]
    rfl
  exact ⟨wellFormed, decoded, (((tryDeserialize_accepts k wellFormed input).1 _ 18).mp ⟨_, decoded, meant⟩).2⟩

end Kind
end CallWire
