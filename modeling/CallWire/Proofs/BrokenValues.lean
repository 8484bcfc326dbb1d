import CallWire.Proofs.WireTruncation

/-! Where decoding gives up. What was read before the piece that is missing or bad is consumed, down to the innermost
value, and the grammar of values has a counterpart for such beginnings that no value follows. -/

namespace CallWire

variable {α β : Type}

/-- The second cursor is behind these bytes of the first one. -/
structure Cursor.Passes (c : Cursor) (taken : Bytes) (after : Cursor) : Prop where
  rest : c.rest = taken ++ after.rest
  position : after.position = c.position + taken.length

/-- There are fewer bytes left than were asked for, and none is taken. -/
def BreaksTake (n : Nat) (taken rest : Bytes) (error : WireError) : Prop :=
  taken = [] ∧ rest.length < n ∧ error = .unexpectedEnd n rest.length

/-- A length is not all there, or it is read and is greater than what is left. -/
def BreaksLength (taken rest : Bytes) (error : WireError) : Prop :=
  BreaksTake lengthWidth taken rest error ∨
    ∃ n, Announces taken n ∧ rest.length < n ∧ error = .unexpectedEnd n rest.length

/-- Some of the items are read, and the next one is bad. -/
def BreaksAll (n : Nat) (spells : Bytes → α → Prop) (breaks : Bytes → Bytes → WireError → Prop)
    (taken rest : Bytes) (error : WireError) : Prop :=
  ∃ items first others, taken = first ++ others ∧ SpellsAll spells first items ∧ items.length < n ∧
    breaks others rest error

/-- The count is bad, or it is read and then one of the items is bad. -/
def BreaksCounted (spells : Bytes → α → Prop) (breaks : Bytes → Bytes → WireError → Prop)
    (taken rest : Bytes) (error : WireError) : Prop :=
  BreaksLength taken rest error ∨
    ∃ n prefixed content, taken = prefixed ++ content ∧ Announces prefixed n ∧ n ≤ (content ++ rest).length ∧
      BreaksAll n spells breaks content rest error

/-- The first of two is bad, or it is read and the second is bad. -/
def BreaksBoth (spells : Bytes → α → Prop) (left right : Bytes → Bytes → WireError → Prop)
    (taken rest : Bytes) (error : WireError) : Prop :=
  left taken rest error ∨ ∃ x first second, taken = first ++ second ∧ spells first x ∧ right second rest error

/-- What is read of a value that then turns out to be cut short or bad, what is left, and how it fails. -/
def Kind.Breaks : Kind → Bytes → Bytes → WireError → Prop
  | scalar s => BreaksTake s.width
  | bool => BreaksTake 1
  | text => fun taken rest error =>
    BreaksLength taken rest error ∨
      ∃ prefixed content, taken = prefixed ++ content ∧ Announces prefixed content.length ∧
        Bytes.toText? content = none ∧ error = .invalidUtf8
  | boxed k => k.Breaks
  | sequence _ k | set _ k => BreaksCounted k.Spells k.Breaks
  | map _ k v => BreaksCounted (SpellsBoth k.Spells v.Spells) (BreaksBoth k.Spells k.Breaks v.Breaks)
  | pair a b => BreaksBoth a.Spells a.Breaks b.Breaks

namespace Cursor.Passes
variable {c between after : Cursor} {first second : Bytes}

theorem nil (c : Cursor) : c.Passes [] c := ⟨rfl, rfl⟩

theorem places {taken : Bytes} (passed : c.Passes taken after) :
    ∃ position rest, c = ⟨position, taken ++ rest⟩ ∧ after = ⟨position + taken.length, rest⟩ := by
  obtain ⟨same, further⟩ := passed
  refine ⟨c.position, after.rest, ?_, ?_⟩
  · rw [← same]
  · rw [← further]

theorem eq_of_nil (passed : c.Passes [] after) : after = c := by
  obtain ⟨position, rest, rfl, rfl⟩ := passed.places
  rfl

theorem trans (one : c.Passes first between) (other : between.Passes second after) : c.Passes (first ++ second) after := by
  constructor
  · rw [one.rest, other.rest, List.append_assoc]
  · rw [other.position, one.position, List.length_append, Nat.add_assoc]

/-- A stop on the way. -/
theorem split (passed : c.Passes (first ++ second) after) :
    ∃ between : Cursor, between.rest = second ++ after.rest ∧ c.Passes first between ∧ between.Passes second after := by
  refine ⟨⟨c.position + first.length, second ++ after.rest⟩, rfl, ⟨?_, rfl⟩, rfl, ?_⟩
  · rw [passed.rest, List.append_assoc]
  · rw [passed.position, List.length_append, Nat.add_assoc]

end Cursor.Passes

namespace Reading

/-- The reading takes just these beginnings of what is left, each for its result. -/
def Reads (reading : Reading α) (spells : Bytes → Bytes → α → Prop) : Prop :=
  ∀ c a after, reading c = .ok a after ↔ ∃ taken, c.Passes taken after ∧ spells taken after.rest a

/-- The reading fails just behind these beginnings of what is left. -/
def Fails (reading : Reading α) (breaks : Bytes → Bytes → WireError → Prop) : Prop :=
  ∀ c error after, reading c = .error error after ↔ ∃ taken, c.Passes taken after ∧ breaks taken after.rest error

theorem bind_eq_error_iff {reading : Reading α} {next : α → Reading β} {c after : Cursor} {error : WireError} :
    (reading >>= next) c = .error error after ↔
      reading c = .error error after ∨ ∃ a between, reading c = .ok a between ∧ next a between = .error error after := by
  constructor
  · exact bind_eq_error
  · intro failed
    rcases failed with early | ⟨a, between, began, late⟩
    · exact bind_of_error early next
    · rw [bind_of_ok began]
      exact late

theorem fails_pure (a : α) : Fails (pure a) fun _ _ _ => False := by
  intro c error after
  constructor
  · intro failed
    cases failed
  · intro ⟨_, _, impossible⟩
    exact impossible.elim

theorem Fails.congr {reading : Reading α} {breaks breaks' : Bytes → Bytes → WireError → Prop} (fails : reading.Fails breaks)
    (same : ∀ taken rest error, breaks taken rest error ↔ breaks' taken rest error) : reading.Fails breaks' := by
  intro c error after
  rw [fails c error after]
  simp only [same]

/-- The first reading fails, or the second does behind what the first has taken. -/
theorem Fails.bind {reading : Reading α} {next : α → Reading β} {spells : Bytes → Bytes → α → Prop}
    {breaks : Bytes → Bytes → WireError → Prop} {breaks' : α → Bytes → Bytes → WireError → Prop}
    (fails : reading.Fails breaks) (reads : reading.Reads spells) (later : ∀ a, (next a).Fails (breaks' a)) :
    (reading >>= next).Fails fun taken rest error =>
      breaks taken rest error ∨
        ∃ a first second, taken = first ++ second ∧ spells first (second ++ rest) a ∧ breaks' a second rest error := by
  intro c error after
  rw [bind_eq_error_iff, fails c error after]
  constructor
  · intro failed
    rcases failed with ⟨taken, passed, broken⟩ | ⟨a, between, began, late⟩
    · exact ⟨taken, passed, .inl broken⟩
    · obtain ⟨first, one, spelled⟩ := (reads c a between).mp began
      obtain ⟨second, other, broken⟩ := (later a between error after).mp late
      rw [other.rest] at spelled
      exact ⟨first ++ second, one.trans other, .inr ⟨a, first, second, rfl, spelled, broken⟩⟩
  · intro ⟨taken, passed, broken⟩
    rcases broken with broken | ⟨a, first, second, rfl, spelled, broken⟩
    · exact .inl ⟨taken, passed, broken⟩
    · obtain ⟨between, rest, one, other⟩ := passed.split
      refine .inr ⟨a, between, (reads c a between).mpr ⟨first, one, ?_⟩, ?_⟩
      · rw [rest]
        exact spelled
      · exact (later a between error after).mpr ⟨second, other, broken⟩

theorem Fails.map {reading : Reading α} {breaks : Bytes → Bytes → WireError → Prop} (fails : reading.Fails breaks) (f : α → β) :
    Fails (do return f (← reading)) breaks := by
  intro c error after
  rw [bind_eq_error_iff, fails c error after]
  constructor
  · intro failed
    rcases failed with early | ⟨a, between, -, late⟩
    · exact early
    · cases late
  · exact .inl

theorem Takes.of_passes {reading : Reading α} {taken : Bytes} {a : α} {c after : Cursor} (takes : reading.Takes taken a)
    (passed : c.Passes taken after) : reading c = .ok a after := by
  obtain ⟨position, rest, rfl, rfl⟩ := passed.places
  exact takes position rest

theorem reads_of_takes {reading : Reading α} {spells : Bytes → α → Prop} (only : reading.TakesOnly spells)
    (takes : ∀ {input a}, spells input a → reading.Takes input a) : reading.Reads fun taken _ a => spells taken a := by
  intro c a after
  constructor
  · intro done
    obtain ⟨taken, rest, position, spelled⟩ := only c a after done
    exact ⟨taken, ⟨rest, position⟩, spelled⟩
  · intro ⟨taken, passed, spelled⟩
    exact (takes spelled).of_passes passed

/-- There is a first item, which may be the bad one. -/
theorem breaksAll_succ {n : Nat} {spells : Bytes → α → Prop} {breaks : Bytes → Bytes → WireError → Prop}
    {taken rest : Bytes} {error : WireError} :
    BreaksAll (n + 1) spells breaks taken rest error ↔
      breaks taken rest error ∨ ∃ x first second, taken = first ++ second ∧ spells first x ∧
        BreaksAll n spells breaks second rest error := by
  constructor
  · intro ⟨items, first, others, split, all, few, broken⟩
    cases items with
    | nil =>
      cases all
      exact .inl (split ▸ broken)
    | cons x items =>
      obtain ⟨one, more, rfl, spelled, all⟩ := all
      rw [List.append_assoc] at split
      exact .inr ⟨x, one, more ++ others, split, spelled, items, more, others, rfl, all, Nat.lt_of_succ_lt_succ few, broken⟩
  · intro broken
    rcases broken with broken | ⟨x, one, second, rfl, spelled, items, more, others, rfl, all, few, broken⟩
    · exact ⟨[], [], taken, rfl, rfl, Nat.succ_pos n, broken⟩
    · refine ⟨x :: items, one ++ more, others, ?_, ⟨one, more, rfl, spelled, all⟩, Nat.succ_lt_succ few, broken⟩
      rw [List.append_assoc]

theorem Fails.times {reading : Reading α} {spells : Bytes → α → Prop} {breaks : Bytes → Bytes → WireError → Prop}
    (fails : reading.Fails breaks) (reads : reading.Reads fun taken _ a => spells taken a) (n : Nat) :
    (reading.times n).Fails (BreaksAll n spells breaks) := by
  induction n with
  | zero =>
    apply (fails_pure []).congr
    intro taken rest error
    constructor
    · exact False.elim
    · intro ⟨items, _, _, _, _, few, _⟩
      exact Nat.not_lt_zero _ few
  | succ n ih =>
    apply (fails.bind reads fun first => ih.map (first :: ·)).congr
    intro taken rest error
    rw [breaksAll_succ]

theorem Fails.both {first : Reading α} {second : Reading β} {spells : Bytes → α → Prop}
    {left right : Bytes → Bytes → WireError → Prop} (one : first.Fails left)
    (reads : first.Reads fun taken _ a => spells taken a) (other : second.Fails right) :
    Fails (do let a ← first; let b ← second; return (a, b)) (BreaksBoth spells left right) :=
  one.bind reads fun a => other.map (a, ·)

end Reading

namespace Cursor

open Reading

/-- What comes to fewer bytes than it asks for stays where it is. -/
theorem fails_of_asks {reading : Reading α} {n : Nat} {give : Cursor → α} {move : Cursor → Cursor}
    (asks : ∀ c, reading c =
      if n ≤ c.remaining then .ok (give c) (move c) else .error (.unexpectedEnd n c.remaining) c) :
    reading.Fails (BreaksTake n) := by
  intro c error after
  rw [asks]
  by_cases enough : n ≤ c.remaining
  · rw [if_pos enough]
    constructor
    · intro failed
      cases failed
    · intro broken
      obtain ⟨taken, passed, rfl, few, -⟩ := broken
      rw [passed.eq_of_nil] at few
      exact absurd few (Nat.not_lt.mpr enough)
  · rw [if_neg enough]
    constructor
    · intro failed
      cases failed
      exact ⟨[], .nil c, rfl, Nat.not_le.mp enough, rfl⟩
    · intro broken
      obtain ⟨taken, passed, rfl, -, rfl⟩ := broken
      rw [passed.eq_of_nil]
      rfl

theorem take_fails (n : Nat) : (take n).Fails (BreaksTake n) := fails_of_asks fun _ => rfl

theorem takeNumber_fails (width : Nat) : (takeNumber width).Fails (BreaksTake width) := (take_fails width).map Bytes.value

theorem takeLength_of_announces {c between : Cursor} {prefixed : Bytes} {n : Nat} (announced : Announces prefixed n)
    (passed : c.Passes prefixed between) :
    takeLength c = if n ≤ between.remaining then .ok n between else .error (.unexpectedEnd n between.remaining) between := by
  obtain ⟨small, rfl⟩ := announced
  obtain ⟨position, rest, rfl, rfl⟩ := passed.places
  rw [Bytes.littleEndian_length]
  exact takeLength_prefixed small position rest

theorem takeLength_reads : takeLength.Reads fun taken rest n => Announces taken n ∧ n ≤ rest.length := by
  intro c n after
  constructor
  · intro done
    obtain ⟨taken, rest, position, announced⟩ := takeLength_announces c n after done
    have passed : c.Passes taken after := ⟨rest, position⟩
    refine ⟨taken, passed, announced, ?_⟩
    rw [takeLength_of_announces announced passed] at done
    split at done
    · assumption
    · cases done
  · intro ⟨taken, passed, announced, there⟩
    rw [takeLength_of_announces announced passed]
    exact if_pos there

theorem takeNumber_reads : (takeNumber lengthWidth).Reads fun taken _ n => Announces taken n := by
  apply reads_of_takes takeNumber_announces
  intro input n announced
  obtain ⟨small, rfl⟩ := announced
  have number := takes_number (Bytes.littleEndian_length lengthWidth n)
  have value : Bytes.value (Bytes.littleEndian lengthWidth n) = n := Bytes.value_littleEndian_of_lt small
  rwa [value] at number

theorem takeLength_fails : takeLength.Fails BreaksLength := by
  apply ((takeNumber_fails lengthWidth).bind takeNumber_reads fun _ => fails_of_asks fun _ => rfl).congr
  intro taken rest error
  apply or_congr_right
  constructor
  · intro broken
    obtain ⟨n, first, second, rfl, announced, rfl, few, same⟩ := broken
    rw [List.append_nil]
    exact ⟨n, announced, few, same⟩
  · intro broken
    obtain ⟨n, announced, few, same⟩ := broken
    exact ⟨n, taken, [], (List.append_nil taken).symm, announced, rfl, few, same⟩

theorem take_reads (n : Nat) : (take n).Reads fun taken _ content => taken = content ∧ content.length = n := by
  apply reads_of_takes (take_takesOnly n)
  intro input content same
  obtain ⟨rfl, length⟩ := same
  exact takes_take length

/-- Bytes that are no text are taken all the same. -/
theorem takeText_fails (n : Nat) :
    (takeText n).Fails fun taken rest error =>
      BreaksTake n taken rest error ∨ taken.length = n ∧ Bytes.toText? taken = none ∧ error = .invalidUtf8 := by
  intro c error after
  rw [takeText, bind_eq_error_iff, take_fails n c error after]
  constructor
  · intro failed
    rcases failed with ⟨taken, passed, short⟩ | ⟨content, between, began, late⟩
    · exact ⟨taken, passed, .inl short⟩
    · obtain ⟨taken, passed, rfl, length⟩ := (take_reads n c content between).mp began
      cases invalid : Bytes.toText? taken with
      | some a =>
        rw [invalid] at late
        cases late
      | none =>
        rw [invalid] at late
        cases late
        exact ⟨taken, passed, .inr ⟨length, invalid, rfl⟩⟩
  · intro broken
    obtain ⟨taken, passed, short | ⟨length, invalid, rfl⟩⟩ := broken
    · exact .inl ⟨taken, passed, short⟩
    · refine .inr ⟨taken, after, (take_reads n c taken after).mpr ⟨taken, passed, rfl, length⟩, ?_⟩
      rw [invalid]
      rfl

end Cursor

namespace Kind

open Reading

theorem reading_takesOnly (k : Kind) : k.reading.TakesOnly k.Spells := by
  rw [reading_eq_readingBy]
  exact readingBy_takesOnly Cursor.takeLength_announces k

theorem reading_reads (k : Kind) : k.reading.Reads fun taken _ a => k.Spells taken a :=
  reads_of_takes k.reading_takesOnly reading_takes

theorem fails_counted {reading : Reading α} {spells : Bytes → α → Prop} {breaks : Bytes → Bytes → WireError → Prop}
    (fails : reading.Fails breaks) (reads : reading.Reads fun taken _ a => spells taken a) (f : List α → β) :
    Fails (do return f (← reading.times (← Cursor.takeCount))) (BreaksCounted spells breaks) := by
  apply (Cursor.takeLength_fails.bind Cursor.takeLength_reads fun n => (fails.times reads n).map f).congr
  intro taken rest error
  simp only [BreaksCounted, and_assoc]

/-- The length was compared with what is left, so the text itself is never cut short. -/
theorem text_fails : text.reading.Fails text.Breaks := by
  apply (Cursor.takeLength_fails.bind Cursor.takeLength_reads Cursor.takeText_fails).congr
  intro taken rest error
  apply or_congr_right
  constructor
  · intro ⟨n, prefixed, content, split, ⟨announced, there⟩, broken⟩
    rcases broken with ⟨rfl, few, -⟩ | ⟨rfl, invalid, error⟩
    · exact absurd few (Nat.not_lt.mpr there)
    · exact ⟨prefixed, content, split, announced, invalid, error⟩
  · intro ⟨prefixed, content, split, announced, invalid, error⟩
    refine ⟨content.length, prefixed, content, split, ⟨announced, ?_⟩, .inr ⟨rfl, invalid, error⟩⟩
    rw [List.length_append]
    exact Nat.le_add_right _ _

/-- Decoding fails exactly where the input has a beginning of a value that cannot be completed. -/
theorem reading_fails (k : Kind) : k.reading.Fails k.Breaks := by
  induction k with
  | scalar s => exact (Cursor.takeNumber_fails s.width).map (BitVec.ofNat (8 * s.width))
  | bool => exact (Cursor.takeNumber_fails 1).map (· != 0)
  | text => exact text_fails
  | boxed k ih => exact ih
  | sequence form k ih =>
    have counted := fails_counted ih k.reading_reads id
    simp only [id_eq, bind_pure] at counted
    exact counted
  | set order k ih => exact fails_counted ih k.reading_reads (setOf order k)
  | map order k v keys values =>
    have entries := reads_of_takes (k.reading_takesOnly.both v.reading_takesOnly) (takes_both reading_takes reading_takes)
    exact fails_counted (keys.both k.reading_reads values) entries (mapOf order k v)
  | pair a b first second => exact first.both a.reading_reads second

end Kind
end CallWire
