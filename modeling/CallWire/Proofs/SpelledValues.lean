import CallWire.Proofs.ValueMeaning
import CallWire.Proofs.WireGrammar

/-! What a spelling tells of its value: its containers are enumerated as they should be, its lengths fit their four
bytes, and its encoding is no longer than the spelling. Where no entries can be merged it is as long, and without
booleans it is the same. -/

namespace CallWire

variable {α β : Type} {spells : Bytes → α → Prop} {input : Bytes} {items : List α}

theorem SpellsAll.forall_mem {holds : α → Prop} (spelled : SpellsAll spells input items)
    (each : ∀ {input x}, spells input x → holds x) : ∀ x ∈ items, holds x := by
  induction items generalizing input with
  | nil => simp
  | cons x rest ih =>
    obtain ⟨first, others, rfl, one, all⟩ := spelled
    exact List.forall_mem_cons.mpr ⟨each one, ih all⟩

theorem SpellsBoth.imp {left : Bytes → α → Prop} {right : Bytes → β → Prop} {x : α × β}
    (spelled : SpellsBoth left right input x) {holds : α → Prop} {holds' : β → Prop}
    (one : ∀ {input a}, left input a → holds a) (other : ∀ {input b}, right input b → holds' b) :
    holds x.1 ∧ holds' x.2 := by
  obtain ⟨first, second, rfl, leading, trailing⟩ := spelled
  exact ⟨one leading, other trailing⟩

theorem SpellsAll.total_le (spelled : SpellsAll spells input items) {size : α → Nat}
    (each : ∀ {input x}, spells input x → size x ≤ input.length) : total (items.map size) ≤ input.length := by
  induction items generalizing input with
  | nil => exact Nat.zero_le _
  | cons x rest ih =>
    obtain ⟨first, others, rfl, one, all⟩ := spelled
    rw [List.length_append]
    exact Nat.add_le_add (each one) (ih all)

theorem SpellsAll.total_eq (spelled : SpellsAll spells input items) {size : α → Nat}
    (each : ∀ {input x}, spells input x → size x = input.length) : total (items.map size) = input.length := by
  induction items generalizing input with
  | nil =>
    cases spelled
    rfl
  | cons x rest ih =>
    obtain ⟨first, others, rfl, one, all⟩ := spelled
    rw [List.length_append, ← each one, ← ih all]
    rfl

theorem SpellsAll.eq_flatMap (spelled : SpellsAll spells input items) {encode : α → Bytes}
    (each : ∀ {input x}, spells input x → input = encode x) : input = items.flatMap encode := by
  induction items generalizing input with
  | nil => exact spelled
  | cons x rest ih =>
    obtain ⟨first, others, rfl, one, all⟩ := spelled
    rw [List.flatMap_cons, ← each one, ← ih all]

theorem SpellsCounted.forall_mem {holds : α → Prop} (counted : SpellsCounted spells input items)
    (each : ∀ {input x}, spells input x → holds x) : ∀ x ∈ items, holds x := by
  obtain ⟨_, content, rfl, all⟩ := counted
  exact all.forall_mem each

/-- A container of some of the spelled items, each once at most, is no larger than the spelling. -/
theorem SpellsCounted.size_le (counted : SpellsCounted spells input items) {size : α → Nat}
    (each : ∀ {input x}, spells input x → size x ≤ input.length) {kept : List α} (part : kept.Subperm items) :
    lengthWidth + total (kept.map size) ≤ input.length := by
  obtain ⟨_, content, rfl, all⟩ := counted
  rw [List.length_append, Bytes.littleEndian_length]
  exact Nat.add_le_add_left (Nat.le_trans (total_subperm size part) (all.total_le each)) _

namespace Kind

/-- Of the elements that a set was built up from it holds each once. -/
theorem setOf_subperm (order : Enumeration) (k : Kind) (elements : List k.Value) :
    (setOf order k elements).Subperm elements := by
  obtain ⟨members, enumerated⟩ := setOf_merged order k elements
  exact List.subperm_of_subset (enumerated.nodup k.order_laws) fun x member => (members x).mp member

theorem mapOf_subperm (order : Enumeration) (k v : Kind) (pairs : List (k.Value × v.Value)) :
    (mapOf order k v pairs).Subperm pairs := by
  obtain ⟨members, enumerated⟩ := mapOf_merged order k v pairs
  exact List.subperm_of_subset (enumerated.entries_nodup k.order_laws) fun x member =>
    mem_of_mem_latest ((members x).mp member)

theorem valid_of_spells {k : Kind} {input : Bytes} {a : k.Value} (spelled : k.Spells input a) : k.Valid a := by
  induction k generalizing input with
  | scalar s | bool | text => trivial
  | boxed k ih => exact ih spelled
  | sequence form k ih => exact spelled.forall_mem ih
  | set order k ih =>
    obtain ⟨elements, counted, rfl⟩ := spelled
    obtain ⟨members, enumerated⟩ := setOf_merged order k elements
    exact ⟨enumerated, fun x member => counted.forall_mem ih x ((members x).mp member)⟩
  | map order k v keys values =>
    obtain ⟨pairs, counted, rfl⟩ := spelled
    obtain ⟨members, enumerated⟩ := mapOf_merged order k v pairs
    refine ⟨enumerated, fun x member => ?_⟩
    exact counted.forall_mem (·.imp keys values) x (mem_of_mem_latest ((members x).mp member))
  | pair a b first second => exact spelled.imp first second

theorem announceable_of_spells {k : Kind} {input : Bytes} {a : k.Value} (spelled : k.Spells input a) :
    k.Announceable a := by
  induction k generalizing input with
  | scalar s | bool => trivial
  | text => exact spelled.1
  | boxed k ih => exact ih spelled
  | sequence form k ih => exact ⟨spelled.1, spelled.forall_mem ih⟩
  | set order k ih =>
    obtain ⟨elements, counted, rfl⟩ := spelled
    have part := setOf_subperm order k elements
    exact ⟨Nat.lt_of_le_of_lt part.length_le counted.1, fun x member => counted.forall_mem ih x (part.subset member)⟩
  | map order k v keys values =>
    obtain ⟨pairs, counted, rfl⟩ := spelled
    have part := mapOf_subperm order k v pairs
    refine ⟨Nat.lt_of_le_of_lt part.length_le counted.1, fun x member => ?_⟩
    exact counted.forall_mem (·.imp keys values) x (part.subset member)
  | pair a b first second => exact spelled.imp first second

/-- Merging entries drops bytes and adds none. -/
theorem size_le_of_spells {k : Kind} {input : Bytes} {a : k.Value} (spelled : k.Spells input a) :
    k.size a ≤ input.length := by
  induction k generalizing input with
  | scalar s =>
    cases spelled
    rw [Bytes.littleEndian_length, size]
  | bool =>
    obtain ⟨byte, rfl, _⟩ := spelled
    exact Nat.le_refl 1
  | text =>
    obtain ⟨_, rfl⟩ := spelled
    rw [List.length_append, Bytes.littleEndian_length, size]
  | boxed k ih => exact ih spelled
  | sequence form k ih => exact spelled.size_le ih (List.Subperm.refl _)
  | set order k ih =>
    obtain ⟨elements, counted, rfl⟩ := spelled
    exact counted.size_le ih (setOf_subperm order k elements)
  | map order k v keys values =>
    obtain ⟨pairs, counted, rfl⟩ := spelled
    refine counted.size_le ?_ (mapOf_subperm order k v pairs)
    rintro input x ⟨first, second, rfl, key, value⟩
    rw [List.length_append]
    exact Nat.add_le_add (keys key) (values value)
  | pair a b first second =>
    obtain ⟨left, right, rfl, leading, trailing⟩ := spelled
    rw [List.length_append]
    exact Nat.add_le_add (first leading) (second trailing)

/-- Whether a boolean occurs in the values of a kind. -/
def holdsBool : Kind → Bool
  | scalar _ | text => false
  | bool => true
  | boxed k | sequence _ k | set _ k => k.holdsBool
  | map _ k v | pair k v => k.holdsBool || v.holdsBool

/-- Whether a container occurs in the values of a kind that merges its entries. -/
def holdsMerged : Kind → Bool
  | scalar _ | bool | text => false
  | boxed k | sequence _ k => k.holdsMerged
  | set _ _ | map _ _ _ => true
  | pair a b => a.holdsMerged || b.holdsMerged

theorem size_eq_of_spells {k : Kind} (plain : k.holdsMerged = false) {input : Bytes} {a : k.Value}
    (spelled : k.Spells input a) : k.size a = input.length := by
  induction k generalizing input with
  | scalar s =>
    cases spelled
    rw [Bytes.littleEndian_length, size]
  | bool =>
    obtain ⟨byte, rfl, _⟩ := spelled
    rfl
  | text =>
    obtain ⟨_, rfl⟩ := spelled
    rw [List.length_append, Bytes.littleEndian_length, size]
  | boxed k ih => exact ih plain spelled
  | sequence form k ih =>
    obtain ⟨_, content, rfl, all⟩ := spelled
    rw [List.length_append, Bytes.littleEndian_length, ← all.total_eq (ih plain), size]
  | set order k | map order k v => cases plain
  | pair a b first second =>
    rw [holdsMerged, Bool.or_eq_false_iff] at plain
    obtain ⟨left, right, rfl, leading, trailing⟩ := spelled
    rw [List.length_append, ← first plain.1 leading, ← second plain.2 trailing, size]

/-- Without booleans and merging containers a value has one spelling only. -/
theorem eq_encoding_of_spells {k : Kind} (plain : k.holdsMerged = false) (exact : k.holdsBool = false) {input : Bytes}
    {a : k.Value} (spelled : k.Spells input a) : input = k.encoding a := by
  induction k generalizing input with
  | scalar s => exact spelled.trans (List.append_nil _).symm
  | bool => cases exact
  | text =>
    obtain ⟨_, rfl⟩ := spelled
    simp [encoding, pieces, Piece.image]
  | boxed k ih => exact ih plain exact spelled
  | sequence form k ih =>
    obtain ⟨_, content, rfl, all⟩ := spelled
    rw [encoding_sequence, ← all.eq_flatMap (ih plain exact)]
  | set order k | map order k v => cases plain
  | pair a b first second =>
    rw [holdsMerged, Bool.or_eq_false_iff] at plain
    rw [holdsBool, Bool.or_eq_false_iff] at exact
    obtain ⟨left, right, rfl, leading, trailing⟩ := spelled
    rw [encoding_pair, ← first plain.1 exact.1 leading, ← second plain.2 exact.2 trailing]

end Kind
end CallWire
