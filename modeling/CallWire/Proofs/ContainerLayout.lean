import CallWire.Proofs.WireAcceptance

/-! All containers lay their entries out in the same way, so the bytes of one decode as any other. What comes out
holds the entries as far as the container keeps them apart: a sequence all of them, a set each once, and a map the
last one for each key. -/

namespace CallWire

/-- What can hold entries of a kind. The entries of a map are pairs. -/
inductive Container : Kind → Type
  | sequence {entry : Kind} (form : SequenceForm) : Container entry
  | set {entry : Kind} (order : Enumeration) : Container entry
  | map {key value : Kind} (order : Enumeration) : Container (.pair key value)

namespace Container

variable {entry : Kind}

def kind {entry : Kind} : Container entry → Kind
  | sequence form => .sequence form entry
  | set order => .set order entry
  | @map key value order => .map order key value

/-- The entries in the order in which the container enumerates them. -/
def entries {entry : Kind} : (c : Container entry) → c.kind.Value → List entry.Value
  | sequence _, xs | set _, xs | map _, xs => xs

/-- The container that is built up from these entries. -/
def holding {entry : Kind} : (c : Container entry) → List entry.Value → c.kind.Value
  | sequence _, xs => xs
  | set order, xs => Kind.setOf order entry xs
  | @map key value order, xs => Kind.mapOf order key value xs

/-- What has to be in a container that these entries were put into. -/
def Holds {entry : Kind} : (c : Container entry) → List entry.Value → c.kind.Value → Prop
  | sequence _, xs, ys => ys = xs
  | set order, xs, ys =>
    order.Enumerates entry.compare ys ∧ ∀ y, y ∈ entries (.set order) ys ↔ y ∈ xs
  | @map key value order, xs, ys =>
    order.Enumerates key.compare (List.map Prod.fst ys) ∧
      ∀ y, y ∈ entries (.map order) ys ↔ y ∈ Latest Prod.fst xs

/-- The entries are listed as a sorted set or map enumerates them. -/
def Ascending {entry : Kind} : Container entry → List entry.Value → Prop
  | set .sorted, xs => xs.Pairwise fun x y => entry.compare x y = .lt
  | @map key _ .sorted, xs => xs.Pairwise fun x y => key.compare x.1 y.1 = .lt
  | _, _ => False

/-- Entries are merged never, where they are equal, or where their keys are. -/
def merging : Container entry → Nat
  | sequence _ => 0
  | set _ => 1
  | map _ => 2

theorem encoding_eq (c : Container entry) (a : c.kind.Value) :
    c.kind.encoding a =
      Bytes.littleEndian lengthWidth (c.entries a).length ++ (c.entries a).flatMap entry.encoding := by
  cases c with
  | sequence form => exact Kind.encoding_sequence form entry a
  | set order => exact Kind.encoding_set order entry a
  | @map key value order =>
    have pair : (Kind.pair key value).encoding = fun x => key.encoding x.1 ++ value.encoding x.2 :=
      funext (Kind.encoding_pair key value)
    rw [pair]
    exact Kind.encoding_map order key value a

theorem announceable_iff (c : Container entry) (a : c.kind.Value) :
    c.kind.Announceable a ↔ (c.entries a).length < 2 ^ 32 ∧ ∀ x ∈ c.entries a, entry.Announceable x := by
  cases c with
  | sequence form => exact Iff.rfl
  | set order => exact Iff.rfl
  | map order => exact Iff.rfl

theorem valid_entries {c : Container entry} {a : c.kind.Value} (valid : c.kind.Valid a) :
    ∀ x ∈ c.entries a, entry.Valid x := by
  cases c with
  | sequence form => exact valid
  | set order => exact valid.2
  | map order => exact valid.2

/-- A list of entries encodes as the container does that enumerates them so. -/
theorem toBytes_entries {c : Container entry} {a : c.kind.Value} (small : c.kind.Announceable a)
    (form : SequenceForm) :
    (Encodable.ofValue (.sequence form entry) (c.entries a)).toBytes = .ok (c.kind.encoding a) := by
  have room : (Kind.sequence form entry).Announceable (c.entries a) := (c.announceable_iff a).mp small
  rw [Kind.toBytes_ofValue room, Kind.encoding_sequence, c.encoding_eq]

theorem spells_entries {c : Container entry} {a : c.kind.Value} (valid : c.kind.Valid a)
    (small : c.kind.Announceable a) : SpellsCounted entry.Spells (c.kind.encoding a) (c.entries a) := by
  obtain ⟨count, room⟩ := (c.announceable_iff a).mp small
  refine ⟨count, (c.entries a).flatMap entry.encoding, c.encoding_eq a, ?_⟩
  apply spellsAll_flatMap
  intro x member
  exact Kind.spells_encoding (valid_entries valid x member) (room x member)

theorem spells_holding (c : Container entry) {input : Bytes} {xs : List entry.Value}
    (counted : SpellsCounted entry.Spells input xs) : c.kind.Spells input (c.holding xs) := by
  cases c with
  | sequence form => exact counted
  | set order => exact ⟨xs, counted, rfl⟩
  | map order => exact ⟨xs, counted, rfl⟩

theorem holds_holding (c : Container entry) (xs : List entry.Value) : c.Holds xs (c.holding xs) := by
  cases c with
  | sequence form => rfl
  | set order =>
    obtain ⟨members, enumerated⟩ := Kind.setOf_merged order entry xs
    exact ⟨enumerated, members⟩
  | @map key value order =>
    obtain ⟨members, enumerated⟩ := Kind.mapOf_merged order key value xs
    exact ⟨enumerated, members⟩

/-- A sorted container has one way only to list its entries. -/
theorem eq_entries_of_ascending {c : Container entry} {a : c.kind.Value} (valid : c.kind.Valid a)
    {listed : List entry.Value} (ascending : c.Ascending listed) (same : ∀ x, x ∈ listed ↔ x ∈ c.entries a) :
    listed = c.entries a := by
  cases c with
  | sequence form => exact ascending.elim
  | set order =>
    cases order with
    | hashed => exact ascending.elim
    | sorted =>
      refine Enumeration.Enumerates.ext entry.order_laws id ?_ ?_ same
      · rw [List.map_id]
        exact ascending
      · rw [List.map_id]
        exact valid.1
  | @map key value order =>
    cases order with
    | hashed => exact ascending.elim
    | sorted =>
      have keys : Enumeration.sorted.Enumerates key.compare (listed.map Prod.fst) := List.pairwise_map.mpr ascending
      exact Enumeration.Enumerates.ext key.order_laws Prod.fst keys valid.1 same

/-- Whatever merges entries lists none of them twice. -/
theorem nodup_entries {c : Container entry} {a : c.kind.Value} (valid : c.kind.Valid a) (merges : 0 < c.merging) :
    (c.entries a).Nodup := by
  cases c with
  | sequence form => exact absurd merges (Nat.lt_irrefl 0)
  | set order => exact valid.1.nodup entry.order_laws
  | @map key value order => exact valid.1.entries_nodup key.order_laws

/-- No entry is lost in a container that merges no more than the one that the entries come from. -/
theorem perm_of_holds {c c' : Container entry} {a : c.kind.Value} {a' : c'.kind.Value} (valid : c.kind.Valid a)
    (holds : c'.Holds (c.entries a) a') (less : c'.merging ≤ c.merging) : (c'.entries a').Perm (c.entries a) := by
  cases c' with
  | sequence form =>
    rw [show a' = c.entries a from holds]
    exact .refl _
  | set order =>
    have distinct := nodup_entries valid less
    exact (List.perm_ext_iff_of_nodup (holds.1.nodup entry.order_laws) distinct).mpr holds.2
  | @map key value order =>
    cases c with
    | sequence form => exact absurd less (Nat.not_succ_le_zero 1)
    | set order => exact absurd less (Nat.not_succ_le_self 1)
    | map order' =>
      have distinct := valid.1.nodup key.order_laws
      refine (List.perm_ext_iff_of_nodup (holds.1.entries_nodup key.order_laws) (.of_map Prod.fst distinct)).mpr ?_
      intro x
      exact (holds.2 x).trans (mem_latest_of_nodup distinct)

end Container

/-- The bytes of any container are those of a sequence of its entries, in ascending order if it is sorted, and all of
them are consumed where they are decoded as any other. That one holds what has been put into it, which is the same
unless it merges more. -/
theorem Container.share_layout {entry : Kind} (c c' : Container entry) (a : c.kind.Value) (valid : c.kind.Valid a)
    (small : c.kind.Announceable a) :
    ∃ bytes a', (Encodable.ofValue c.kind a).toBytes = .ok bytes ∧
      (∀ form, (Encodable.ofValue (.sequence form entry) (c.entries a)).toBytes = .ok bytes) ∧
      (∀ form listed, c.Ascending listed → (∀ x, x ∈ listed ↔ x ∈ c.entries a) →
        (Encodable.ofValue (.sequence form entry) listed).toBytes = .ok bytes) ∧
      c'.kind.tryDeserialize bytes = .ok (a', bytes.length) ∧ c'.Holds (c.entries a) a' ∧
      (c'.merging ≤ c.merging → (c'.entries a').Perm (c.entries a)) := by
  have spelled := c'.spells_holding (spells_entries valid small)
  have holds := c'.holds_holding (c.entries a)
  refine ⟨c.kind.encoding a, c'.holding (c.entries a), ?_, ?_, ?_, ?_, holds, perm_of_holds valid holds⟩
  · exact Kind.toBytes_ofValue small
  · exact toBytes_entries small
  · intro form listed ascending same
    rw [eq_entries_of_ascending valid ascending same]
    exact toBytes_entries small form
  · rw [Kind.tryDeserialize_eq_ok, List.take_length]
    exact ⟨Nat.le_refl _, spelled⟩

/-- Pairs out of order and with a key that comes twice, decoded as a sorted map. -/
theorem Container.share_layout_repeated_key :
    let listed : Container (.pair (.scalar .u8) .bool) := .sequence .vector
    let mapped : Container (.pair (.scalar .u8) .bool) := .map .sorted
    let pairs : listed.kind.Value := [(2, true), (1, true), (2, false)]
    listed.kind.Valid pairs ∧ listed.kind.Announceable pairs ∧
      ∃ bytes a', (Encodable.ofValue listed.kind pairs).toBytes = .ok bytes ∧
        mapped.kind.tryDeserialize bytes = .ok (a', bytes.length) ∧
        (2, false) ∈ mapped.entries a' ∧ (2, true) ∉ mapped.entries a' := by
  intro listed mapped pairs
  have valid : listed.kind.Valid pairs := by
    simp [listed, pairs, kind, Kind.Valid]
  have small : listed.kind.Announceable pairs := by
    simp [listed, pairs, kind, Kind.Announceable]
  obtain ⟨bytes, a', written, -, -, decoded, ⟨-, latest⟩, -⟩ := share_layout listed mapped pairs valid small
  refine ⟨valid, small, bytes, a', written, decoded, ?_, ?_⟩
  · exact (latest (2, false)).mpr ⟨[(2, true), (1, true)], [], rfl, by simp⟩
  · intro kept
    obtain ⟨before, after, split, others⟩ := (latest (2, true)).mp kept
    cases before with
    | nil =>
      cases split
      exact others (2, false) (by simp) rfl
    | cons _ before =>
      have again : [((1 : BitVec 8), true), (2, false)] = before ++ (2, true) :: after := congrArg List.tail split
      have member : ((2 : BitVec 8), true) ∈ [((1 : BitVec 8), true), (2, false)] := by
        rw [again]
        exact List.mem_append_right before List.mem_cons_self
      exact absurd member (by decide)

end CallWire
