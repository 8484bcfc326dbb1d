import CallWire.Proofs.ContainerEntries
import Mathlib.Data.List.Induction
import Mathlib.Data.List.Nodup
import Mathlib.Data.Set.Image

/-! What a container holds that was built up from any list of entries: of those with the same key the one that
came last, each key once, in the order in which the container enumerates. -/

namespace CallWire

variable {α κ : Type}

/-- The entries after which no other with their key comes. -/
def Latest (key : α → κ) (entries : List α) : Set α :=
  fun x => ∃ before after, entries = before ++ x :: after ∧ ∀ y ∈ after, key y ≠ key x

theorem mem_latest_append_one {key : α → κ} {entries : List α} {last x : α} :
    x ∈ Latest key (entries ++ [last]) ↔ x = last ∨ x ∈ Latest key entries ∧ key last ≠ key x := by
  constructor
  · rintro ⟨before, after, split, others⟩
    rcases List.eq_nil_or_concat after with rfl | ⟨between, y, rfl⟩
    · obtain ⟨_, same⟩ := List.append_inj' split rfl
      cases same
      exact .inl rfl
    · have shifted : entries ++ [last] = (before ++ x :: between) ++ [y] := by simpa using split
      obtain ⟨rfl, same⟩ := List.append_inj' shifted rfl
      cases same
      exact .inr ⟨⟨before, between, rfl, fun z member => others z (by simp [member])⟩, others last (by simp)⟩
  · rintro (rfl | ⟨⟨before, after, rfl, others⟩, other⟩)
    · exact ⟨entries, [], rfl, by simp⟩
    · refine ⟨before, after ++ [last], by simp, fun y member => ?_⟩
      rcases List.mem_append.mp member with inside | final
      · exact others y inside
      · rwa [List.mem_singleton.mp final]

theorem mem_of_mem_latest {key : α → κ} {entries : List α} {x : α} (latest : x ∈ Latest key entries) :
    x ∈ entries := by
  obtain ⟨before, after, rfl, _⟩ := latest
  simp

/-- Where entries are their own keys, none is lost. -/
theorem mem_latest_id {entries : List α} {x : α} : x ∈ Latest id entries ↔ x ∈ entries := by
  induction entries using List.reverseRecOn with
  | nil => exact ⟨mem_of_mem_latest, fun member => nomatch member⟩
  | append_singleton entries last ih =>
    rw [mem_latest_append_one, ih, List.mem_append, List.mem_singleton]
    constructor
    · rintro (rfl | ⟨earlier, _⟩)
      · exact .inr rfl
      · exact .inl earlier
    · rintro (earlier | rfl)
      · by_cases same : last = x
        · exact .inl same.symm
        · exact .inr ⟨earlier, same⟩
      · exact .inl rfl

/-- Nor is any where no key comes twice. -/
theorem mem_latest_of_nodup {key : α → κ} {entries : List α} (distinct : (entries.map key).Nodup) {x : α} :
    x ∈ Latest key entries ↔ x ∈ entries := by
  constructor
  · exact mem_of_mem_latest
  · intro member
    obtain ⟨before, after, rfl⟩ := List.append_of_mem member
    refine ⟨before, after, rfl, ?_⟩
    intro y later same
    rw [List.map_append, List.map_cons, List.nodup_append] at distinct
    have once := (List.nodup_cons.mp distinct.2.1).1
    exact once (same ▸ List.mem_map_of_mem later)

/-- A change of the entries that tells the same keys apart keeps the latest ones. -/
theorem latest_map {γ δ : Type} {key : α → κ} {key' : γ → δ} {f : α → γ} {entries : List α}
    (faithful : ∀ x ∈ entries, ∀ y ∈ entries, key' (f x) = key' (f y) ↔ key x = key y) :
    Latest key' (entries.map f) = f '' Latest key entries := by
  ext z
  constructor
  · rintro ⟨before, after, split, others⟩
    obtain ⟨front, back, rfl, rfl, rest⟩ := List.map_eq_append_iff.mp split
    obtain ⟨x, tail, rfl, rfl, rfl⟩ := List.map_eq_cons_iff.mp rest
    refine ⟨x, ⟨front, tail, rfl, fun y member equal => ?_⟩, rfl⟩
    exact others (f y) (List.mem_map_of_mem member) ((faithful y (by simp [member]) x (by simp)).mpr equal)
  · rintro ⟨x, ⟨before, after, rfl, others⟩, rfl⟩
    refine ⟨before.map f, after.map f, by simp, fun z member equal => ?_⟩
    obtain ⟨y, present, rfl⟩ := List.mem_map.mp member
    exact others y present ((faithful y (by simp [present]) x (by simp)).mp equal)

/-- How two keys stand to each other of which the container enumerates this one first. -/
def Enumeration.Precedes (order : Enumeration) (compare : κ → κ → Ordering) (a b : κ) : Prop :=
  match order with
  | .sorted => compare a b = .lt
  | .hashed => a ≠ b

theorem Enumeration.enumerates_iff {order : Enumeration} {compare : κ → κ → Ordering} {keys : List κ} :
    order.Enumerates compare keys ↔ keys.Pairwise (order.Precedes compare) := by
  cases order
  · rfl
  · rfl

theorem Enumeration.enumerates_cons {order : Enumeration} {compare : κ → κ → Ordering} {first : κ} {rest : List κ} :
    order.Enumerates compare (first :: rest) ↔
      (∀ b ∈ rest, order.Precedes compare first b) ∧ order.Enumerates compare rest := by
  rw [enumerates_iff, enumerates_iff, List.pairwise_cons]

theorem Enumeration.Precedes.ne {order : Enumeration} {compare : κ → κ → Ordering} (laws : Kind.OrderLaws compare)
    {a b : κ} (precedes : order.Precedes compare a b) : a ≠ b := by
  cases order with
  | sorted =>
    rintro rfl
    rw [Precedes, laws.lawful.compare_self] at precedes
    cases precedes
  | hashed => exact precedes

namespace Enumeration

variable {compare : κ → κ → Ordering} {key : α → κ}

theorem Enumerates.nodup {order : Enumeration} (laws : Kind.OrderLaws compare) {keys : List κ}
    (enumerated : order.Enumerates compare keys) : keys.Nodup :=
  (enumerates_iff.mp enumerated).imp fun precedes => precedes.ne laws

theorem Enumerates.entries_nodup {order : Enumeration} (laws : Kind.OrderLaws compare) {entries : List α}
    (enumerated : order.Enumerates compare (entries.map key)) : entries.Nodup :=
  .of_map key (enumerated.nodup laws)

/-- Ascending lists with the same entries are the same list. -/
theorem Enumerates.ext (laws : Kind.OrderLaws compare) (key : α → κ) {first second : List α}
    (one : Enumeration.sorted.Enumerates compare (first.map key))
    (other : Enumeration.sorted.Enumerates compare (second.map key)) (same : ∀ x, x ∈ first ↔ x ∈ second) :
    first = second := by
  have := laws.trans
  have perm := (List.perm_ext_iff_of_nodup (one.entries_nodup laws) (other.entries_nodup laws)).mpr same
  refine perm.eq_of_pairwise ?_ (List.pairwise_map.mp one) (List.pairwise_map.mp other)
  intro a b _ _ less more
  rw [Std.OrientedCmp.gt_of_lt less] at more
  cases more

end Enumeration

section
variable {order : Enumeration} {compare : κ → κ → Ordering} {key : α → κ} {merge : α → α → α} {x first : α}
  {entries rest after : List α}

/-- The container that came out of an insertion: the new entry, and the old ones with another key. -/
structure Inserted (order : Enumeration) (compare : κ → κ → Ordering) (key : α → κ) (x : α) (entries after : List α) :
    Prop where
  members : ∀ y, y ∈ after ↔ y = x ∨ y ∈ entries ∧ key x ≠ key y
  enumerated : order.Enumerates compare (after.map key)

theorem Inserted.alone : Inserted order compare key x [] [x] := by
  exact ⟨by simp, Enumeration.enumerates_iff.mpr (List.pairwise_singleton ..)⟩

/-- The entry takes the place of the one with its key. -/
theorem Inserted.replacing (laws : Kind.OrderLaws compare) (same : key x = key first)
    (enumerated : order.Enumerates compare ((first :: rest).map key)) :
    Inserted order compare key x (first :: rest) (x :: rest) := by
  constructor
  · intro y
    simp only [List.mem_cons]
    constructor
    · rintro (rfl | member)
      · exact .inl rfl
      · have precedes := (Enumeration.enumerates_cons.mp enumerated).1 (key y) (List.mem_map_of_mem member)
        exact .inr ⟨.inr member, same ▸ precedes.ne laws⟩
    · rintro (rfl | ⟨rfl | member, other⟩)
      · exact .inl rfl
      · exact absurd same other
      · exact .inr member
  · rwa [List.map_cons, same]

/-- The entry goes somewhere behind the first one. -/
theorem Inserted.behind (laws : Kind.OrderLaws compare) (precedes : order.Precedes compare (key first) (key x))
    (enumerated : order.Enumerates compare ((first :: rest).map key)) (inserted : Inserted order compare key x rest after) :
    Inserted order compare key x (first :: rest) (first :: after) := by
  obtain ⟨members, later⟩ := inserted
  constructor
  · intro y
    simp only [List.mem_cons, members]
    constructor
    · rintro (rfl | rfl | ⟨member, other⟩)
      · exact .inr ⟨.inl rfl, (precedes.ne laws).symm⟩
      · exact .inl rfl
      · exact .inr ⟨.inr member, other⟩
    · rintro (rfl | ⟨rfl | member, other⟩)
      · exact .inr (.inl rfl)
      · exact .inl rfl
      · exact .inr (.inr ⟨member, other⟩)
  · refine Enumeration.enumerates_cons.mpr ⟨List.forall_mem_map.mpr fun y member => ?_, later⟩
    rcases (members y).mp member with rfl | ⟨member, _⟩
    · exact precedes
    · exact (Enumeration.enumerates_cons.mp enumerated).1 (key y) (List.mem_map_of_mem member)

/-- The entry goes to the front of those that it precedes. -/
theorem Inserted.before (laws : Kind.OrderLaws compare) (precedes : ∀ y ∈ entries, order.Precedes compare (key x) (key y))
    (enumerated : order.Enumerates compare (entries.map key)) : Inserted order compare key x entries (x :: entries) := by
  constructor
  · intro y
    rw [List.mem_cons]
    exact or_congr_right ⟨fun member => ⟨member, (precedes y member).ne laws⟩, And.left⟩
  · exact Enumeration.enumerates_cons.mpr ⟨List.forall_mem_map.mpr precedes, enumerated⟩

theorem insertSorted_inserted (laws : Kind.OrderLaws compare)
    (merges : ∀ old new, key old = key new → merge old new = new)
    (enumerated : Enumeration.sorted.Enumerates compare (entries.map key)) :
    Inserted .sorted compare key x entries (insertSorted (fun a b => compare (key a) (key b)) merge x entries) := by
  have := laws.trans
  have := laws.lawful
  induction entries with
  | nil => exact .alone
  | cons first rest ih =>
    obtain ⟨least, later⟩ := Enumeration.enumerates_cons.mp enumerated
    rw [insertSorted]
    cases found : compare (key x) (key first) with
    | lt =>
      refine .before laws (fun y member => ?_) enumerated
      rcases List.mem_cons.mp member with rfl | member
      · exact found
      · exact Std.TransCmp.lt_trans found (least (key y) (List.mem_map_of_mem member))
    | eq =>
      have same : key x = key first := Std.LawfulEqCmp.eq_of_compare found
      simp only [merges first x same.symm]
      exact .replacing laws same enumerated
    | gt => exact .behind laws (Std.OrientedCmp.lt_of_gt found) enumerated (ih later)

theorem insertHashed_inserted (laws : Kind.OrderLaws compare)
    (merges : ∀ old new, key old = key new → merge old new = new)
    (enumerated : Enumeration.hashed.Enumerates compare (entries.map key)) :
    Inserted .hashed compare key x entries (insertHashed (fun a b => compare (key a) (key b)) merge x entries) := by
  have := laws.lawful
  induction entries with
  | nil => exact .alone
  | cons first rest ih =>
    have later := (Enumeration.enumerates_cons.mp enumerated).2
    rw [insertHashed]
    split
    · rename_i found
      have same : key x = key first := Std.LawfulEqCmp.eq_of_compare found
      rw [merges first x same.symm]
      exact .replacing laws same enumerated
    · rename_i unequal
      have precedes : key first ≠ key x := fun same => unequal (same ▸ Std.ReflCmp.compare_self)
      exact .behind laws precedes enumerated (ih later)

theorem Enumeration.insert_inserted (order : Enumeration) (laws : Kind.OrderLaws compare)
    (merges : ∀ old new, key old = key new → merge old new = new)
    (enumerated : order.Enumerates compare (entries.map key)) :
    Inserted order compare key x entries (order.insert (fun a b => compare (key a) (key b)) merge x entries) := by
  cases order with
  | sorted => exact insertSorted_inserted laws merges enumerated
  | hashed => exact insertHashed_inserted laws merges enumerated

/-- The induction is on the entries from the last one back, as the last one is there whatever came before. -/
theorem Enumeration.foldl_merged (order : Enumeration) (key : α → κ) (merge : α → α → α)
    (laws : Kind.OrderLaws compare) (merges : ∀ old new, key old = key new → merge old new = new)
    (entries : List α) :
    let present :=
      entries.foldl (fun present x => order.insert (fun a b => compare (key a) (key b)) merge x present) []
    (∀ y, y ∈ present ↔ y ∈ Latest key entries) ∧ order.Enumerates compare (present.map key) := by
  induction entries using List.reverseRecOn with
  | nil =>
    exact ⟨fun y => ⟨fun member => (nomatch member), mem_of_mem_latest⟩, enumerates_iff.mpr .nil⟩
  | append_singleton entries last ih =>
    obtain ⟨members, enumerated⟩ := ih
    obtain ⟨grown, enumerated⟩ := order.insert_inserted laws merges (x := last) enumerated
    simp only [List.foldl_append, List.foldl_cons, List.foldl_nil]
    refine ⟨fun y => ?_, enumerated⟩
    rw [grown, members, mem_latest_append_one]

end

namespace Kind

theorem setOf_merged (order : Enumeration) (k : Kind) (elements : List k.Value) :
    (∀ x, x ∈ setOf order k elements ↔ x ∈ elements) ∧ order.Enumerates k.compare (setOf order k elements) := by
  obtain ⟨members, enumerated⟩ := order.foldl_merged id (fun old _ => old) k.order_laws (fun _ _ => id) elements
  rw [List.map_id] at enumerated
  exact ⟨fun x => (members x).trans mem_latest_id, enumerated⟩

theorem mapOf_merged (order : Enumeration) (k v : Kind) (pairs : List (k.Value × v.Value)) :
    (∀ x, x ∈ mapOf order k v pairs ↔ x ∈ Latest Prod.fst pairs) ∧
      order.Enumerates k.compare ((mapOf order k v pairs).map Prod.fst) :=
  order.foldl_merged Prod.fst (fun old new => (old.1, new.2)) k.order_laws (fun _ _ same => Prod.ext same rfl) pairs

end Kind
end CallWire
