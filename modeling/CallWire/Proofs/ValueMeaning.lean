import CallWire.Proofs.MergedEntries
import CallWire.Proofs.WireEncoding
import Mathlib.Data.List.Perm.Subperm

/-! What a value stands for: a set for its elements and a map for its bindings, whatever order they are listed
in. Values that stand for the same differ in nothing but the orders of hashed containers, and take up the same
space. -/

namespace CallWire

variable {α β γ : Type}

theorem total_perm {first second : List Nat} (perm : first.Perm second) : total first = total second := perm.sum_nat

theorem total_sublist {first second : List Nat} (part : first.Sublist second) : total first ≤ total second := by
  induction part with
  | slnil => exact Nat.le_refl _
  | cons n part ih => exact Nat.le_trans ih (Nat.le_add_left _ _)
  | cons_cons n part ih => exact Nat.add_le_add_left ih _

theorem total_subperm {first second : List α} (size : α → Nat) (part : first.Subperm second) :
    total (first.map size) ≤ total (second.map size) := by
  obtain ⟨same, perm, part⟩ := part
  exact total_perm (perm.map size) ▸ total_sublist (part.map size)

theorem map_eq_of_map_eq {f : α → β} {g : α → γ} {first second : List α}
    (decides : ∀ x ∈ first, ∀ y ∈ second, f x = f y → g x = g y) (same : first.map f = second.map f) :
    first.map g = second.map g := by
  induction first generalizing second with
  | nil => rw [List.map_eq_nil_iff.mp same.symm]
  | cons x rest ih =>
    obtain ⟨y, others, rfl, own, later⟩ := List.map_eq_cons_iff.mp same.symm
    rw [List.map_cons, List.map_cons, decides x (by simp) y (by simp) own.symm]
    exact congrArg _ (ih (fun a member b there => decides a (by simp [member]) b (by simp [there])) later.symm)

theorem exists_of_image_eq {f : α → β} {first second : List α} (same : f '' {x | x ∈ first} = f '' {x | x ∈ second})
    {x : α} (member : x ∈ first) : ∃ y ∈ second, f y = f x := by
  have there : f x ∈ f '' {x | x ∈ first} := ⟨x, member, rfl⟩
  rwa [same] at there

theorem mem_iff_of_image_eq {f : α → β} {first second : List α} (same : f '' {x | x ∈ first} = f '' {x | x ∈ second})
    (injective : ∀ x ∈ first, ∀ y ∈ second, f x = f y → x = y) (x : α) : x ∈ first ↔ x ∈ second := by
  constructor
  · intro member
    obtain ⟨y, there, equal⟩ := exists_of_image_eq same member
    rwa [injective x member y there equal.symm]
  · intro there
    obtain ⟨y, member, equal⟩ := exists_of_image_eq same.symm there
    rwa [← injective y member x there equal]

namespace Kind

@[reducible] def Meaning : Kind → Type
  | scalar s => BitVec (8 * s.width)
  | bool => Bool
  | text => String
  | boxed k => k.Meaning
  | sequence _ k => List k.Meaning
  | set _ k => Set k.Meaning
  | map _ k v => Set (k.Meaning × v.Meaning)
  | pair a b => a.Meaning × b.Meaning

/-- A mapping is the set of its bindings. -/
def meaning : (k : Kind) → k.Value → k.Meaning
  | scalar _, a => a
  | bool, a => a
  | text, a => a
  | boxed k, a => k.meaning a
  | sequence _ k, xs => List.map k.meaning xs
  | set _ k, xs => k.meaning '' {x | x ∈ (xs : List k.Value)}
  | map _ k v, xs => Prod.map k.meaning v.meaning '' {x | x ∈ (xs : List (k.Value × v.Value))}
  | pair a b, x => (a.meaning x.1, b.meaning x.2)

/-- Elements of sets and keys of maps hold no hashed container, so they are what they stand for. -/
theorem eq_of_meaning_eq {k : Kind} (ordered : k.isOrdered) {a b : k.Value} (valid : k.Valid a) (valid' : k.Valid b)
    (same : k.meaning a = k.meaning b) : a = b := by
  induction k with
  | scalar s | bool | text => exact same
  | boxed k ih => exact ih ordered valid valid' same
  | sequence form k ih =>
    have equal := map_eq_of_map_eq (g := id) (fun x there y here => ih ordered (valid x there) (valid' y here)) same
    rwa [List.map_id, List.map_id] at equal
  | set order k ih =>
    cases order with
    | hashed => cases ordered
    | sorted =>
      refine Enumeration.Enumerates.ext k.order_laws id ?_ ?_ (mem_iff_of_image_eq same ?_)
      · rw [List.map_id]
        exact valid.1
      · rw [List.map_id]
        exact valid'.1
      · intro x there y here
        exact ih ordered (valid.2 x there) (valid'.2 y here)
  | map order k v keys values =>
    cases order with
    | hashed => cases ordered
    | sorted =>
      rw [isOrdered, Bool.and_eq_true] at ordered
      refine Enumeration.Enumerates.ext k.order_laws Prod.fst valid.1 valid'.1 (mem_iff_of_image_eq same ?_)
      intro x there y here equal
      obtain ⟨first, second⟩ := Prod.mk.inj equal
      exact Prod.ext (keys ordered.1 (valid.2 x there).1 (valid'.2 y here).1 first)
        (values ordered.2 (valid.2 x there).2 (valid'.2 y here).2 second)
  | pair a b first second =>
    rw [isOrdered, Bool.and_eq_true] at ordered
    obtain ⟨left, right⟩ := Prod.mk.inj same
    exact Prod.ext (first ordered.1 valid.1 valid'.1 left) (second ordered.2 valid.2 valid'.2 right)

/-- The one container lists the other's elements in another order. -/
theorem perm_of_meaning_eq {order : Enumeration} {k : Kind} (ordered : k.isOrdered) {xs ys : List k.Value}
    (valid : (set order k).Valid xs) (valid' : (set order k).Valid ys)
    (same : (set order k).meaning xs = (set order k).meaning ys) : xs.Perm ys := by
  refine (List.perm_ext_iff_of_nodup (valid.1.nodup k.order_laws) (valid'.1.nodup k.order_laws)).mpr ?_
  refine mem_iff_of_image_eq same fun x there y here => ?_
  exact eq_of_meaning_eq ordered (valid.2 x there) (valid'.2 y here)

/-- The one map binds each key of the other, to a value that stands for the same. -/
theorem binding_of_meaning_eq {order : Enumeration} {k v : Kind} (ordered : k.isOrdered)
    {xs ys : List (k.Value × v.Value)} (valid : (map order k v).Valid xs) (valid' : (map order k v).Valid ys)
    (same : (map order k v).meaning xs = (map order k v).meaning ys) {x : k.Value × v.Value} (member : x ∈ xs) :
    ∃ y ∈ ys, y.1 = x.1 ∧ v.meaning y.2 = v.meaning x.2 := by
  obtain ⟨y, there, equal⟩ := exists_of_image_eq same member
  obtain ⟨first, second⟩ := Prod.mk.inj equal
  exact ⟨y, there, eq_of_meaning_eq ordered (valid'.2 y there).1 (valid.2 x member).1 first, second⟩

/-- Keys and what is told of the values by what they stand for are listed in another order. -/
theorem perm_bindings_of_meaning_eq {order : Enumeration} {k v : Kind} (ordered : k.isOrdered)
    {xs ys : List (k.Value × v.Value)} (valid : (map order k v).Valid xs) (valid' : (map order k v).Valid ys)
    (same : (map order k v).meaning xs = (map order k v).meaning ys) {f : v.Value → γ}
    (decides : ∀ x ∈ xs, ∀ y ∈ ys, v.meaning x.2 = v.meaning y.2 → f x.2 = f y.2) :
    (xs.map fun x => (x.1, f x.2)).Perm (ys.map fun y => (y.1, f y.2)) := by
  have distinct {entries : List (k.Value × v.Value)} (valid : (map order k v).Valid entries) :
      (entries.map fun x => (x.1, f x.2)).Nodup := by
    have keys := valid.1.nodup k.order_laws
    refine .of_map Prod.fst ?_
    rwa [List.map_map]
  refine (List.perm_ext_iff_of_nodup (distinct valid) (distinct valid')).mpr fun z => ?_
  simp only [List.mem_map]
  constructor
  · rintro ⟨x, member, rfl⟩
    obtain ⟨y, there, key, value⟩ := binding_of_meaning_eq ordered valid valid' same member
    exact ⟨y, there, Prod.ext key (decides x member y there value.symm).symm⟩
  · rintro ⟨y, there, rfl⟩
    obtain ⟨x, member, key, value⟩ := binding_of_meaning_eq ordered valid' valid same.symm there
    exact ⟨x, member, Prod.ext key (decides x member y there value)⟩

theorem size_of_meaning_eq {k : Kind} (wellFormed : k.isWellFormed) {a b : k.Value} (valid : k.Valid a)
    (valid' : k.Valid b) (same : k.meaning a = k.meaning b) : k.size a = k.size b := by
  induction k with
  | scalar s | bool => rfl
  | text => rw [show a = b from same]
  | boxed k ih => exact ih wellFormed valid valid' same
  | sequence form k ih =>
    have sizes := map_eq_of_map_eq (g := k.size)
      (fun x there y here => ih wellFormed (valid x there) (valid' y here)) same
    simp only [size, sizes]
  | set order k ih =>
    rw [isWellFormed, Bool.and_eq_true] at wellFormed
    have sizes := total_perm ((perm_of_meaning_eq wellFormed.1 valid valid' same).map k.size)
    simp only [size, sizes]
  | map order k v keys values =>
    rw [isWellFormed, Bool.and_eq_true, Bool.and_eq_true] at wellFormed
    have perm := perm_bindings_of_meaning_eq wellFormed.1.1 valid valid' same (f := v.size) fun x there y here =>
      values wellFormed.2 (valid.2 x there).2 (valid'.2 y here).2
    have sizes := total_perm (perm.map fun x => k.size x.1 + x.2)
    simp only [List.map_map, Function.comp_def] at sizes
    simp only [size, sizes]
  | pair a b first second =>
    rw [isWellFormed, Bool.and_eq_true] at wellFormed
    obtain ⟨left, right⟩ := Prod.mk.inj same
    simp only [size, first wellFormed.1 valid.1 valid'.1 left, second wellFormed.2 valid.2 valid'.2 right]

theorem announceable_of_meaning_eq {k : Kind} (wellFormed : k.isWellFormed) {a b : k.Value} (valid : k.Valid a)
    (valid' : k.Valid b) (same : k.meaning a = k.meaning b) (small : k.Announceable a) : k.Announceable b := by
  induction k with
  | scalar s | bool => trivial
  | text => exact (show a = b from same) ▸ small
  | boxed k ih => exact ih wellFormed valid valid' same small
  | sequence form k ih =>
    have same : List.map k.meaning a = List.map k.meaning b := same
    have length : a.length = b.length := by simpa using congrArg List.length same
    refine ⟨length ▸ small.1, fun y here => ?_⟩
    have there : k.meaning y ∈ List.map k.meaning a := same ▸ List.mem_map_of_mem here
    obtain ⟨x, there, equal⟩ := List.mem_map.mp there
    exact ih wellFormed (valid x there) (valid' y here) equal (small.2 x there)
  | set order k ih =>
    rw [isWellFormed, Bool.and_eq_true] at wellFormed
    have perm := perm_of_meaning_eq wellFormed.1 valid valid' same
    exact ⟨perm.length_eq ▸ small.1, fun y here => small.2 y (perm.mem_iff.mpr here)⟩
  | map order k v keys values =>
    rw [isWellFormed, Bool.and_eq_true, Bool.and_eq_true] at wellFormed
    have perm := perm_bindings_of_meaning_eq wellFormed.1.1 valid valid' same (f := fun _ => ()) fun _ _ _ _ _ => rfl
    have length : a.length = b.length := by simpa using perm.length_eq
    refine ⟨length ▸ small.1, fun y here => ?_⟩
    obtain ⟨x, there, key, value⟩ := binding_of_meaning_eq wellFormed.1.1 valid' valid same.symm here
    refine ⟨key ▸ (small.2 x there).1, ?_⟩
    exact values wellFormed.2 (valid.2 x there).2 (valid'.2 y here).2 value (small.2 x there).2
  | pair a b first second =>
    rw [isWellFormed, Bool.and_eq_true] at wellFormed
    obtain ⟨left, right⟩ := Prod.mk.inj same
    exact ⟨first wellFormed.1 valid.1 valid'.1 left small.1, second wellFormed.2 valid.2 valid'.2 right small.2⟩

end Kind
end CallWire
