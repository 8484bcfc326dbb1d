import CallWire.Wire.Entries

/-! The order by which sorted containers go is a total order on every kind, and values that compare
as equal are equal. Sets and maps may therefore be described by plain equality of their entries. -/

namespace CallWire

theorem Bytes.ofText_injective {first second : String} (same : ofText first = ofText second) :
    first = second := by
  apply String.toByteArray_inj.mp
  exact ByteArray.ext (Array.toList_inj.mp same)

namespace Kind

/-- Total, and exact about equality. -/
structure OrderLaws {α : Type} (compare : α → α → Ordering) : Prop where
  trans : Std.TransCmp compare
  lawful : Std.LawfulEqCmp compare

namespace OrderLaws
variable {α β : Type}

theorem on {compare : β → β → Ordering} (laws : OrderLaws compare) {f : α → β}
    (injective : ∀ a b, f a = f b → a = b) : OrderLaws fun a b => compare (f a) (f b) where
  trans :=
    { eq_swap := laws.trans.eq_swap
      isLE_trans := laws.trans.isLE_trans }
  lawful :=
    { compare_self := laws.lawful.compare_self
      eq_of_compare := fun equal => injective _ _ (laws.lawful.eq_of_compare equal) }

theorem lists {compare : α → α → Ordering} (laws : OrderLaws compare) : OrderLaws (compareLists compare) := by
  have lexicographic : compareLists compare = List.compareLex compare := by
    funext first second
    induction first generalizing second with
    | nil => cases second <;> rfl
    | cons a as ih =>
      cases second with
      | nil => rfl
      | cons b bs => rw [compareLists, ih, List.compareLex_cons_cons]
  have := laws.trans
  have := laws.lawful
  rw [lexicographic]
  exact ⟨inferInstance, inferInstance⟩

theorem pair {first : α → α → Ordering} {second : β → β → Ordering}
    (left : OrderLaws first) (right : OrderLaws second) :
    OrderLaws fun a b : α × β => (first a.1 b.1).then (second a.2 b.2) := by
  constructor
  · have : Std.TransCmp fun a b : α × β => first a.1 b.1 :=
      { eq_swap := left.trans.eq_swap, isLE_trans := left.trans.isLE_trans }
    have : Std.TransCmp fun a b : α × β => second a.2 b.2 :=
      { eq_swap := right.trans.eq_swap, isLE_trans := right.trans.isLE_trans }
    exact inferInstanceAs (Std.TransCmp (compareLex (fun a b : α × β => first a.1 b.1) fun a b => second a.2 b.2))
  · refine { compare_self := ?_, eq_of_compare := ?_ }
    · intro a
      rw [left.lawful.compare_self, right.lawful.compare_self]
      rfl
    · intro a b equal
      rw [Ordering.then_eq_eq] at equal
      exact Prod.ext (left.lawful.eq_of_compare equal.1) (right.lawful.eq_of_compare equal.2)

end OrderLaws

private theorem nat_laws : OrderLaws (Ord.compare (α := Nat)) := ⟨inferInstance, inferInstance⟩

private theorem int_laws : OrderLaws (Ord.compare (α := Int)) := ⟨inferInstance, inferInstance⟩

theorem order_laws (k : Kind) : OrderLaws k.compare := by
  induction k with
  | scalar s =>
    have signed := int_laws.on (f := BitVec.toInt (n := 8 * s.width)) fun _ _ => BitVec.eq_of_toInt_eq
    have unsigned := nat_laws.on (f := BitVec.toNat (w := 8 * s.width)) fun _ _ => BitVec.eq_of_toNat_eq
    have same : (scalar s).compare =
        if s.isSigned then fun a b => Ord.compare a.toInt b.toInt else fun a b => Ord.compare a.toNat b.toNat := by
      funext a b
      rw [compare]
      split <;> rfl
    rw [same]
    split
    · exact signed
    · exact unsigned
  | bool => exact nat_laws.on (f := Bool.toNat) (by decide)
  | text =>
    exact (nat_laws.on (f := UInt8.toNat) fun _ _ => UInt8.toNat_inj.mp).lists.on fun _ _ =>
      Bytes.ofText_injective
  | boxed k ih => exact ih
  | sequence form k ih | set order k ih => exact ih.lists
  | map order k v keys values => exact (keys.pair values).lists
  | pair a b first second => exact first.pair second

end Kind
end CallWire
