import CallWire.Proofs.ValueOrder

/-! Building a container up from its own enumeration gives the enumeration back. This needs nothing of
a sorted container but that it ascends, and of a hashed one but that it repeats no entry. -/

namespace CallWire

variable {α : Type}

/-- The entries of a container in the order in which it enumerates them. -/
def Enumeration.Enumerates (order : Enumeration) (compare : α → α → Ordering) (entries : List α) : Prop :=
  match order with
  | .sorted => entries.Pairwise fun a b => compare a b = .lt
  | .hashed => entries.Nodup

/-- An entry goes behind those that compare with it in this way. -/
def Enumeration.Follows (order : Enumeration) (found : Ordering) : Prop :=
  match order with
  | .sorted => found = .gt
  | .hashed => found ≠ .eq

theorem Enumeration.Enumerates.follows {order : Enumeration} {compare : α → α → Ordering}
    (laws : Kind.OrderLaws compare) {entries : List α} (enumerated : order.Enumerates compare entries) :
    entries.Pairwise fun a b => order.Follows (compare b a) := by
  have := laws.trans
  have := laws.lawful
  cases order with
  | sorted =>
    refine List.Pairwise.imp ?_ enumerated
    intro a b ascending
    exact Std.OrientedCmp.gt_of_lt ascending
  | hashed =>
    refine List.Pairwise.imp ?_ enumerated
    intro a b distinct equal
    exact distinct (Std.LawfulEqCmp.eq_of_compare equal).symm

theorem insertSorted_last {compare : α → α → Ordering} (merge : α → α → α) {x : α} {entries : List α}
    (last : ∀ y ∈ entries, compare x y = .gt) : insertSorted compare merge x entries = entries ++ [x] := by
  induction entries with
  | nil => rfl
  | cons y ys ih =>
    rw [insertSorted, last y (by simp)]
    simp only [ih fun z member => last z (by simp [member]), List.cons_append]

theorem insertHashed_last {compare : α → α → Ordering} (merge : α → α → α) {x : α} {entries : List α}
    (last : ∀ y ∈ entries, compare x y ≠ .eq) : insertHashed compare merge x entries = entries ++ [x] := by
  induction entries with
  | nil => rfl
  | cons y ys ih =>
    have unequal := last y (by simp)
    have later := ih fun z member => last z (by simp [member])
    unfold insertHashed
    split
    · exact absurd ‹_› unequal
    · rw [later, List.cons_append]

theorem Enumeration.insert_last (order : Enumeration) {compare : α → α → Ordering} (merge : α → α → α) {x : α}
    {entries : List α} (last : ∀ y ∈ entries, order.Follows (compare x y)) :
    order.insert compare merge x entries = entries ++ [x] := by
  cases order with
  | sorted => exact insertSorted_last merge last
  | hashed => exact insertHashed_last merge last

theorem Enumeration.foldl_insert (order : Enumeration) (compare : α → α → Ordering) (merge : α → α → α)
    (before entries : List α) (follows : (before ++ entries).Pairwise fun a b => order.Follows (compare b a)) :
    entries.foldl (fun present x => order.insert compare merge x present) before = before ++ entries := by
  induction entries generalizing before with
  | nil => simp
  | cons x rest ih =>
    have last : ∀ y ∈ before, order.Follows (compare x y) := by
      intro y member
      exact (List.pairwise_append.mp follows).2.2 y member x (by simp)
    have shifted : before ++ x :: rest = (before ++ [x]) ++ rest := by simp
    rw [List.foldl_cons, order.insert_last merge last, shifted]
    exact ih (before ++ [x]) (shifted ▸ follows)

namespace Kind

theorem setOf_enumeration {order : Enumeration} {k : Kind} {elements : List k.Value}
    (enumerated : order.Enumerates k.compare elements) : setOf order k elements = elements := by
  have follows := enumerated.follows k.order_laws
  exact order.foldl_insert k.compare (fun old _ => old) [] elements follows

theorem mapOf_enumeration {order : Enumeration} {k v : Kind} {pairs : List (k.Value × v.Value)}
    (enumerated : order.Enumerates k.compare (pairs.map Prod.fst)) : mapOf order k v pairs = pairs := by
  have follows := List.pairwise_map.mp (enumerated.follows k.order_laws)
  exact order.foldl_insert (fun a b => k.compare a.1 b.1) (fun old new => (old.1, new.2)) [] pairs follows

end Kind
end CallWire
