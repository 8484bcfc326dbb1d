import CallWire.Wire.Kind

/-!
How sets and maps are built up entry by entry. A set keeps the element it already has; a map keeps
the key it already has and takes the value that came last. A sorted container puts a new entry at
its place in the order, a hashed one has an order of its own, here that of arrival.
`Kind.canonical` forgets the orders of hashed containers, at any depth, by sorting them.
-/

namespace CallWire

variable {α : Type}

/-- Insert into an ascending list; an entry that is there already is merged with the new one. -/
def insertSorted (compare : α → α → Ordering) (merge : α → α → α) (x : α) : List α → List α
  | [] => [x]
  | y :: ys =>
    match compare x y with
    | .lt => x :: y :: ys
    | .eq => merge y x :: ys
    | .gt => y :: insertSorted compare merge x ys

/-- Merge with the equal entry, or append where there is none. -/
def insertHashed (compare : α → α → Ordering) (merge : α → α → α) (x : α) : List α → List α
  | [] => [x]
  | y :: ys =>
    match compare x y with
    | .eq => merge y x :: ys
    | _ => y :: insertHashed compare merge x ys

def Enumeration.insert (order : Enumeration) (compare : α → α → Ordering) (merge : α → α → α)
    (x : α) (entries : List α) : List α :=
  match order with
  | .sorted => insertSorted compare merge x entries
  | .hashed => insertHashed compare merge x entries

namespace Kind

def setOf (order : Enumeration) (k : Kind) (elements : List k.Value) : List k.Value :=
  elements.foldl (fun entries x => order.insert k.compare (fun old _ => old) x entries) []

/-- The map in which each key has the value listed last for it. -/
def mapOf (order : Enumeration) (k v : Kind) (pairs : List (k.Value × v.Value)) :
    List (k.Value × v.Value) :=
  pairs.foldl
    (fun entries x =>
      order.insert (fun a b => k.compare a.1 b.1) (fun old new => (old.1, new.2)) x entries)
    []

/-- The same value with every hashed container listed in ascending order. Two values are the same
set, map, or structure of such exactly if their canonical forms are equal. -/
def canonical : (k : Kind) → k.Value → k.Value
  | scalar _, a => a
  | bool, a => a
  | text, a => a
  | boxed k, a => k.canonical a
  | sequence _ k, xs => List.map k.canonical xs
  | set _ k, xs => setOf .sorted k (List.map k.canonical xs)
  | map _ k v, xs => mapOf .sorted k v (List.map (fun x => (k.canonical x.1, v.canonical x.2)) xs)
  | pair a b, x => (a.canonical x.1, b.canonical x.2)

end Kind
end CallWire
