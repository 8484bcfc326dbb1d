import CallWire.Bytes

/-!
The language of types that can travel, and the values of each. A kind is a tree of scalars,
strings, sequences, sets, maps and pairs; `Kind.Value` gives its values. Floating-point numbers are
kept as their bits, and a set or map as the list of its entries in the order in which the container
enumerates them. `Kind.compare` is the order that sorted containers go by.
-/

namespace CallWire

inductive Scalar
  | u8 | u16 | u32 | u64
  | i8 | i16 | i32 | i64
  | f32 | f64
  deriving DecidableEq, Repr

namespace Scalar

def width : Scalar → Nat
  | u8 | i8 => 1
  | u16 | i16 => 2
  | u32 | i32 | f32 => 4
  | u64 | i64 | f64 => 8

theorem width_pos (s : Scalar) : 0 < s.width := by
  cases s with
  | _ => decide

theorem width_le (s : Scalar) : s.width ≤ 8 := by
  cases s with
  | _ => decide

def isSigned : Scalar → Bool
  | i8 | i16 | i32 | i64 => true
  | _ => false

def isFloat : Scalar → Bool
  | f32 | f64 => true
  | _ => false

def name : Scalar → String
  | u8 => "u8" | u16 => "u16" | u32 => "u32" | u64 => "u64"
  | i8 => "i8" | i16 => "i16" | i32 => "i32" | i64 => "i64"
  | f32 => "f32" | f64 => "f64"

end Scalar

/-- The kinds of sequence. They share one encoding; a slice is only ever encoded. -/
inductive SequenceForm
  | slice | vector | deque | linked
  deriving DecidableEq, Repr

/-- Whether a container enumerates its entries in ascending order or in an order of its own. -/
inductive Enumeration
  | sorted | hashed
  deriving DecidableEq, Repr

inductive Kind
  | scalar (scalar : Scalar)
  | bool
  | text
  | boxed (content : Kind)
  | sequence (form : SequenceForm) (element : Kind)
  | set (order : Enumeration) (element : Kind)
  | map (order : Enumeration) (key value : Kind)
  | pair (first second : Kind)
  deriving DecidableEq, Repr

namespace Kind

@[reducible] def Value : Kind → Type
  | scalar s => BitVec (8 * s.width)
  | bool => Bool
  | text => String
  | boxed k => k.Value
  | sequence _ k => List k.Value
  | set _ k => List k.Value
  | map _ k v => List (k.Value × v.Value)
  | pair a b => a.Value × b.Value

def default : (k : Kind) → k.Value
  | scalar _ => 0
  | bool => false
  | text => ""
  | boxed k => k.default
  | sequence _ _ | set _ _ | map _ _ _ => []
  | pair a b => (a.default, b.default)

/-- The kinds with a total order, hence those that sets may hold and maps may be keyed by. -/
def isOrdered : Kind → Bool
  | scalar s => !s.isFloat
  | bool | text => true
  | boxed k | sequence _ k | set .sorted k => k.isOrdered
  | map .sorted k v | pair k v => k.isOrdered && v.isOrdered
  | set .hashed _ | map .hashed _ _ => false

def isWellFormed : Kind → Bool
  | scalar _ | bool | text => true
  | boxed k | sequence _ k => k.isWellFormed
  | set _ k => k.isOrdered && k.isWellFormed
  | map _ k v => k.isOrdered && k.isWellFormed && v.isWellFormed
  | pair a b => a.isWellFormed && b.isWellFormed

/-- Lists compare entry by entry; a list comes before its own extensions. -/
def compareLists {α : Type} (compare : α → α → Ordering) : List α → List α → Ordering
  | [], [] => .eq
  | [], _ :: _ => .lt
  | _ :: _, [] => .gt
  | a :: as, b :: bs => (compare a b).then (compareLists compare as bs)

/-- The order of values: numbers by size, `false` before `true`, strings bytewise, the rest
lexicographically. -/
def compare : (k : Kind) → k.Value → k.Value → Ordering
  | scalar s, a, b =>
    if s.isSigned then Ord.compare a.toInt b.toInt else Ord.compare a.toNat b.toNat
  | bool, a, b => Ord.compare a.toNat b.toNat
  | text, a, b =>
    compareLists (fun x y => Ord.compare x.toNat y.toNat) (Bytes.ofText a) (Bytes.ofText b)
  | boxed k, a, b => k.compare a b
  | sequence _ k, a, b => compareLists k.compare a b
  | set _ k, a, b => compareLists k.compare a b
  | map _ k v, a, b =>
    compareLists (fun x y => (k.compare x.1 y.1).then (v.compare x.2 y.2)) a b
  | pair k v, a, b => (k.compare a.1 b.1).then (v.compare a.2 b.2)

end Kind
end CallWire
