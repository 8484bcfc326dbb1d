/-!
Byte strings and the little-endian form of natural numbers. Main statements: the form has the
width asked for, reads back modulo the range of that width, and is the only string of its length
with its value.
-/

namespace CallWire

abbrev Bytes := List UInt8

def total (sizes : List Nat) : Nat := sizes.foldr (· + ·) 0

theorem length_flatMap_eq_total {α : Type} (f : α → Bytes) (items : List α) :
    (items.flatMap f).length = total (items.map fun a => (f a).length) := List.length_flatMap

theorem le_total {n : Nat} {sizes : List Nat} (member : n ∈ sizes) : n ≤ total sizes := by
  induction sizes with
  | nil => cases member
  | cons first rest ih =>
    show n ≤ first + total rest
    rcases List.mem_cons.mp member with rfl | later
    · exact Nat.le_add_right _ _
    · exact Nat.le_trans (ih later) (Nat.le_add_left _ _)

namespace Bytes

/-- The `width` low bytes of `n`, least significant first. -/
def littleEndian : Nat → Nat → Bytes
  | 0, _ => []
  | width + 1, n => UInt8.ofNat n :: littleEndian width (n / 256)

/-- The number whose little-endian digits in base 256 are the given bytes. -/
def value : Bytes → Nat
  | [] => 0
  | b :: rest => b.toNat + 256 * value rest

@[simp] theorem littleEndian_length (width n : Nat) : (littleEndian width n).length = width := by
  induction width generalizing n with
  | zero => rfl
  | succ width ih => simp [littleEndian, ih]

theorem value_littleEndian (width n : Nat) : value (littleEndian width n) = n % Nat.pow 256 width := by
  induction width generalizing n with
  | zero => simp [littleEndian, value, Nat.mod_one]
  | succ width ih =>
    rw [littleEndian, value, ih, Nat.pow_eq, Nat.pow_eq, Nat.pow_succ', Nat.mod_mul, UInt8.toNat_ofNat']

theorem value_littleEndian_of_lt {width n : Nat} (small : n < Nat.pow 256 width) : value (littleEndian width n) = n := by
  rw [value_littleEndian]
  exact Nat.mod_eq_of_lt small

theorem value_lt (bytes : Bytes) : value bytes < Nat.pow 256 bytes.length := by
  induction bytes with
  | nil => simp [value]
  | cons b rest ih =>
    have := b.toNat_lt
    rw [Nat.pow_eq] at ih ⊢
    rw [value, List.length_cons, Nat.pow_succ]
    omega

theorem littleEndian_value (bytes : Bytes) : littleEndian bytes.length (value bytes) = bytes := by
  induction bytes with
  | nil => rfl
  | cons b rest ih =>
    have bound := b.toNat_lt
    have low : UInt8.ofNat (b.toNat + 256 * value rest) = b := by
      apply UInt8.toNat_inj.1
      rw [UInt8.toNat_ofNat']
      omega
    have high : (b.toNat + 256 * value rest) / 256 = value rest := by omega
    rw [value, List.length_cons, littleEndian, low, high, ih]

theorem littleEndian_value_of_length {bytes : Bytes} {width : Nat} (h : bytes.length = width) :
    littleEndian width (value bytes) = bytes := by
  rw [← h, littleEndian_value]

def ofText (text : String) : Bytes :=
  text.toUTF8.data.toList

/-- The text whose UTF-8 form is `bytes`, if there is one. -/
def toText? (bytes : Bytes) : Option String :=
  String.fromUTF8? (ByteArray.mk bytes.toArray)

end Bytes
end CallWire
