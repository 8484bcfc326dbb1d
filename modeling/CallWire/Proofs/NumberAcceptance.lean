import CallWire.Argument.Identifier
import CallWire.Proofs.ArgumentText
import Mathlib.Data.Nat.Digits.Defs

/-! Which texts are taken as numbers. A number is told by the powers of its base, of however many digits it is made, and
a text is accepted just where the number that it stands for is in the range asked for. -/

namespace CallWire

/-- A digit of the base and its value, in either case. -/
def BaseDigit (base : Nat) (c : Char) (v : Nat) : Prop := v < base ∧ HexDigit c v

/-- One digit or more, and the number that they stand for. -/
def Numeral (base : Nat) (chars : List Char) (n : Nat) : Prop :=
  chars ≠ [] ∧ ∃ values, List.Forall₂ (BaseDigit base) chars values ∧ n = Nat.ofDigits base values.reverse

/-- A numeral that may stand behind a plus sign. -/
def PlusNumeral (base : Nat) (chars : List Char) (n : Nat) : Prop :=
  Numeral base chars n ∨ ∃ digits, chars = '+' :: digits ∧ Numeral base digits n

/-- A number without sign: decimal, or hexadecimal behind an opening. -/
def Unsigned (text : String) (n : Nat) : Prop :=
  PlusNumeral 10 text.toList n ∨ ∃ opening ∈ hexOpenings, ∃ rest, text.toList = opening ++ rest ∧ PlusNumeral 16 rest n

/-- A decimal number that may have a sign. -/
def Signed (text : String) (i : Int) : Prop :=
  (∃ n : Nat, i = n ∧ PlusNumeral 10 text.toList n) ∨
    ∃ n : Nat, i = -n ∧ ∃ digits, text.toList = '-' :: digits ∧ Numeral 10 digits n

theorem digitValue?_eq_some {base : Nat} (known : base ≤ 16) {c : Char} {v : Nat} :
    digitValue? base c = some v ↔ BaseDigit base c v := by
  have inBase : digitValue? base c = some v ↔ v < base ∧ digitValue? 16 c = some v := by
    simp only [digitValue?]
    grind
  rw [inBase, BaseDigit]
  apply and_congr_right
  intro _
  exact ⟨hexDigit_of_digitValue?, HexDigit.value⟩

theorem number_eq_ofDigits (base : Nat) (values : List Nat) :
    Integer.number base 0 values = Nat.ofDigits base values.reverse := by
  simp only [Nat.ofDigits_eq_foldr, List.foldr_reverse, Integer.number, Nat.cast_id, Nat.add_comm]

section
variable {base n m : Nat} {chars : List Char} {text : String}

theorem makes_iff_numeral (known : base ≤ 16) : Integer.Makes base chars n ↔ Numeral base chars n := by
  simp only [Integer.Makes, Integer.Digits, Numeral, digitValue?_eq_some known, number_eq_ofDigits, eq_comm]

theorem makesPositive_iff (known : base ≤ 16) : Integer.MakesPositive base chars n ↔ PlusNumeral base chars n := by
  simp only [Integer.MakesPositive, PlusNumeral, makes_iff_numeral known]

/-! ### A text stands for one number -/

theorem Numeral.unique (made : Numeral base chars n) (other : Numeral base chars m) : n = m := by
  obtain ⟨-, values, digits, rfl⟩ := made
  obtain ⟨-, values', digits', rfl⟩ := other
  have one : Relator.RightUnique (BaseDigit base) := by
    intro c v w digit digit'
    exact Option.some.inj (digit.2.value.symm.trans digit'.2.value)
  rw [List.right_unique_forall₂' one digits digits']

theorem Numeral.digit_mem (made : Numeral base chars n) : ∀ c ∈ chars, ∃ v, HexDigit c v := by
  obtain ⟨-, values, digits, -⟩ := made
  induction digits with
  | nil => exact nofun
  | cons digit _ ih => exact List.forall_mem_cons.mpr ⟨⟨_, digit.2⟩, ih⟩

/-- No sign is a digit. -/
theorem Numeral.unsigned {c : Char} {digits : List Char} (made : Numeral base (c :: digits) n) : c ≠ '+' ∧ c ≠ '-' := by
  obtain ⟨v, digit⟩ := made.digit_mem c List.mem_cons_self
  constructor
  · rintro rfl
    cases digit.value
  · rintro rfl
    cases digit.value

theorem PlusNumeral.unique (made : PlusNumeral base chars n) (other : PlusNumeral base chars m) : n = m := by
  rcases made with made | ⟨digits, rfl, made⟩
  · rcases other with other | ⟨digits, rfl, other⟩
    · exact made.unique other
    · exact absurd rfl made.unsigned.1
  · rcases other with other | ⟨digits', same, other⟩
    · exact absurd rfl other.unsigned.1
    · cases same
      exact made.unique other

/-- The letter of an opening is in no numeral, so what has an opening is read in one base only. -/
theorem PlusNumeral.plain (made : PlusNumeral base chars n) : ∀ c ∈ chars, c ≠ 'x' ∧ c ≠ 'X' := by
  have digits : ∀ {digits}, Numeral base digits n → ∀ c ∈ digits, c ≠ 'x' ∧ c ≠ 'X' := by
    intro digits made c member
    obtain ⟨v, digit⟩ := made.digit_mem c member
    exact digit.plain.2.2
  rcases made with made | ⟨rest, rfl, made⟩
  · exact digits made
  · exact List.forall_mem_cons.mpr ⟨by decide, digits made⟩

theorem unsigned_of_opened {rest : List Char} (opened : afterAny? ["0x", "0X"] text.toList = some rest) :
    Unsigned text n ↔ PlusNumeral 16 rest n := by
  constructor
  · intro made
    rcases made with made | ⟨opening, one, rest', same, made⟩
    · rw [afterAny?_plain made.plain] at opened
      cases opened
    · have opened' := afterAny?_eq_some.mpr ⟨opening, one, same⟩
      rw [Option.some.inj (opened.symm.trans opened')]
      exact made
  · intro made
    obtain ⟨opening, one, same⟩ := afterAny?_eq_some.mp opened
    exact .inr ⟨opening, one, rest, same, made⟩

theorem unsigned_of_plain (plain : afterAny? ["0x", "0X"] text.toList = none) :
    Unsigned text n ↔ PlusNumeral 10 text.toList n := by
  constructor
  · intro made
    rcases made with made | ⟨opening, one, rest, same, -⟩
    · exact made
    · rw [afterAny?_eq_some.mpr ⟨opening, one, same⟩] at plain
      cases plain
  · exact .inl

theorem Unsigned.unique (made : Unsigned text n) (other : Unsigned text m) : n = m := by
  cases opened : afterAny? ["0x", "0X"] text.toList with
  | none =>
    rw [unsigned_of_plain opened] at made other
    exact made.unique other
  | some rest =>
    rw [unsigned_of_opened opened] at made other
    exact made.unique other

theorem Signed.unique {i j : Int} (made : Signed text i) (other : Signed text j) : i = j := by
  have behind {digits : List Char} {n : Nat} (minus : text.toList = '-' :: digits) : ¬ PlusNumeral 10 text.toList n := by
    rw [minus]
    intro made
    rcases made with made | ⟨_, same, -⟩
    · exact made.unsigned.2 rfl
    · cases same
  rcases made with ⟨n, rfl, made⟩ | ⟨n, rfl, digits, minus, made⟩
  · rcases other with ⟨m, rfl, other⟩ | ⟨m, rfl, digits, minus, -⟩
    · rw [made.unique other]
    · exact absurd made (behind minus)
  · rcases other with ⟨m, rfl, other⟩ | ⟨m, rfl, digits', minus', other⟩
    · exact absurd other (behind minus)
    · cases minus.symm.trans minus'
      rw [made.unique other]

/-! ### Reading -/

theorem readUnsigned_eq_ok : readUnsigned text = .ok n ↔ Unsigned text n ∧ n < 2 ^ 64 := by
  have mapped {read : Except IntegerError Nat} :
      read.mapError (ArgumentError.unsigned text) = .ok n ↔ read = .ok n := by
    cases read with
    | error error => simp [Except.mapError]
    | ok n => simp [Except.mapError]
  rw [readUnsigned, mapped]
  cases opened : afterAny? ["0x", "0X"] text.toList with
  | none =>
    rw [unsigned_of_plain opened, ← makesPositive_iff (by decide)]
    exact Integer.readUnsigned_eq_ok (by decide)
  | some rest =>
    rw [unsigned_of_opened opened, ← makesPositive_iff (by decide)]
    have read : Integer.readUnsigned 16 64 (String.ofList rest) = .ok n ↔ _ := Integer.readUnsigned_eq_ok (by decide)
    rwa [String.toList_ofList] at read

theorem readSigned_eq_ok {width : Nat} {i : Int} :
    Integer.readSigned width text = .ok i ↔ Signed text i ∧ -2 ^ (width - 1) ≤ i ∧ i < 2 ^ (width - 1) := by
  have limit : (2 : Int) ^ (width - 1) = (2 ^ (width - 1) : Nat) := (Int.natCast_pow 2 (width - 1)).symm
  have positive := Nat.two_pow_pos (width - 1)
  simp only [Integer.readSigned_eq_ok, makesPositive_iff (by decide : 10 ≤ 16), makes_iff_numeral (by decide : 10 ≤ 16),
    Nat.pow_eq, limit]
  generalize 2 ^ (width - 1) = bound at positive ⊢
  constructor
  · intro read
    rcases read with ⟨n, rfl, made, small⟩ | ⟨n, rfl, made, small⟩
    · exact ⟨.inl ⟨n, rfl, made⟩, by omega, by omega⟩
    · exact ⟨.inr ⟨n, rfl, made⟩, by omega, by omega⟩
  · intro spelled
    obtain ⟨⟨n, rfl, made⟩ | ⟨n, rfl, made⟩, low, high⟩ := spelled
    · exact .inl ⟨n, rfl, made, by omega⟩
    · exact .inr ⟨n, rfl, made, by omega⟩

theorem Scalar.floatFormat?_eq_none {s : Scalar} (whole : s.isFloat = false) : s.floatFormat? = none := by
  cases s with
  | f32 | f64 => cases whole
  | _ => rfl

/-- A number read at full width, as a type that holds the numbers below a bound. -/
def narrow {α ε ε' : Type} (bound : Nat) (of : Nat → α) (unreadable : ε → ε') (beyond : ε') :
    Except ε Nat → Except ε' α
  | .error error => .error (unreadable error)
  | .ok n => if n < bound then .ok (of n) else .error beyond

/-- The full width is enough for every bound, so that nothing but the bound itself matters. -/
theorem narrow_readUnsigned {α ε' : Type} {bound : Nat} {of : Nat → α} {toNat : α → Nat} {unreadable : ArgumentError → ε'}
    {beyond : ε'} (enough : bound ≤ 2 ^ 64) (holds : ∀ n < bound, ∀ a, of n = a ↔ toNat a = n) {a : α} :
    narrow bound of unreadable beyond (readUnsigned text) = .ok a ↔ ∃ n, Unsigned text n ∧ n < bound ∧ toNat a = n := by
  have narrowed : narrow bound of unreadable beyond (readUnsigned text) = .ok a ↔
      ∃ n, readUnsigned text = .ok n ∧ n < bound ∧ of n = a := by
    cases readUnsigned text with
    | error error => simp [narrow]
    | ok n => by_cases within : n < bound <;> simp [narrow, within]
  rw [narrowed]
  constructor
  · intro ⟨n, read, within, same⟩
    exact ⟨n, (readUnsigned_eq_ok.mp read).1, within, (holds n within a).mp same⟩
  · intro ⟨n, made, within, same⟩
    exact ⟨n, readUnsigned_eq_ok.mpr ⟨made, Nat.lt_of_lt_of_le within enough⟩, within, (holds n within a).mpr same⟩

theorem Scalar.read_unsigned_eq_ok {s : Scalar} (whole : s.isFloat = false) (unsigned : s.isSigned = false)
    {a : BitVec (8 * s.width)} :
    s.read text = .ok a ↔ ∃ n, Unsigned text n ∧ n < 2 ^ (8 * s.width) ∧ a.toNat = n := by
  have read : s.read text = narrow (2 ^ (8 * s.width)) (BitVec.ofNat (8 * s.width)) id
      (.integer (.scalar s) text .tooLarge) (readUnsigned text) := by
    simp only [Scalar.read, Scalar.floatFormat?_eq_none whole, unsigned]
    cases readUnsigned text with
    | error error => rfl
    | ok n => rfl
  rw [read]
  apply narrow_readUnsigned
  · exact Nat.pow_le_pow_right (by decide) (Nat.mul_le_mul_left 8 s.width_le)
  · intro n within a
    rw [← BitVec.toNat_inj, BitVec.toNat_ofNat, Nat.mod_eq_of_lt within, eq_comm]

theorem Scalar.read_signed_eq_ok {s : Scalar} (whole : s.isFloat = false) (signed : s.isSigned = true)
    {a : BitVec (8 * s.width)} :
    s.read text = .ok a ↔
      ∃ i, Signed text i ∧ -2 ^ (8 * s.width - 1) ≤ i ∧ i < 2 ^ (8 * s.width - 1) ∧ a.toInt = i := by
  have positive : 0 < 8 * s.width := Nat.mul_pos (by decide) s.width_pos
  have narrowed : s.read text = .ok a ↔
      ∃ i, Integer.readSigned (8 * s.width) text = .ok i ∧ BitVec.ofInt (8 * s.width) i = a := by
    simp only [Scalar.read, Scalar.floatFormat?_eq_none whole, signed]
    cases Integer.readSigned (8 * s.width) text with
    | error error => simp
    | ok i => simp
  rw [narrowed]
  constructor
  · intro accepted
    obtain ⟨i, read, rfl⟩ := accepted
    obtain ⟨made, low, high⟩ := readSigned_eq_ok.mp read
    exact ⟨i, made, low, high, BitVec.toInt_ofInt_eq_self positive low high⟩
  · intro denoted
    obtain ⟨i, made, low, high, rfl⟩ := denoted
    exact ⟨a.toInt, readSigned_eq_ok.mpr ⟨made, low, high⟩, BitVec.ofInt_toInt⟩

theorem readCallId_eq_ok {id : UInt16} : readCallId text = .ok id ↔ ∃ n, Unsigned text n ∧ n < 2 ^ 16 ∧ id.toNat = n := by
  have read : readCallId text =
      narrow UInt16.size UInt16.ofNat IdentifierError.unreadable (.callIdRange text) (readUnsigned text) := by
    rw [readCallId]
    cases readUnsigned text with
    | error error => rfl
    | ok n => rfl
  rw [read]
  apply narrow_readUnsigned
  · decide
  · intro n within id
    rw [← UInt16.toNat_inj, UInt16.toNat_ofNat_of_lt' within, eq_comm]

theorem readMethodId_eq_ok {id : UInt32} :
    readMethodId text = .ok id ↔ ∃ n, Unsigned text n ∧ n < 2 ^ 32 ∧ id.toNat = n := by
  have read : readMethodId text =
      narrow UInt32.size UInt32.ofNat IdentifierError.unreadable (.methodIdRange text) (readUnsigned text) := by
    rw [readMethodId]
    cases readUnsigned text with
    | error error => rfl
    | ok n => rfl
  rw [read]
  apply narrow_readUnsigned
  · decide
  · intro n within id
    rw [← UInt32.toNat_inj, UInt32.toNat_ofNat_of_lt' within, eq_comm]

/-- An object may have any number that can be read. -/
theorem readObjectId_eq_ok {id : UInt64} :
    readObjectId text = .ok id ↔ ∃ n, Unsigned text n ∧ n < 2 ^ 64 ∧ id.toNat = n := by
  have read : readObjectId text = .ok id ↔ readUnsigned text = .ok id.toNat := by
    have below : ∀ n, readUnsigned text = .ok n → n < UInt64.size := fun n read => (readUnsigned_eq_ok.mp read).2
    simp only [readObjectId]
    cases known : readUnsigned text with
    | error error => simp
    | ok n => simp [← UInt64.toNat_inj, UInt64.toNat_ofNat_of_lt' (below n known)]
  rw [read, readUnsigned_eq_ok]
  constructor
  · intro ⟨made, within⟩
    exact ⟨_, made, within, rfl⟩
  · intro ⟨n, made, within, same⟩
    rw [same]
    exact ⟨made, within⟩

/-- A text stands for one number at most, whatever zeros lead its digits. It is accepted for a kind or an identifier
exactly if this number is in the range, and then it is taken as this number. -/
theorem accepts_numbers_in_range (text : String) :
    (∀ n m, Unsigned text n → Unsigned text m → n = m) ∧ (∀ i j, Signed text i → Signed text j → i = j) ∧
    (∀ n, readUnsigned text = .ok n ↔ Unsigned text n ∧ n < 2 ^ 64) ∧
    (∀ s : Scalar, s.isFloat = false → s.isSigned = false → ∀ a,
      ArgumentKind.read (.scalar s) text = .ok a ↔ ∃ n, Unsigned text n ∧ n < 2 ^ (8 * s.width) ∧ a.toNat = n) ∧
    (∀ id, readCallId text = .ok id ↔ ∃ n, Unsigned text n ∧ n < 2 ^ 16 ∧ id.toNat = n) ∧
    (∀ id, readMethodId text = .ok id ↔ ∃ n, Unsigned text n ∧ n < 2 ^ 32 ∧ id.toNat = n) ∧
    (∀ id, readObjectId text = .ok id ↔ ∃ n, Unsigned text n ∧ n < 2 ^ 64 ∧ id.toNat = n) ∧
    ∀ s : Scalar, s.isFloat = false → s.isSigned = true → ∀ a,
      ArgumentKind.read (.scalar s) text = .ok a ↔
        ∃ i, Signed text i ∧ -2 ^ (8 * s.width - 1) ≤ i ∧ i < 2 ^ (8 * s.width - 1) ∧ a.toInt = i := by
  refine ⟨fun n m => Unsigned.unique, fun i j => Signed.unique, fun n => readUnsigned_eq_ok, ?_, ?_, ?_, ?_, ?_⟩
  · intro s whole unsigned a
    exact Scalar.read_unsigned_eq_ok whole unsigned
  · exact fun id => readCallId_eq_ok
  · exact fun id => readMethodId_eq_ok
  · exact fun id => readObjectId_eq_ok
  · intro s whole signed a
    exact Scalar.read_signed_eq_ok whole signed

end

/-- Both signs, both openings, and zeros in front; the least number of its kind, and one that is too large by one. -/
theorem accepts_numbers_at_bounds :
    Unsigned "0X+00fF" 255 ∧ ArgumentKind.read (.scalar .u8) "0X+00fF" = .ok 255 ∧ readCallId "0X+00fF" = .ok 255 ∧
    ArgumentKind.read (.scalar .i8) "-0128" = .ok (-128) ∧ Unsigned "+256" 256 ∧ readCallId "+256" = .ok 256 ∧
    ∀ a, ArgumentKind.read (.scalar .u8) "+256" ≠ .ok a := by
  have largest : Unsigned "0X+00fF" 255 := by
    refine .inr ⟨['0', 'X'], by simp [hexOpenings], "+00fF".toList, rfl, .inr ⟨"00fF".toList, rfl, by simp, ?_⟩⟩
    refine ⟨[0, 0, 15, 15], ?_, rfl⟩
    simp [BaseDigit, HexDigit]
  have least : Signed "-0128" (-128) := by
    refine .inr ⟨128, rfl, "0128".toList, rfl, by simp, [0, 1, 2, 8], ?_, rfl⟩
    simp [BaseDigit, HexDigit]
  have beyond : Unsigned "+256" 256 := by
    refine .inl (.inr ⟨"256".toList, rfl, by simp, [2, 5, 6], ?_, rfl⟩)
    simp [BaseDigit, HexDigit]
  obtain ⟨-, -, -, unsigned, call, -⟩ := accepts_numbers_in_range "0X+00fF"
  obtain ⟨-, -, -, -, -, -, -, signed⟩ := accepts_numbers_in_range "-0128"
  obtain ⟨one, -, -, unsigned', call', -⟩ := accepts_numbers_in_range "+256"
  refine ⟨largest, ?_, ?_, ?_, beyond, ?_, ?_⟩
  · exact (unsigned .u8 rfl rfl 255).mpr ⟨255, largest, by decide, rfl⟩
  · exact (call 255).mpr ⟨255, largest, by decide, rfl⟩
  · exact (signed .i8 rfl rfl (-128)).mpr ⟨-128, least, by decide, by decide, rfl⟩
  · exact (call' 256).mpr ⟨256, beyond, by decide, rfl⟩
  · intro a read
    obtain ⟨n, made, small, -⟩ := (unsigned' .u8 rfl rfl a).mp read
    cases one n 256 made beyond
    exact absurd small (by decide)

end CallWire
