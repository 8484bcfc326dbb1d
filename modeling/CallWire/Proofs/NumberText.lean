import CallWire.Decimal.Integer
import Mathlib.Data.List.Forall2

/-! Numbers read from their digits. Up to the limit a text is read as the number it stands for, whatever zeros lead it;
beyond the limit no further digit brings it back, so nothing wraps around. What is written in decimal is one such text. -/

namespace CallWire.Integer

/-- The values of digits, one by one. -/
def Digits (base : Nat) (chars : List Char) (values : List Nat) : Prop :=
  List.Forall₂ (fun c v => digitValue? base c = some v) chars values

/-- The number that digits of these values make behind a number. -/
def number (base sofar : Nat) (values : List Nat) : Nat := values.foldl (fun n v => base * n + v) sofar

section
variable {base limit sofar n width : Nat} {beyond : IntegerError}

theorem le_number (positive : 0 < base) (values : List Nat) : sofar ≤ number base sofar values := by
  induction values generalizing sofar with
  | nil => exact Nat.le_refl _
  | cons v rest ih =>
    have first : sofar ≤ base * sofar := Nat.le_mul_of_pos_left _ positive
    have others : base * sofar + v ≤ number base (base * sofar + v) rest := ih
    show sofar ≤ number base (base * sofar + v) rest
    omega

theorem readDigits_eq_ok (positive : 0 < base) (within : sofar ≤ limit) {chars : List Char} :
    readDigits base limit beyond sofar chars = .ok n ↔
      ∃ values, Digits base chars values ∧ number base sofar values = n ∧ n ≤ limit := by
  induction chars generalizing sofar with
  | nil =>
    constructor
    · intro read
      cases read
      exact ⟨[], .nil, rfl, within⟩
    · rintro ⟨values, digits, rfl, _⟩
      cases digits
      rfl
  | cons c rest ih =>
    rw [readDigits]
    cases known : digitValue? base c with
    | none =>
      constructor
      · intro failed
        cases failed
      · rintro ⟨values, digits, _⟩
        cases digits with
        | cons first _ => cases known.symm.trans first
    | some v =>
      have shifted : (∃ values, Digits base (c :: rest) values ∧ number base sofar values = n ∧ n ≤ limit) ↔
          ∃ values, Digits base rest values ∧ number base (base * sofar + v) values = n ∧ n ≤ limit := by
        constructor
        · rintro ⟨values, digits, made⟩
          cases digits with
          | cons first others =>
            cases known.symm.trans first
            exact ⟨_, others, made⟩
        · rintro ⟨values, digits, made⟩
          exact ⟨v :: values, .cons known digits, made⟩
      rw [shifted]
      by_cases beyond : limit < base * sofar + v
      · simp only [if_pos beyond]
        constructor
        · intro failed
          cases failed
        -- Digits never make a number smaller.
        · rintro ⟨values, _, rfl, small⟩
          have least : base * sofar + v ≤ number base (base * sofar + v) values := le_number positive values
          omega
      · simp only [if_neg beyond]
        exact ih (Nat.le_of_not_lt beyond)

/-- One digit or more, and the number that they make. -/
def Makes (base : Nat) (chars : List Char) (n : Nat) : Prop :=
  chars ≠ [] ∧ ∃ values, Digits base chars values ∧ number base 0 values = n

theorem readMagnitude_eq_ok (positive : 0 < base) {chars : List Char} :
    readMagnitude base limit beyond chars = .ok n ↔ Makes base chars n ∧ n ≤ limit := by
  cases chars with
  | nil => exact ⟨fun failed => (nomatch failed), fun failed => absurd rfl failed.1.1⟩
  | cons c rest =>
    rw [readMagnitude, readDigits_eq_ok positive (Nat.zero_le _)]
    · constructor
      · rintro ⟨values, digits, made, small⟩
        exact ⟨⟨nofun, values, digits, made⟩, small⟩
      · rintro ⟨⟨_, values, digits, made⟩, small⟩
        exact ⟨values, digits, made, small⟩
    · nofun

theorem not_makes_cons {c : Char} {rest : List Char} (none : digitValue? base c = none) : ¬ Makes base (c :: rest) n := by
  rintro ⟨_, values, digits, _⟩
  cases digits with
  | cons first _ => cases none.symm.trans first

/-- The digits may stand behind a plus sign. -/
def MakesPositive (base : Nat) (chars : List Char) (n : Nat) : Prop :=
  Makes base chars n ∨ ∃ digits, chars = '+' :: digits ∧ Makes base digits n

theorem makesPositive_plus {digits : List Char} : MakesPositive base ('+' :: digits) n ↔ Makes base digits n := by
  constructor
  · rintro (made | ⟨_, same, made⟩)
    · exact absurd made (not_makes_cons (by simp [digitValue?]))
    · cases same
      exact made
  · exact fun made => .inr ⟨digits, rfl, made⟩

theorem makesPositive_plain {chars : List Char} (plain : ∀ digits, chars ≠ '+' :: digits) :
    MakesPositive base chars n ↔ Makes base chars n := by
  constructor
  · rintro (made | ⟨digits, same, _⟩)
    · exact made
    · exact absurd same (plain digits)
  · exact .inl

theorem readUnsigned_eq_ok (positive : 0 < base) {text : String} :
    readUnsigned base width text = .ok n ↔ MakesPositive base text.toList n ∧ n < Nat.pow 2 width := by
  have range : n ≤ Nat.pow 2 width - 1 ↔ n < Nat.pow 2 width := Nat.le_sub_one_iff_lt (Nat.two_pow_pos width)
  rw [readUnsigned]
  split
  · rename_i empty
    have plain : ∀ digits, ([] : List Char) ≠ '+' :: digits := nofun
    rw [empty, makesPositive_plain plain]
    exact ⟨fun failed => (nomatch failed), fun failed => absurd rfl failed.1.1⟩
  · rename_i digits signed
    rw [signed, makesPositive_plus, readMagnitude_eq_ok positive, range]
  · rename_i unsigned
    rw [makesPositive_plain unsigned, readMagnitude_eq_ok positive, range]

theorem map_eq_ok {read : Except IntegerError Nat} {f : Nat → Int} {i : Int} :
    read.map f = .ok i ↔ ∃ n, i = f n ∧ read = .ok n := by
  cases read with
  | error error => exact ⟨fun failed => (nomatch failed), fun ⟨_, _, failed⟩ => (nomatch failed)⟩
  | ok n =>
    constructor
    · intro same
      cases same
      exact ⟨n, rfl, rfl⟩
    · rintro ⟨_, rfl, same⟩
      cases same
      rfl

theorem readSigned_eq_ok {text : String} {i : Int} :
    readSigned width text = .ok i ↔
      (∃ n : Nat, i = n ∧ MakesPositive 10 text.toList n ∧ n < Nat.pow 2 (width - 1)) ∨
        ∃ n : Nat, i = -n ∧ (∃ digits, text.toList = '-' :: digits ∧ Makes 10 digits n) ∧ n ≤ Nat.pow 2 (width - 1) := by
  have range (n : Nat) : n ≤ Nat.pow 2 (width - 1) - 1 ↔ n < Nat.pow 2 (width - 1) :=
    Nat.le_sub_one_iff_lt (Nat.two_pow_pos _)
  have minus (rest : List Char) (n : Nat) : ¬ Makes 10 ('-' :: rest) n := not_makes_cons rfl
  rw [readSigned]
  split
  · rename_i empty
    have plain : ∀ digits, ([] : List Char) ≠ '+' :: digits := nofun
    simp [empty, makesPositive_plain plain, Makes]
  · rename_i digits signed
    simp only [signed, makesPositive_plus, map_eq_ok, readMagnitude_eq_ok (Nat.succ_pos 9), range]
    simp
  · rename_i digits signed
    have plain : ∀ other, '-' :: digits ≠ '+' :: other := nofun
    simp only [signed, makesPositive_plain plain, map_eq_ok, readMagnitude_eq_ok (Nat.succ_pos 9), minus]
    simp
  · rename_i empty unsigned unlike
    have nonnegative : ∀ digits, ¬ text.toList = '-' :: digits := unlike
    simp only [makesPositive_plain unsigned, map_eq_ok, readMagnitude_eq_ok (Nat.succ_pos 9), range, nonnegative]
    simp

/-! ### Written numbers -/

theorem digitValue?_of_isDigit {c : Char} (digit : c.isDigit) : digitValue? 10 c = some (c.toNat - '0'.toNat) := by
  have bounds : '0' ≤ c ∧ c ≤ '9' := by
    simp only [Char.isDigit, Bool.and_eq_true, decide_eq_true_eq] at digit
    exact digit
  have small : c.toNat ≤ 57 := bounds.2
  have fits : c.toNat - 48 < 10 := by omega
  simp only [digitValue?, if_pos bounds, if_pos fits]
  rfl

theorem makes_toDigits (n : Nat) : Makes 10 (Nat.toDigits 10 n) n := by
  refine ⟨Nat.toDigits_ne_nil, (Nat.toDigits 10 n).map fun c => c.toNat - '0'.toNat, ?_, ?_⟩
  · apply List.forall₂_map_right_iff.mpr
    apply List.forall₂_same.mpr
    intro c member
    exact digitValue?_of_isDigit (Nat.isDigit_of_mem_toDigits (by decide) (by decide) member)
  · rw [number, List.foldl_map]
    exact Nat.ofDigitChars_ten_toDigits

end

end CallWire.Integer
