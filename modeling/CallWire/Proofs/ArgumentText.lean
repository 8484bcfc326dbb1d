import CallWire.Argument.Basic
import CallWire.Proofs.HexText
import CallWire.Proofs.NumberText

/-! Arguments survive their text form. A number written in decimal is read as itself at either end of its range, and has
no opening of hex; the first colon is the one behind the kind, so that a text is taken as it is. -/

namespace CallWire

theorem toList_toString (n : Nat) : (toString n).toList = Nat.toDigits 10 n := by
  rw [Nat.toString_eq_ofList_toDigits, String.toList_ofList]

namespace Integer
variable {width : Nat}

theorem readUnsigned_toString {n : Nat} (small : n < Nat.pow 2 width) : readUnsigned 10 width (toString n) = .ok n := by
  apply (readUnsigned_eq_ok (by decide)).mpr
  rw [toList_toString]
  exact ⟨.inl (makes_toDigits n), small⟩

theorem readSigned_toString {i : Int} (low : -(Nat.pow 2 (width - 1) : Int) ≤ i) (high : i < Nat.pow 2 (width - 1)) :
    readSigned width (toString i) = .ok i := by
  apply readSigned_eq_ok.mpr
  cases i with
  | ofNat n =>
    have written : toString (Int.ofNat n) = toString n := rfl
    refine .inl ⟨n, rfl, .inl ?_, Int.ofNat_lt.mp high⟩
    rw [written, toList_toString]
    exact makes_toDigits n
  | negSucc n =>
    have written : toString (Int.negSucc n) = "-" ++ toString (n + 1) := rfl
    refine .inr ⟨n + 1, rfl, ⟨Nat.toDigits 10 (n + 1), ?_, makes_toDigits _⟩, by omega⟩
    rw [written, String.toList_append, toList_toString]
    rfl

end Integer

theorem readUnsigned_toString {n : Nat} (small : n < Nat.pow 2 64) : readUnsigned (toString n) = .ok n := by
  have plain : afterAny? ["0x", "0X"] (toString n).toList = none := by
    apply afterAny?_plain
    intro c member
    rw [toList_toString] at member
    have digit := Nat.isDigit_of_mem_toDigits (by decide) (by decide) member
    constructor
    · rintro rfl
      cases digit
    · rintro rfl
      cases digit
  simp only [readUnsigned, plain, Integer.readUnsigned_toString small]
  rfl

theorem Scalar.read_write {s : Scalar} (noFloat : s.floatFormat? = none) (a : BitVec (8 * s.width)) :
    s.read (ArgumentKind.write (.scalar s) a) = .ok a := by
  simp only [ArgumentKind.write, read, noFloat]
  cases signed : s.isSigned with
  | true =>
    have limit := Int.natCast_pow 2 (8 * s.width - 1)
    have low := BitVec.le_toInt a
    have high : a.toInt < 2 ^ (8 * s.width - 1) := BitVec.toInt_lt
    have read : Integer.readSigned (8 * s.width) (toString a.toInt) = .ok a.toInt :=
      Integer.readSigned_toString (by rwa [Nat.pow_eq, limit]) (by rwa [Nat.pow_eq, limit])
    simp only [if_true, read, BitVec.ofInt_toInt]
  | false =>
    have within : a.toNat < Nat.pow 2 (8 * s.width) := a.isLt
    have small : a.toNat < Nat.pow 2 64 :=
      Nat.lt_of_lt_of_le within (Nat.pow_le_pow_right (by decide) (Nat.mul_le_mul_left 8 s.width_le))
    simp only [Bool.false_eq_true, if_false, readUnsigned_toString small, if_pos within, BitVec.ofNat_toNat,
      BitVec.setWidth_eq]

def ArgumentKind.IsFloat (k : ArgumentKind) : Prop := k = .scalar .f32 ∨ k = .scalar .f64

theorem ArgumentKind.read_write {k : ArgumentKind} (lossless : ¬ k.IsFloat) (value : k.Value) :
    k.read (k.write value) = .ok value := by
  cases k with
  | scalar s =>
    have noFloat : s.floatFormat? = none := by
      cases s with
      | f32 => exact absurd (.inl rfl) lossless
      | f64 => exact absurd (.inr rfl) lossless
      | _ => rfl
    exact Scalar.read_write noFloat value
  | bool => cases value <;> rfl
  | text => rfl

/-- The text is the other one with some of its letters in upper case. -/
def AlikeInCase (text other : String) : Prop :=
  List.Forall₂ (fun c d => c = d ∨ c = d.toUpper) text.toList other.toList

theorem AlikeInCase.toLower {text other : String} (alike : AlikeInCase text other)
    (lower : ∀ d ∈ other.toList, d.toLower = d ∧ d.toUpper.toLower = d) :
    text.toList.map Char.toLower = other.toList := by
  unfold AlikeInCase at alike
  generalize text.toList = chars, other.toList = name at alike lower
  induction alike with
  | nil => rfl
  | @cons c d chars rest same _ ih =>
    obtain ⟨own, others⟩ := List.forall_mem_cons.mp lower
    rw [List.map_cons, ih others]
    rcases same with rfl | rfl
    · rw [own.1]
    · rw [own.2]

namespace ArgumentKind

theorem lower_name (k : ArgumentKind) :
    ∀ d ∈ k.name.toList, d.toLower = d ∧ d.toUpper.toLower = d ∧ d ≠ ':' := by
  have each : k.name.toList.all fun d => d.toLower = d ∧ d.toUpper.toLower = d ∧ d ≠ ':' := by
    cases k with
    | scalar s => cases s <;> rfl
    | bool => rfl
    | text => rfl
  intro d member
  exact of_decide_eq_true (List.all_eq_true.mp each d member)

theorem ofName?_name (k : ArgumentKind) : ofName? k.name = some k := by
  cases k with
  | scalar s => cases s <;> rfl
  | bool => rfl
  | text => rfl

variable {k : ArgumentKind} {name : String}

theorem ofNameAnyCase?_of_alike (alike : AlikeInCase name k.name) : ofNameAnyCase? name = some k := by
  have lowered := alike.toLower fun d member => ⟨(k.lower_name d member).1, (k.lower_name d member).2.1⟩
  rw [ofNameAnyCase?, lowered, String.ofList_toList]
  exact ofName?_name k

theorem no_colon_of_alike (alike : AlikeInCase name k.name) : ∀ c ∈ name.toList, c ≠ ':' := by
  have lowered := alike.toLower fun d member => ⟨(k.lower_name d member).1, (k.lower_name d member).2.1⟩
  rintro c member rfl
  have present : Char.toLower ':' ∈ k.name.toList := lowered ▸ List.mem_map_of_mem member
  exact (k.lower_name ':' present).2.2 rfl

end ArgumentKind

namespace Argument

theorem toText_eq (a : Argument) : a.toText = a.kind.name ++ ":" ++ a.kind.write a.value := rfl

/-- Colons of the value do not matter, as there is none in the name. -/
theorem ofText_named {name : String} (plain : ∀ c ∈ name.toList, c ≠ ':') {k : ArgumentKind}
    (known : ArgumentKind.ofNameAnyCase? name = some k) (text : String) :
    ofText (name ++ ":" ++ text) = (k.read text).map (⟨k, ·⟩) := by
  have chars : (name ++ ":" ++ text).toList = name.toList ++ ':' :: text.toList := by
    rw [String.toList_append, String.toList_append, List.append_assoc]
    rfl
  have passed : ∀ c ∈ name.toList, decide (c ≠ ':') = true := fun c member => decide_eq_true (plain c member)
  have behind : (name.toList ++ ':' :: text.toList).dropWhile (· ≠ ':') = ':' :: text.toList := by
    rw [List.dropWhile_append_of_pos passed]
    rfl
  have front : (name.toList ++ ':' :: text.toList).takeWhile (· ≠ ':') = name.toList := by
    rw [List.takeWhile_append_of_pos passed]
    exact List.append_nil _
  simp only [ofText, chars, behind, front, String.ofList_toList, known]

/-- Every argument but a float is read back from its text, which may name the kind in letters of either case. -/
theorem reads_back (a : Argument) (lossless : ¬ a.kind.IsFloat) :
    ofText a.toText = .ok a ∧
      ∀ name, AlikeInCase name a.kind.name → ofText (name ++ ":" ++ a.kind.write a.value) = .ok a := by
  have named : ∀ name, AlikeInCase name a.kind.name → ofText (name ++ ":" ++ a.kind.write a.value) = .ok a := by
    intro name alike
    rw [ofText_named (ArgumentKind.no_colon_of_alike alike) (ArgumentKind.ofNameAnyCase?_of_alike alike),
      ArgumentKind.read_write lossless]
    rfl
  refine ⟨?_, named⟩
  rw [toText_eq]
  exact named _ (List.forall₂_same.mpr fun c _ => .inl rfl)

/-- The least number of 64 bits, and a text that looks like another argument. -/
theorem reads_back_at_bounds :
    let least : Argument := ⟨.scalar .i64, BitVec.intMin 64⟩
    let nested : Argument := ⟨.text, "u8:0x1: "⟩
    least.toText = "i64:-9223372036854775808" ∧ ofText least.toText = .ok least ∧
      ofText "I64:-9223372036854775808" = .ok least ∧ ofText nested.toText = .ok nested ∧
      ofText "sTr:u8:0x1: " = .ok nested := by
  intro least nested
  have upper : AlikeInCase "I64" "i64" := .cons (.inr rfl) (.cons (.inl rfl) (.cons (.inl rfl) .nil))
  have mixed : AlikeInCase "sTr" "str" := .cons (.inl rfl) (.cons (.inr rfl) (.cons (.inl rfl) .nil))
  obtain ⟨printed, anyCase⟩ := reads_back least (by simp [least, ArgumentKind.IsFloat])
  obtain ⟨printed', anyCase'⟩ := reads_back nested (by simp [nested, ArgumentKind.IsFloat])
  exact ⟨rfl, printed, anyCase "I64" upper, printed', anyCase' "sTr" mixed⟩

end Argument
end CallWire
