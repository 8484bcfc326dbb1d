import CallWire.Cli.Inspect
import CallWire.Proofs.ValueOrder
import Mathlib.Data.List.DropRight
import Mathlib.Data.List.Forall2

/-! Which texts stand for bytes in hex, told without reading them: digits of either case with separators anywhere, an
opening before them, and blanks around. Reading accepts exactly these, and what is written in hex is one of them. -/

namespace CallWire

/-- The character is a digit of this value, in either case. -/
def HexDigit (c : Char) (v : Nat) : Prop :=
  "0123456789abcdef".toList[v]? = some c ∨ "0123456789ABCDEF".toList[v]? = some c

instance (c : Char) (v : Nat) : Decidable (HexDigit c v) := inferInstanceAs (Decidable (_ ∨ _))

theorem HexDigit.lt {c : Char} {v : Nat} (digit : HexDigit c v) : v < 16 := by
  rcases digit with known | known
  · exact (List.getElem?_eq_some_iff.mp known).1
  · exact (List.getElem?_eq_some_iff.mp known).1

theorem HexDigit.value {c : Char} {v : Nat} (digit : HexDigit c v) : digitValue? 16 c = some v := by
  have lower : ∀ v < 16, ("0123456789abcdef".toList[v]?).bind (digitValue? 16) = some v := by decide
  have upper : ∀ v < 16, ("0123456789ABCDEF".toList[v]?).bind (digitValue? 16) = some v := by decide
  rcases digit with known | known
  · have own := lower v (List.getElem?_eq_some_iff.mp known).1
    rwa [known] at own
  · have own := upper v (List.getElem?_eq_some_iff.mp known).1
    rwa [known] at own

theorem toNat_lt_of_digitValue? {c : Char} {v : Nat} (known : digitValue? 16 c = some v) : c.toNat < 103 := by
  have nine : '9'.val.toNat = 57 := rfl
  have lower : 'f'.val.toNat = 102 := rfl
  have upper : 'F'.val.toNat = 70 := rfl
  simp only [digitValue?, Char.le_def, UInt32.le_iff_toNat_le] at known
  show c.val.toNat < 103
  grind

theorem hexDigit_of_digitValue? {c : Char} {v : Nat} (known : digitValue? 16 c = some v) : HexDigit c v := by
  have each : ∀ n < 103, ∀ v ∈ digitValue? 16 (Char.ofNat n), HexDigit (Char.ofNat n) v := by decide
  have own := each c.toNat (toNat_lt_of_digitValue? known) v
  rw [Char.ofNat_toNat] at own
  exact own known

theorem HexDigit.toNat_lt {c : Char} {v : Nat} (digit : HexDigit c v) : c.toNat < 103 :=
  toNat_lt_of_digitValue? digit.value

/-! ### Digits as bytes -/

/-- The byte is the one of a digit. -/
def DigitByte (b : UInt8) (v : Nat) : Prop := HexDigit (Char.ofNat b.toNat) v

theorem HexDigit.byte {c : Char} {v : Nat} (digit : HexDigit c v) : DigitByte (UInt8.ofNat c.toNat) v := by
  have small := digit.toNat_lt
  rw [DigitByte, UInt8.toNat_ofNat', Nat.mod_eq_of_lt (by omega), Char.ofNat_toNat]
  exact digit

theorem ascii_of_digits {chars : List Char} {values : List Nat} (digits : List.Forall₂ HexDigit chars values) :
    ∀ c ∈ chars, c.toNat < 128 := by
  induction digits with
  | nil => exact nofun
  | cons digit _ ih =>
    have small := digit.toNat_lt
    exact List.forall_mem_cons.mpr ⟨by omega, ih⟩

namespace Bytes

theorem ofText_ofList {chars : List Char} (ascii : ∀ c ∈ chars, c.toNat < 128) :
    ofText (String.ofList chars) = chars.map fun c => UInt8.ofNat c.toNat := by
  have encoded : ofText (String.ofList chars) = chars.flatMap String.utf8EncodeChar := by
    simp [ofText, List.utf8Encode]
  rw [encoded, List.map_eq_flatMap]
  apply List.flatMap_congr
  intro c member
  rw [String.utf8EncodeChar.eq_1]
  exact if_pos (Nat.le_of_lt_succ (ascii c member))

theorem ofNat_toNat_ofNat (b : UInt8) : UInt8.ofNat (Char.ofNat b.toNat).toNat = b := by
  have small := b.toNat_lt
  have valid : b.toNat.isValidChar := .inl (by omega)
  rw [Char.ofNat, dif_pos valid]
  exact UInt8.ofNat_toNat

end Bytes

namespace Hex

/-- The values of the two digits of each byte. -/
def halves (bytes : Bytes) : List Nat := bytes.flatMap fun b => [b.toNat / 16, b.toNat % 16]

theorem length_halves (bytes : Bytes) : (halves bytes).length = 2 * bytes.length := by
  rw [halves, List.length_flatMap]
  simp [Nat.mul_comm]

theorem halves_cons {h l : Nat} (high : h < 16) (low : l < 16) (bytes : Bytes) :
    halves (UInt8.ofNat (16 * h + l) :: bytes) = h :: l :: halves bytes := by
  have value : (UInt8.ofNat (16 * h + l)).toNat = 16 * h + l := by
    rw [UInt8.toNat_ofNat']
    omega
  have first : (16 * h + l) / 16 = h := by omega
  have second : (16 * h + l) % 16 = l := by omega
  rw [halves, List.flatMap_cons, value, first, second]
  rfl

theorem ofNat_halves (b : UInt8) : UInt8.ofNat (16 * (b.toNat / 16) + b.toNat % 16) = b := by
  rw [Nat.div_add_mod, UInt8.ofNat_toNat]

theorem lt_of_mem_halves {bytes : Bytes} {v : Nat} (member : v ∈ halves bytes) : v < 16 := by
  obtain ⟨b, -, own⟩ := List.mem_flatMap.mp member
  have small := b.toNat_lt
  simp only [List.mem_cons, List.not_mem_nil, or_false] at own
  omega

theorem halves_of_decodePairs {position : Nat} {input bytes : Bytes} (even : input.length % 2 = 0)
    (decoded : decodePairs position input = .ok bytes) : List.Forall₂ DigitByte input (halves bytes) := by
  fun_induction decodePairs position input generalizing bytes with
  | case1 | case2 => cases decoded
  | case3 position high low rest h l second first ih =>
    have even' : rest.length % 2 = 0 := by
      simp only [List.length_cons] at even
      omega
    cases others : decodePairs (position + 2) rest with
    | error error =>
      rw [others] at decoded
      cases decoded
    | ok content =>
      rw [others] at decoded
      cases decoded
      have digit := hexDigit_of_digitValue? first
      have digit' := hexDigit_of_digitValue? second
      have own := halves_cons digit.lt digit'.lt content
      exact own ▸ .cons digit (.cons digit' (ih even' others))
  | case4 input position short =>
    cases decoded
    match input, short with
    | [], _ => exact .nil
    | [_], _ => cases even
    | high :: low :: rest, short => exact absurd rfl (short high low rest)

theorem decodePairs_of_halves {input bytes : Bytes} (spelled : List.Forall₂ DigitByte input (halves bytes))
    (position : Nat) : decodePairs position input = .ok bytes := by
  induction bytes generalizing input position with
  | nil =>
    cases spelled
    rfl
  | cons b rest ih =>
    obtain ⟨high, after, digit, others, rfl⟩ := List.forall₂_cons_right_iff.mp spelled
    obtain ⟨low, later, digit', others', rfl⟩ := List.forall₂_cons_right_iff.mp others
    rw [decodePairs, digit.value, digit'.value]
    simp only [ih others', ofNat_halves]
    rfl

theorem decode_eq_ok {text : String} {bytes : Bytes} :
    decode text = .ok bytes ↔ List.Forall₂ HexDigit text.toList (halves bytes) := by
  constructor
  · intro decoded
    simp only [decode] at decoded
    split at decoded
    · cases decoded
    · rename_i odd
      have spelled : List.Forall₂ HexDigit ((Bytes.ofText text).map fun b => Char.ofNat b.toNat) (halves bytes) :=
        List.forall₂_map_left_iff.mpr (halves_of_decodePairs (by omega) decoded)
      -- Every byte is that of a digit, so there is no character of more than one byte.
      have same : String.ofList ((Bytes.ofText text).map fun b => Char.ofNat b.toNat) = text := by
        apply Bytes.ofText_injective
        rw [Bytes.ofText_ofList (ascii_of_digits spelled), List.map_map]
        exact List.map_id'' Bytes.ofNat_toNat_ofNat _
      rwa [← same, String.toList_ofList]
  · intro spelled
    have encoded := Bytes.ofText_ofList (ascii_of_digits spelled)
    rw [String.ofList_toList] at encoded
    have spelled' : List.Forall₂ DigitByte (Bytes.ofText text) (halves bytes) := by
      rw [encoded]
      exact List.forall₂_map_left_iff.mpr (spelled.imp fun c v digit => digit.byte)
    have even : (Bytes.ofText text).length % 2 ≠ 1 := by
      rw [spelled'.length_eq, length_halves]
      omega
    simp only [decode, if_neg even]
    exact decodePairs_of_halves spelled' 0

theorem decode_encode (bytes : Bytes) : decode (encode bytes) = .ok bytes := by
  have written : (encode bytes).toList = (halves bytes).map digitChar := by
    rw [encode, String.toList_ofList, halves, List.map_flatMap]
    rfl
  have digits : ∀ v < 16, HexDigit (digitChar v) v := by decide
  apply decode_eq_ok.mpr
  rw [written]
  apply List.forall₂_map_left_iff.mpr
  apply List.forall₂_same.mpr
  intro v member
  exact digits v (lt_of_mem_halves member)

end Hex

/-! ### Openings, separators and blanks -/

def hexOpenings : List (List Char) := [['0', 'x'], ['0', 'X']]

def hexSeparators : List Char := [' ', '\t', '\n', '\x0c', '\r', ':', '_']

/-- Digits of these values, with separators anywhere. -/
inductive HexBody : List Char → List Nat → Prop
  | nil : HexBody [] []
  | separator {c rest values} (one : c ∈ hexSeparators) (others : HexBody rest values) : HexBody (c :: rest) values
  | digit {c v rest values} (one : HexDigit c v) (others : HexBody rest values) : HexBody (c :: rest) (v :: values)

/-- The text is these bytes in hex; without an opening, separators can stand in front as well. -/
def HexText (text : List Char) (bytes : Bytes) : Prop :=
  ∃ before opening body after, text = before ++ opening ++ body ++ after ∧ (∀ c ∈ before ++ after, isBlank c) ∧
    opening ∈ [] :: hexOpenings ∧ HexBody body (Hex.halves bytes)

theorem isHexSeparator_iff {c : Char} : isHexSeparator c ↔ c ∈ hexSeparators := by
  simp [isHexSeparator, hexSeparators, or_assoc]

theorem HexDigit.plain {c : Char} {v : Nat} (digit : HexDigit c v) :
    isHexSeparator c = false ∧ isBlank c = false ∧ c ≠ 'x' ∧ c ≠ 'X' := by
  have each : ∀ n < 103, (digitValue? 16 (Char.ofNat n)).isSome →
      isHexSeparator (Char.ofNat n) = false ∧ isBlank (Char.ofNat n) = false ∧ Char.ofNat n ≠ 'x' ∧
        Char.ofNat n ≠ 'X' := by decide
  have own := each c.toNat digit.toNat_lt
  rw [Char.ofNat_toNat, digit.value] at own
  exact own rfl

theorem hexBody_iff {body : List Char} {values : List Nat} :
    HexBody body values ↔ List.Forall₂ HexDigit (body.filter fun c => !isHexSeparator c) values := by
  constructor
  · intro spelled
    induction spelled with
    | nil => exact .nil
    | separator one _ ih => simpa [isHexSeparator_iff.mpr one] using ih
    | digit one _ ih => simpa [one.plain.1] using ⟨one, ih⟩
  · intro digits
    induction body generalizing values with
    | nil =>
      cases digits
      exact .nil
    | cons c rest ih =>
      by_cases separates : isHexSeparator c = true
      · rw [List.filter_cons_of_neg (by simp [separates])] at digits
        exact .separator (isHexSeparator_iff.mp separates) (ih digits)
      · rw [List.filter_cons_of_pos (by simp [separates])] at digits
        cases digits with
        | cons one others => exact .digit one (ih others)

theorem HexBody.plain {body : List Char} {values : List Nat} (spelled : HexBody body values) :
    ∀ c ∈ body, (isBlank c → isHexSeparator c) ∧ c ≠ 'x' ∧ c ≠ 'X' := by
  have separators : ∀ c ∈ hexSeparators, c ≠ 'x' ∧ c ≠ 'X' := by simp [hexSeparators]
  induction spelled with
  | nil => exact nofun
  | separator one _ ih =>
    exact List.forall_mem_cons.mpr ⟨⟨fun _ => isHexSeparator_iff.mpr one, separators _ one⟩, ih⟩
  | digit one _ ih =>
    obtain ⟨-, visible, unlike⟩ := one.plain
    refine List.forall_mem_cons.mpr ⟨⟨?_, unlike⟩, ih⟩
    intro blank
    cases visible.symm.trans blank

/-- The blanks of a body are separators, so it is none the less one without those around it. -/
theorem HexBody.middle {before body after : List Char} {values : List Nat}
    (spelled : HexBody (before ++ body ++ after) values) (blank : ∀ c ∈ before ++ after, isBlank c) :
    HexBody body values := by
  have separators : ∀ c ∈ before ++ after, isHexSeparator c := by
    intro c member
    apply (spelled.plain c _).1 (blank c member)
    grind
  have none : ∀ {part : List Char}, (∀ c ∈ part, isHexSeparator c) → part.filter (fun c => !isHexSeparator c) = [] := by
    intro part all
    apply List.filter_eq_nil_iff.mpr
    intro c member
    simp [all c member]
  obtain ⟨leading, trailing⟩ := List.forall_mem_append.mp separators
  have digits := hexBody_iff.mp spelled
  rw [List.filter_append, List.filter_append, none leading, none trailing, List.nil_append, List.append_nil] at digits
  exact hexBody_iff.mpr digits

theorem trimBlanks_eq (text : List Char) : trimBlanks text = (text.dropWhile isBlank).rdropWhile isBlank := rfl

theorem trimBlanks_split (text : List Char) :
    ∃ before after, text = before ++ trimBlanks text ++ after ∧ ∀ c ∈ before ++ after, isBlank c := by
  refine ⟨text.takeWhile isBlank, (text.dropWhile isBlank).rtakeWhile isBlank, ?_, ?_⟩
  · rw [trimBlanks_eq, List.append_assoc, List.rdropWhile_append_rtakeWhile, List.takeWhile_append_dropWhile]
  · intro c member
    rcases List.mem_append.mp member with leading | trailing
    · exact List.mem_takeWhile_imp leading
    · exact List.mem_rtakeWhile_imp trailing

theorem rdropWhile_append_of_pos {p : Char → Bool} {front back : List Char} (all : ∀ c ∈ back, p c) :
    (front ++ back).rdropWhile p = front.rdropWhile p := by
  rw [List.rdropWhile, List.reverse_append, List.dropWhile_append_of_pos (by simpa using all), List.rdropWhile]

/-- Blanks around a text make no difference. -/
theorem trimBlanks_surrounded {before after : List Char} (blank : ∀ c ∈ before ++ after, isBlank c)
    (text : List Char) : trimBlanks (before ++ text ++ after) = trimBlanks text := by
  obtain ⟨leading, trailing⟩ := List.forall_mem_append.mp blank
  rw [trimBlanks_eq, trimBlanks_eq, List.append_assoc, List.dropWhile_append_of_pos leading, List.dropWhile_append]
  split
  -- A text of nothing but blanks goes together with those behind it.
  · rename_i none
    rw [List.isEmpty_iff.mp none, List.dropWhile_eq_nil_iff.mpr trailing]
  · exact rdropWhile_append_of_pos trailing

theorem trimBlanks_opened {opening : List Char} (one : opening ∈ hexOpenings) (body : List Char) :
    trimBlanks (opening ++ body) = opening ++ body.rdropWhile isBlank := by
  have visible : (opening ++ body).dropWhile isBlank = opening ++ body ∧
      opening.reverse.dropWhile isBlank = opening.reverse := by
    simp only [hexOpenings, List.mem_cons, List.not_mem_nil, or_false] at one
    rcases one with rfl | rfl
    · exact ⟨rfl, rfl⟩
    · exact ⟨rfl, rfl⟩
  rw [trimBlanks_eq, visible.1, List.rdropWhile, List.reverse_append, List.dropWhile_append]
  split
  · rename_i none
    rw [visible.2, List.reverse_reverse, List.rdropWhile, List.isEmpty_iff.mp none, List.reverse_nil, List.append_nil]
  · rw [List.reverse_append, List.reverse_reverse, List.rdropWhile]

theorem afterAny?_eq_some {text rest : List Char} :
    afterAny? ["0x", "0X"] text = some rest ↔ ∃ opening ∈ hexOpenings, text = opening ++ rest := by
  constructor
  · intro opened
    obtain ⟨opening, one, stripped⟩ := List.exists_of_findSome?_eq_some opened
    exact ⟨opening.toList, List.mem_map_of_mem one, (List.isPrefixOf?_eq_some_iff_append_eq.mp stripped).symm⟩
  · rintro ⟨opening, one, rfl⟩
    simp only [hexOpenings, List.mem_cons, List.not_mem_nil, or_false] at one
    rcases one with rfl | rfl
    · rfl
    · rfl

theorem afterAny?_plain {text : List Char} (plain : ∀ c ∈ text, c ≠ 'x' ∧ c ≠ 'X') :
    afterAny? ["0x", "0X"] text = none := by
  apply Option.eq_none_iff_forall_ne_some.mpr
  intro rest opened
  obtain ⟨opening, one, rfl⟩ := afterAny?_eq_some.mp opened
  simp only [hexOpenings, List.mem_cons, List.not_mem_nil, or_false] at one
  rcases one with rfl | rfl
  · exact (plain 'x' (by simp)).1 rfl
  · exact (plain 'X' (by simp)).2 rfl

/-- What follows the opening, if there is one. -/
def afterOpening (text : List Char) : List Char := (afterAny? ["0x", "0X"] text).getD text

theorem afterOpening_split (text : List Char) : ∃ opening ∈ [] :: hexOpenings, text = opening ++ afterOpening text := by
  unfold afterOpening
  cases opened : afterAny? ["0x", "0X"] text with
  | none => exact ⟨[], List.mem_cons_self, rfl⟩
  | some rest =>
    obtain ⟨opening, one, same⟩ := afterAny?_eq_some.mp opened
    exact ⟨opening, List.mem_cons_of_mem _ one, same⟩

theorem readHex_eq (text : String) : readHex text =
    Hex.decode (String.ofList ((afterOpening (trimBlanks text.toList)).filter fun c => !isHexSeparator c)) := rfl

theorem readHex_eq_ok {text : String} {bytes : Bytes} : readHex text = .ok bytes ↔ HexText text.toList bytes := by
  rw [readHex_eq, Hex.decode_eq_ok, String.toList_ofList, ← hexBody_iff]
  constructor
  · intro spelled
    obtain ⟨before, after, same, blank⟩ := trimBlanks_split text.toList
    obtain ⟨opening, one, same'⟩ := afterOpening_split (trimBlanks text.toList)
    refine ⟨before, opening, afterOpening (trimBlanks text.toList), after, ?_, blank, one, spelled⟩
    rw [List.append_assoc before, ← same', ← same]
  · rintro ⟨before, opening, body, after, same, blank, one, spelled⟩
    rw [same, List.append_assoc before, trimBlanks_surrounded blank]
    rcases List.mem_cons.mp one with rfl | opened
    · obtain ⟨before', after', same', blank'⟩ := trimBlanks_split body
      have middle : HexBody (trimBlanks body) (Hex.halves bytes) := HexBody.middle (same' ▸ spelled) blank'
      rw [List.nil_append, afterOpening, afterAny?_plain fun c member => (middle.plain c member).2]
      exact middle
    · have last : HexBody ([] ++ body.rdropWhile isBlank ++ body.rtakeWhile isBlank) (Hex.halves bytes) := by
        rwa [List.nil_append, List.rdropWhile_append_rtakeWhile]
      rw [trimBlanks_opened opened, afterOpening, afterAny?_eq_some.mpr ⟨opening, opened, rfl⟩]
      exact last.middle fun c member => List.mem_rtakeWhile_imp member

end CallWire
