import CallWire.Decimal.Shortest

/-!
Reading floats. A numeral is an optional sign and then a word for infinity, a word for what is no
number, or digits with an optional point and an optional power of ten. It is rounded once, to the
nearest float.
-/

namespace CallWire

inductive FloatError
  | empty
  | invalid
  deriving DecidableEq, Repr

def FloatError.message : FloatError → String
  | empty => "cannot parse float from empty string"
  | invalid => "invalid float literal"

def decimalValue (digits : List Char) : Nat :=
  digits.foldl (fun n c => 10 * n + (c.toNat - 48)) 0

/-- A power of ten after its mark: an optional sign and at least one digit. -/
def exponentOf? (text : List Char) : Option Int :=
  let (negative, digits) :=
    match text with
    | '-' :: rest => (true, rest)
    | '+' :: rest => (false, rest)
    | rest => (false, rest)
  if digits.isEmpty || !digits.all Char.isDigit then none
  else if negative then some (-decimalValue digits) else some (decimalValue digits)

/-- An unsigned decimal: digits with a point among or beside them, at least one digit, and maybe a
power of ten. -/
def Decimal.ofChars? (text : List Char) : Option Decimal :=
  let whole := text.takeWhile Char.isDigit
  let rest := text.dropWhile Char.isDigit
  let (fraction, tail) :=
    match rest with
    | '.' :: rest => (rest.takeWhile Char.isDigit, rest.dropWhile Char.isDigit)
    | rest => ([], rest)
  if whole.isEmpty && fraction.isEmpty then
    none
  else
    let decimal (exponent : Int) : Decimal :=
      ⟨decimalValue (whole ++ fraction), exponent - fraction.length⟩
    match tail with
    | [] => some (decimal 0)
    | 'e' :: power | 'E' :: power => (exponentOf? power).map decimal
    | _ => none

namespace FloatFormat

/-- The code nearest to a decimal. A decimal whose first digit is far above or far below every
float is not worked out. -/
def codeOfDecimal (format : FloatFormat) (decimal : Decimal) : Nat :=
  let position := decimal.exponent + decimalLength decimal.coefficient
  if decimal.coefficient = 0 ∨ position < format.minExponent then
    0
  else if Nat.pow 2 format.exponentWidth < position then
    format.infinityCode
  else
    format.nearestCode (decimal.coefficient * Nat.pow 10 decimal.exponent.toNat)
      (Nat.pow 10 (-decimal.exponent).toNat)

/-- The words are read in any case of their letters. -/
def codeOfChars? (format : FloatFormat) (text : List Char) : Option Nat :=
  let word := String.ofList (text.map Char.toLower)
  if word = "inf" ∨ word = "infinity" then some format.infinityCode
  else if word = "nan" then some format.nanCode
  else (Decimal.ofChars? text).map format.codeOfDecimal

def read (format : FloatFormat) (text : String) : Except FloatError Nat :=
  match text.toList with
  | [] => .error .empty
  | chars =>
    let (negative, rest) :=
      match chars with
      | '-' :: rest => (true, rest)
      | '+' :: rest => (false, rest)
      | rest => (false, rest)
    match format.codeOfChars? rest with
    | some code => .ok (format.pattern negative code)
    | none => .error .invalid

end FloatFormat
end CallWire
