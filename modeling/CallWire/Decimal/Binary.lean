/-!
Binary floating-point formats over their bit patterns. A pattern is a sign and a code; the codes of
finite magnitudes ascend with the magnitude, so rounding to the nearest magnitude is rounding to
the nearest code, and the code after the last finite one is infinity.
-/

namespace CallWire

/-- A format with a sign bit, an exponent and a fraction of these widths. -/
structure FloatFormat where
  fractionWidth : Nat
  exponentWidth : Nat
  deriving DecidableEq, Repr

/-- What a code stands for; a finite magnitude is `mantissa * 2 ^ exponent`. -/
inductive FloatMagnitude
  | finite (mantissa : Nat) (exponent : Int)
  | infinite
  | nan
  deriving DecidableEq, Repr

namespace FloatFormat

def binary32 : FloatFormat := ⟨23, 8⟩

def binary64 : FloatFormat := ⟨52, 11⟩

def minExponent (format : FloatFormat) : Int :=
  2 - Nat.pow 2 (format.exponentWidth - 1) - format.fractionWidth

def infinityCode (format : FloatFormat) : Nat :=
  (Nat.pow 2 format.exponentWidth - 1) * Nat.pow 2 format.fractionWidth

/-- The code of the number that is none, as it is made from text. -/
def nanCode (format : FloatFormat) : Nat :=
  format.infinityCode + Nat.pow 2 (format.fractionWidth - 1)

def signWeight (format : FloatFormat) : Nat :=
  Nat.pow 2 (format.exponentWidth + format.fractionWidth)

def isNegative (format : FloatFormat) (bits : Nat) : Bool :=
  format.signWeight ≤ bits

def pattern (format : FloatFormat) (negative : Bool) (code : Nat) : Nat :=
  if negative then format.signWeight + code else code

/-- A biased exponent of zero means the exponent of one, without the leading bit. -/
def magnitude (format : FloatFormat) (bits : Nat) : FloatMagnitude :=
  let code := bits % format.signWeight
  let fraction := code % Nat.pow 2 format.fractionWidth
  let biased := code / Nat.pow 2 format.fractionWidth
  if biased = Nat.pow 2 format.exponentWidth - 1 then
    if fraction = 0 then .infinite else .nan
  else if biased = 0 then
    .finite fraction format.minExponent
  else
    .finite (Nat.pow 2 format.fractionWidth + fraction) (format.minExponent + biased - 1)

end FloatFormat

/-- The natural number nearest to a quotient, of two such the even one. -/
def roundedQuotient (numerator denominator : Nat) : Nat :=
  let quotient := numerator / denominator
  let excess := 2 * (numerator % denominator)
  if denominator < excess ∨ (excess = denominator ∧ quotient % 2 = 1) then quotient + 1
  else quotient

namespace FloatFormat

/-- The code of the magnitude nearest to a quotient of positive numbers, of two such the one with
the even mantissa. The exponent is the one that gives the mantissa its full width, but not below
the smallest; a mantissa rounded up beyond its width carries into the exponent. -/
def nearestCode (format : FloatFormat) (numerator denominator : Nat) : Nat :=
  let scaled (exponent : Int) : Nat × Nat :=
    (numerator * Nat.pow 2 (-exponent).toNat, denominator * Nat.pow 2 exponent.toNat)
  let guess : Int := numerator.log2 - denominator.log2 - 1 - format.fractionWidth
  let full := if Nat.pow 2 (format.fractionWidth + 1) ≤ (scaled guess).1 / (scaled guess).2
    then guess + 1 else guess
  let exponent := max full format.minExponent
  let (dividend, divisor) := scaled exponent
  let base := (exponent - format.minExponent).toNat * Nat.pow 2 format.fractionWidth
  min format.infinityCode (base + roundedQuotient dividend divisor)

def codeOfBinary (format : FloatFormat) (mantissa : Nat) (exponent : Int) : Nat :=
  if mantissa = 0 then 0
  else format.nearestCode (mantissa * Nat.pow 2 exponent.toNat) (Nat.pow 2 (-exponent).toNat)

/-- The same number in another format, rounded to nearest. -/
def convert (source target : FloatFormat) (bits : Nat) : Nat :=
  let code :=
    match source.magnitude bits with
    | .finite mantissa exponent => target.codeOfBinary mantissa exponent
    | .infinite => target.infinityCode
    | .nan => target.nanCode
  target.pattern (source.isNegative bits) code

end FloatFormat
end CallWire
