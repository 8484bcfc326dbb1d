import CallWire.Decimal.Shortest

/-!
Writing floats. The digits are the fewest that read back; a style says where they are written
positionally and where with an exponent, and how the numbers that have no digits look.
-/

namespace CallWire

structure FloatStyle where
  tie : TieBreak
  /-- Whether a number whose first digit stands for this power of ten is written positionally. -/
  isPositional : Int → Bool
  /-- A whole number written positionally ends in a zero after the point. -/
  marksWhole : Bool
  infinityText : Bool → String
  nanText : String

namespace FloatStyle

/-- For people: always positional. -/
def plain : FloatStyle where
  tie := .upward
  isPositional _ := true
  marksWhole := false
  infinityText negative := if negative then "-inf" else "inf"
  nanText := "NaN"

/-- For data: positional between 0.00001 and 10 ^ 16, and nothing that is not a number. -/
def json : FloatStyle where
  tie := .toEven
  isPositional exponent := -5 ≤ exponent && exponent ≤ 15
  marksWhole := true
  infinityText _ := "null"
  nanText := "null"

def significantDigits (n : Nat) : List Char :=
  ((digitsOf 10 n.log2.succ n []).reverse.dropWhile (· == '0')).reverse

/-- Digits with the point where the first of them stands for `10 ^ exponent`. -/
def positional (style : FloatStyle) (digits : List Char) (exponent : Int) : String :=
  let wholeWidth := (exponent + 1).toNat
  let leading := List.replicate (-(exponent + 1)).toNat '0'
  let whole := digits.take wholeWidth ++ List.replicate (wholeWidth - digits.length) '0'
  let fraction := leading ++ digits.drop wholeWidth
  String.ofList (if whole.isEmpty then ['0'] else whole) ++
    if fraction.isEmpty then (if style.marksWhole then ".0" else "")
    else "." ++ String.ofList fraction

/-- One digit before the point, and a signed exponent. -/
def scientific (digits : List Char) (exponent : Int) : String :=
  let fraction := digits.drop 1
  String.ofList (digits.take 1) ++
    (if fraction.isEmpty then "" else "." ++ String.ofList fraction) ++
    (if exponent < 0 then s!"e-{exponent.natAbs}" else s!"e+{exponent.natAbs}")

def write (style : FloatStyle) (format : FloatFormat) (bits : Nat) : String :=
  let negative := format.isNegative bits
  let sign := if negative then "-" else ""
  match format.magnitude bits with
  | .nan => style.nanText
  | .infinite => style.infinityText negative
  | .finite 0 _ => sign ++ (if style.marksWhole then "0.0" else "0")
  | .finite mantissa exponent =>
    let decimal := format.shortest style.tie mantissa exponent
    let digits := significantDigits decimal.coefficient
    let first := decimal.exponent + decimalLength decimal.coefficient - 1
    sign ++ if style.isPositional first then style.positional digits first
      else scientific digits first

end FloatStyle
end CallWire
