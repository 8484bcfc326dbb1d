import CallWire.Decimal.Binary
import CallWire.Text.Digits

/-!
The shortest decimal that reads back as a given float. The reals that round to a float form an
interval, with its ends exactly if the mantissa is even. For growing numbers of digits the two
decimals around the value are tried; the first that lie in the interval count, and of two the
nearer.
-/

namespace CallWire

structure Decimal where
  coefficient : Nat
  exponent : Int
  deriving DecidableEq, Repr

/-- Which of two equally near decimals is taken. -/
inductive TieBreak
  | upward
  | toEven
  deriving DecidableEq, Repr

/-- The reals that round to a float: its value and the ends, all in units of `10 ^ exponent`. -/
structure RoundingInterval where
  low : Nat
  value : Nat
  high : Nat
  exponent : Int
  holdsEnds : Bool
  deriving DecidableEq, Repr

/-- The ends lie halfway to the neighbours; below a power of two the neighbour is half as far,
unless the exponent is the smallest. -/
def FloatFormat.roundingInterval (format : FloatFormat) (mantissa : Nat) (exponent : Int) :
    RoundingInterval :=
  let quarter := exponent - 2
  let unit := Nat.pow 2 quarter.toNat * Nat.pow 5 (-quarter).toNat
  let below :=
    if mantissa = Nat.pow 2 format.fractionWidth ∧ format.minExponent < exponent then 1 else 2
  { low := (4 * mantissa - below) * unit
    value := 4 * mantissa * unit
    high := (4 * mantissa + 2) * unit
    exponent := min quarter 0
    holdsEnds := mantissa % 2 = 0 }

namespace RoundingInterval

def holds (interval : RoundingInterval) (n : Nat) : Bool :=
  if interval.holdsEnds then interval.low ≤ n && n ≤ interval.high
  else interval.low < n && n < interval.high

/-- The decimal on the grid `10 ^ places` that is nearest to the value among those of its two
neighbours that lie in the interval. -/
def onGrid? (interval : RoundingInterval) (tie : TieBreak) (places : Nat) : Option Decimal :=
  let step := Nat.pow 10 places
  let down := interval.value / step
  let exponent := interval.exponent + places
  match interval.holds (down * step), interval.holds ((down + 1) * step) with
  | false, false => none
  | true, false => some ⟨down, exponent⟩
  | false, true => some ⟨down + 1, exponent⟩
  | true, true =>
    let excess := 2 * (interval.value % step)
    let up := step < excess ∨ (excess = step ∧ (tie = .upward ∨ down % 2 = 1))
    some ⟨if up then down + 1 else down, exponent⟩

end RoundingInterval

def decimalLength (n : Nat) : Nat :=
  (digitsOf 10 n.log2.succ n []).length

/-- The fewest digits for a finite magnitude other than zero. The grid of all digits holds the
value itself. -/
def FloatFormat.shortest (format : FloatFormat) (tie : TieBreak) (mantissa : Nat)
    (exponent : Int) : Decimal :=
  let interval := format.roundingInterval mantissa exponent
  let length := decimalLength interval.value
  let hit := (List.range length).findSome? fun n => interval.onGrid? tie (length - (n + 1))
  hit.getD ⟨interval.value, interval.exponent⟩

end CallWire
