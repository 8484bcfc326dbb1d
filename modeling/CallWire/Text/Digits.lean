/-!
Digits of natural numbers in a base up to sixteen.
-/

namespace CallWire

def digitChar (n : Nat) : Char :=
  if n < 10 then Char.ofNat (48 + n) else Char.ofNat (87 + n)

def digitValue? (base : Nat) (c : Char) : Option Nat :=
  let n :=
    if '0' ≤ c ∧ c ≤ '9' then c.toNat - 48
    else if 'a' ≤ c ∧ c ≤ 'f' then c.toNat - 87
    else if 'A' ≤ c ∧ c ≤ 'F' then c.toNat - 55
    else base
  if n < base then some n else none

/-- The digits of `n` from the most significant on, none for zero. `fuel` bounds their number. -/
def digitsOf (base : Nat) : Nat → Nat → List Char → List Char
  | 0, _, digits => digits
  | fuel + 1, n, digits =>
    if n = 0 then digits else digitsOf base fuel (n / base) (digitChar (n % base) :: digits)

/-- A number in base sixteen, in lower case and without leading zeros. -/
def hexText (n : Nat) : String :=
  if n = 0 then "0" else String.ofList (digitsOf 16 n.log2.succ n [])

def upperHexByte (b : UInt8) : String :=
  String.ofList [(digitChar (b.toNat / 16)).toUpper, (digitChar (b.toNat % 16)).toUpper]

def octalText (n : Nat) : String :=
  if n = 0 then "0" else String.ofList (digitsOf 8 n.log2.succ n [])

end CallWire
