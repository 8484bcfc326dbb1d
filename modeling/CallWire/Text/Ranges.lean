/-!
Sets of characters given as ascending ranges of code points, both ends included.
-/

namespace CallWire

abbrev CharRanges := List (Nat × Nat)

def CharRanges.holds (ranges : CharRanges) (c : Char) : Bool :=
  List.any ranges fun range => range.1 ≤ c.toNat && c.toNat ≤ range.2

end CallWire
