import CallWire.Text.Digits

/-!
Reading integers of limited range. The digits are taken from the left; the first that is no digit,
or with which the number leaves the range, decides how the reading fails.
-/

namespace CallWire

inductive IntegerError
  | empty
  | invalidDigit
  | tooLarge
  | tooSmall
  deriving DecidableEq, Repr

def IntegerError.message : IntegerError → String
  | empty => "cannot parse integer from empty string"
  | invalidDigit => "invalid digit found in string"
  | tooLarge => "number too large to fit in target type"
  | tooSmall => "number too small to fit in target type"

namespace Integer

/-- Digits after a number read so far, up to `limit`. -/
def readDigits (base limit : Nat) (beyond : IntegerError) (sofar : Nat) :
    List Char → Except IntegerError Nat
  | [] => .ok sofar
  | c :: rest =>
    match digitValue? base c with
    | none => .error .invalidDigit
    | some digit =>
      let next := base * sofar + digit
      if limit < next then .error beyond else readDigits base limit beyond next rest

def readMagnitude (base limit : Nat) (beyond : IntegerError) :
    List Char → Except IntegerError Nat
  | [] => .error .invalidDigit
  | digits => readDigits base limit beyond 0 digits

/-- An unsigned number below `2 ^ width`, maybe with a plus sign. -/
def readUnsigned (base width : Nat) (text : String) : Except IntegerError Nat :=
  match text.toList with
  | [] => .error .empty
  | '+' :: digits => readMagnitude base (Nat.pow 2 width - 1) .tooLarge digits
  | digits => readMagnitude base (Nat.pow 2 width - 1) .tooLarge digits

/-- A decimal number in the range of `width` bits with sign. -/
def readSigned (width : Nat) (text : String) : Except IntegerError Int :=
  match text.toList with
  | [] => .error .empty
  | '+' :: digits =>
    (readMagnitude 10 (Nat.pow 2 (width - 1) - 1) .tooLarge digits).map Int.ofNat
  | '-' :: digits =>
    (readMagnitude 10 (Nat.pow 2 (width - 1)) .tooSmall digits).map fun n => -Int.ofNat n
  | digits => (readMagnitude 10 (Nat.pow 2 (width - 1) - 1) .tooLarge digits).map Int.ofNat

end Integer
end CallWire
