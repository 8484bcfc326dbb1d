import CallWire.Decimal.Integer
import CallWire.Text.Blank

/-!
Durations as people write them: a whole number of seconds, or of milliseconds with the unit `ms`.
-/

namespace CallWire

inductive DurationError
  | empty
  | unreadable (text : String)
  | zero
  deriving DecidableEq, Repr

def DurationError.message : DurationError → String
  | empty => "duration must not be empty"
  | unreadable text => s!"invalid duration value: {text}"
  | zero => "duration must be greater than zero"

/-- The number and the milliseconds in its unit. -/
def splitUnit (text : List Char) : List Char × Nat :=
  match text.reverse with
  | 's' :: 'm' :: number => (number.reverse, 1)
  | 's' :: number => (number.reverse, 1000)
  | _ => (text, 1000)

/-- The milliseconds that a text denotes, blanks around it aside. -/
def readDuration (text : String) : Except DurationError Nat :=
  let trimmed := trimBlanks text.toList
  if trimmed.isEmpty then
    .error .empty
  else
    let (number, unit) := splitUnit trimmed
    match Integer.readUnsigned 10 64 (String.ofList number) with
    | .error _ => .error (.unreadable (String.ofList trimmed))
    | .ok 0 => .error .zero
    | .ok n => .ok (n * unit)

end CallWire
