import CallWire.Decimal.Integer
import CallWire.Decimal.Numeral
import CallWire.Decimal.Style
import CallWire.Text.Blank
import CallWire.Text.Json
import CallWire.Wire.Decoding
import CallWire.Wire.Encoding

/-!
Arguments as people write them: the name of a kind, a colon, and the value. The kinds are the
scalars, truth values and texts; an argument travels as the value it holds.
-/

namespace CallWire

inductive ArgumentKind
  | scalar (scalar : Scalar)
  | bool
  | text
  deriving DecidableEq, Repr

namespace ArgumentKind

def all : List ArgumentKind :=
  [.scalar .u8, .scalar .u16, .scalar .u32, .scalar .u64, .scalar .i8, .scalar .i16, .scalar .i32,
    .scalar .i64, .scalar .f32, .scalar .f64, .bool, .text]

def name : ArgumentKind → String
  | scalar s => s.name
  | bool => "bool"
  | text => "str"

def ofName? (name : String) : Option ArgumentKind :=
  all.find? fun kind => kind.name == name

def ofNameAnyCase? (name : String) : Option ArgumentKind :=
  ofName? (String.ofList (name.toList.map Char.toLower))

@[reducible] def kind : ArgumentKind → Kind
  | scalar s => .scalar s
  | bool => .bool
  | text => .text

@[reducible] def Value (k : ArgumentKind) : Type := k.kind.Value

end ArgumentKind

def Scalar.floatFormat? : Scalar → Option FloatFormat
  | f32 => some .binary32
  | f64 => some .binary64
  | _ => none

inductive ArgumentError
  | noColon (text : String)
  | unknownKind (name : String)
  | unsigned (text : String) (error : IntegerError)
  | integer (kind : ArgumentKind) (text : String) (error : IntegerError)
  | float (kind : ArgumentKind) (text : String) (error : FloatError)
  | truthValue (text : String)
  deriving DecidableEq, Repr

def ArgumentError.message : ArgumentError → String
  | noColon text => s!"expected TYPE:VALUE, got '{text}'"
  | unknownKind name => s!"invalid variant: {name}"
  | unsigned text error => s!"invalid unsigned integer '{text}': {error.message}"
  | integer kind text error => s!"invalid {kind.name} value '{text}': {error.message}"
  | float kind text error => s!"invalid {kind.name} value '{text}': {error.message}"
  | truthValue text => s!"invalid bool value '{text}': expected true, false, 1 or 0"

/-- An unsigned number of 64 bits, decimal, or hexadecimal behind `0x` or `0X`. -/
def readUnsigned (text : String) : Except ArgumentError Nat :=
  let result :=
    match afterAny? ["0x", "0X"] text.toList with
    | some digits => Integer.readUnsigned 16 64 (String.ofList digits)
    | none => Integer.readUnsigned 10 64 text
  result.mapError (.unsigned text)

/-- The value of a scalar kind that a text denotes. Unsigned numbers are read at full width first;
signed ones at their own. -/
def Scalar.read (s : Scalar) (text : String) : Except ArgumentError (BitVec (8 * s.width)) :=
  match s.floatFormat? with
  | some format =>
    match format.read text with
    | .ok bits => .ok (BitVec.ofNat _ bits)
    | .error error => .error (.float (.scalar s) text error)
  | none =>
    if s.isSigned then
      match Integer.readSigned (8 * s.width) text with
      | .ok n => .ok (BitVec.ofInt _ n)
      | .error error => .error (.integer (.scalar s) text error)
    else
      match readUnsigned text with
      | .error error => .error error
      | .ok n =>
        if n < Nat.pow 2 (8 * s.width) then .ok (BitVec.ofNat _ n)
        else .error (.integer (.scalar s) text .tooLarge)

def ArgumentKind.read : (k : ArgumentKind) → String → Except ArgumentError k.Value
  | .scalar s, input => s.read input
  | .bool, input =>
    if input = "true" ∨ input = "1" then .ok true
    else if input = "false" ∨ input = "0" then .ok false
    else .error (.truthValue input)
  | .text, input => .ok input

/-- The text of a value: numbers in decimal, texts as they are. -/
def ArgumentKind.write : (k : ArgumentKind) → k.Value → String
  | .scalar s, a =>
    match s.floatFormat? with
    | some format => FloatStyle.plain.write format a.toNat
    | none => if s.isSigned then toString a.toInt else toString a.toNat
  | .bool, a => if a then "true" else "false"
  | .text, a => a

/-- The JSON of a value. Floats of either format are written as binary64. -/
def ArgumentKind.json : (k : ArgumentKind) → k.Value → String
  | .scalar s, a =>
    match s.floatFormat? with
    | some format => FloatStyle.json.write .binary64 (format.convert .binary64 a.toNat)
    | none => ArgumentKind.write (.scalar s) a
  | .bool, a => ArgumentKind.write .bool a
  | .text, a => jsonString a

structure Argument where
  kind : ArgumentKind
  value : kind.Value

namespace Argument

/-- Everything before the first colon names the kind; everything after it is the value. -/
def ofText (text : String) : Except ArgumentError Argument :=
  let chars := text.toList
  match chars.dropWhile (· ≠ ':') with
  | [] => .error (.noColon text)
  | _ :: rest =>
    let name := String.ofList (chars.takeWhile (· ≠ ':'))
    match ArgumentKind.ofNameAnyCase? name with
    | none => .error (.unknownKind name)
    | some kind => (kind.read (String.ofList rest)).map (⟨kind, ·⟩)

def toText (a : Argument) : String := s!"{a.kind.name}:{a.kind.write a.value}"

def json (a : Argument) : String := a.kind.json a.value

def encodable (a : Argument) : Encodable := Encodable.ofValue a.kind.kind a.value

def reading (kind : ArgumentKind) : Reading Argument := do
  return ⟨kind, ← kind.kind.reading⟩

def decodeFrom (kind : ArgumentKind) (payload : Bytes) : Except WireError Argument :=
  (kind.kind.decodeFrom payload).map (⟨kind, ·⟩)

end Argument
end CallWire
