import CallWire.Bytes
import CallWire.Text.Quote

/-!
Bytes as pairs of hex digits. Written in lower case; read in either case, from a text of an even
number of digits and nothing else.
-/

namespace CallWire.Hex

inductive DecodeError
  | oddLength
  /-- The byte at this position of the text is no digit. -/
  | invalidDigit (byte : UInt8) (position : Nat)
  deriving DecidableEq, Repr

/-- A byte that is no digit is shown as the character of its number. -/
def DecodeError.message : DecodeError → String
  | oddLength => "Odd number of digits"
  | invalidDigit byte position =>
    s!"Invalid character {quotedChar (Char.ofNat byte.toNat)} at position {position}"

def encode (bytes : Bytes) : String :=
  String.ofList (bytes.flatMap fun b => [digitChar (b.toNat / 16), digitChar (b.toNat % 16)])

def decodePairs (position : Nat) : Bytes → Except DecodeError Bytes
  | high :: low :: rest =>
    match digitValue? 16 (Char.ofNat high.toNat), digitValue? 16 (Char.ofNat low.toNat) with
    | none, _ => .error (.invalidDigit high position)
    | some _, none => .error (.invalidDigit low (position + 1))
    | some h, some l => (decodePairs (position + 2) rest).map (UInt8.ofNat (16 * h + l) :: ·)
  | _ => .ok []

/-- The length is looked at before the digits. -/
def decode (text : String) : Except DecodeError Bytes :=
  let input := Bytes.ofText text
  if input.length % 2 = 1 then .error .oddLength else decodePairs 0 input

end CallWire.Hex
