import CallWire.Argument.Basic

/-!
The numbers that name a call, a method and an object, as people write them.
-/

namespace CallWire

inductive IdentifierError
  | unreadable (error : ArgumentError)
  | callIdRange (text : String)
  | methodIdRange (text : String)
  deriving DecidableEq, Repr

def IdentifierError.message : IdentifierError → String
  | unreadable error => error.message
  | callIdRange text => s!"call id '{text}' does not fit in u16"
  | methodIdRange text => s!"method id '{text}' does not fit in u32"

def readCallId (text : String) : Except IdentifierError UInt16 :=
  match readUnsigned text with
  | .error error => .error (.unreadable error)
  | .ok n => if n < UInt16.size then .ok (UInt16.ofNat n) else .error (.callIdRange text)

def readMethodId (text : String) : Except IdentifierError UInt32 :=
  match readUnsigned text with
  | .error error => .error (.unreadable error)
  | .ok n => if n < UInt32.size then .ok (UInt32.ofNat n) else .error (.methodIdRange text)

def readObjectId (text : String) : Except IdentifierError UInt64 :=
  match readUnsigned text with
  | .error error => .error (.unreadable error)
  | .ok n => .ok (UInt64.ofNat n)

end CallWire
