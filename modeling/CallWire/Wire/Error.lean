/-!
The ways in which encoding into a buffer or decoding from one can fail.
-/

namespace CallWire

inductive WireError
  /-- The whole buffer has `available` bytes, and `needed` would have been used of it. -/
  | bufferTooSmall (needed available : Nat)
  /-- A piece of `needed` bytes was asked for where only `remaining` are left. -/
  | unexpectedEnd (needed remaining : Nat)
  | invalidUtf8
  | lengthOverflow (length : Nat)
  deriving DecidableEq, Repr

def WireError.message : WireError → String
  | bufferTooSmall needed available => s!"buffer too small ({available} bytes, need {needed})"
  | unexpectedEnd needed remaining =>
    s!"unexpected end of input (need {needed} bytes, {remaining} remaining)"
  | invalidUtf8 => "string payload is not valid utf-8"
  | lengthOverflow length => s!"length {length} does not fit in a u32 prefix"

end CallWire
