import CallWire.Io.Error

/-!
The ways in which listening, connecting or accepting can fail.
-/

namespace CallWire

inductive TransportError
  | bind (path : String) (source : IoError)
  | connect (path : String) (source : IoError)
  | accept (source : IoError)
  | io (source : IoError)
  /-- The path has `length` bytes, and addresses hold fewer than `maximum`. -/
  | pathTooLong (path : String) (length maximum : Nat)
  deriving DecidableEq, Repr

def TransportError.message : TransportError → String
  | bind path source => s!"failed to bind to {path}: {source.text}"
  | connect path source => s!"failed to connect to {path}: {source.text}"
  | accept source => s!"failed to accept connection: {source.text}"
  | io source => s!"transport I/O error: {source.text}"
  | pathTooLong path length maximum =>
    s!"socket path too long ({length} bytes, max {maximum}): {path}"

end CallWire
