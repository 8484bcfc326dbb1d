import CallWire.Frame.Basic
import CallWire.Io.Source

/-!
A frame reader gathers bytes from a source until they make a frame. It looks for a frame in what it
has before it asks for more, so the source is asked only when neither a frame nor a bad length is
at hand.
-/

namespace CallWire

def readChunkSize : Nat := 8 * 1024

structure FrameReader where
  /-- Bytes received that are not part of a frame given out. -/
  buffer : Bytes := []
  config : FrameConfig := {}
  deriving DecidableEq, Repr

namespace FrameReader

variable {σ : Type} [ByteSource σ]

/-- Read until a frame is complete or the source has no more. `calls` bounds the calls made to the
source; its weight is always enough. -/
def pull : Nat → FrameReader → σ → Outcome (Option Bytes) × FrameReader × σ
  | calls, reader, source =>
    match decodeFrame reader.config.maxSize reader.buffer with
    | .error error => (.done (.error error), reader, source)
    | .ok (some (frame, rest)) => (.done (.ok (some frame)), { reader with buffer := rest }, source)
    | .ok none =>
      match ByteSource.read readChunkSize source with
      | (.waiting, next) => (.waiting, reader, next)
      | (.failed error, next) =>
        if error.isInterruption then
          match calls with
          | 0 => (.waiting, reader, next)
          | calls + 1 => pull calls reader next
        else
          (.done (.error (.io error)), reader, next)
      | (.received [], next) =>
        if reader.buffer.isEmpty then (.done (.ok none), reader, next)
        else (.done (.error .connectionClosed), reader, next)
      | (.received content, next) =>
        match calls with
        | 0 => (.waiting, { reader with buffer := reader.buffer ++ content }, next)
        | calls + 1 => pull calls { reader with buffer := reader.buffer ++ content } next

def tryRead (reader : FrameReader) (source : σ) : Outcome (Option Bytes) × FrameReader × σ :=
  pull (ByteSource.weight source) reader source

/-- The end of the stream is a failure where a frame has to come. -/
def required {α : Type} : Outcome (Option α) → Outcome α
  | .done (.ok (some a)) => .done (.ok a)
  | .done (.ok none) => .done (.error .connectionClosed)
  | .done (.error error) => .done (.error error)
  | .waiting => .waiting

def read (reader : FrameReader) (source : σ) : Outcome Bytes × FrameReader × σ :=
  let (outcome, rest) := reader.tryRead source
  (required outcome, rest)

end FrameReader
end CallWire
