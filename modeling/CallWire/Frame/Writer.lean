import CallWire.Frame.Basic
import CallWire.Io.Sink

/-!
A frame writer sends each message as one frame, offering the sink what it has not accepted yet until
all is accepted, and then flushes. Nothing of a failed message is kept for a later one.
-/

namespace CallWire

structure FrameWriter where
  config : FrameConfig := {}
  deriving DecidableEq, Repr

namespace FrameWriter

variable {σ : Type} [ByteSink σ]

/-- Offer the bytes until all are accepted. `calls` bounds the calls made to the sink; its weight
and the number of bytes together are always enough. -/
def push : Nat → Bytes → σ → Except ChannelError Unit × σ
  | _, [], sink => (.ok (), sink)
  | 0, _ :: _, sink => (.error .connectionClosed, sink)
  | calls + 1, content, sink =>
    match ByteSink.write content sink with
    | (.accepted 0, next) => (.error .connectionClosed, next)
    | (.accepted count, next) => push calls (content.drop count) next
    | (.failed error, next) =>
      if error.isInterruption then push calls content next else (.error (.io error), next)

/-- Flush, trying again after interruptions. `calls` bounds the calls made to the sink. -/
def settle : Nat → σ → Except ChannelError Unit × σ
  | calls, sink =>
    match ByteSink.flush sink with
    | (.ok _, next) => (.ok (), next)
    | (.error error, next) =>
      if error.isInterruption then
        match calls with
        | 0 => (.error (.io error), next)
        | calls + 1 => settle calls next
      else
        (.error (.io error), next)

def flush (sink : σ) : Except ChannelError Unit × σ :=
  settle (ByteSink.weight sink) sink

/-- Send one message as a frame. A message over the limit is refused before the sink is touched. -/
def send (writer : FrameWriter) (content : Bytes) (sink : σ) : Except ChannelError Unit × σ :=
  if writer.config.maxSize < content.length then
    (.error (.frameTooLarge content.length writer.config.maxSize), sink)
  else
    match encodeFrame content with
    | .error error => (.error error, sink)
    | .ok frame =>
      match push (ByteSink.weight sink + frame.length) frame sink with
      | (.ok _, next) => flush next
      | failed => failed

end FrameWriter
end CallWire
