import CallWire.Channel.Error

/-!
Frames. On a byte stream every message goes behind its length, a little-endian number of four
bytes. Decoding looks at the length as soon as it is there and refuses one that cannot hold a
header or exceeds the limit, whether or not the rest has come.
-/

namespace CallWire

def frameLengthWidth : Nat := 4

/-- The frame limit unless another is set: 16 MiB. -/
def defaultMaxFrameSize : Nat := 16 * 1024 * 1024

/-- The limit on frames and the timeouts, in milliseconds, of a connection. -/
structure FrameConfig where
  maxSize : Nat := defaultMaxFrameSize
  readTimeout : Option Nat := none
  writeTimeout : Option Nat := none
  deriving DecidableEq, Repr

def maxFrameLength : Nat := 0xffffffff

/-- The frame of a byte string, whatever it holds. -/
def frameOf (content : Bytes) : Bytes :=
  Bytes.littleEndian frameLengthWidth content.length ++ content

/-- The frame of a byte string whose length can be announced. -/
def encodeFrame (content : Bytes) : Except ChannelError Bytes :=
  if content.length ≤ maxFrameLength then .ok (frameOf content)
  else .error (.frameTooLarge content.length maxFrameLength)

/-- The first frame of a buffer and what is left after it, or `none` while it is incomplete. A
failure takes nothing from the buffer. -/
def decodeFrame (limit : Nat) (buffer : Bytes) : Except ChannelError (Option (Bytes × Bytes)) :=
  if buffer.length < frameLengthWidth then
    .ok none
  else
    let length := Bytes.value (buffer.take frameLengthWidth)
    let rest := buffer.drop frameLengthWidth
    if length < headerSize then
      .error (.frameTooShort length headerSize)
    else if limit < length then
      .error (.frameTooLarge length limit)
    else if rest.length < length then
      .ok none
    else
      .ok (some (rest.take length, rest.drop length))

/-- Work on a buffer of received bytes. -/
abbrev Receiving := EStateM ChannelError Bytes

/-- Take the first `n` bytes off the buffer. -/
def Receiving.split (n : Nat) : Receiving Bytes := fun buffer => .ok (buffer.take n) (buffer.drop n)

/-- Take the first frame off the buffer, the length first. Nothing is taken before the whole frame is
known to be there. -/
def takeFrame (limit : Nat) : Receiving (Option Bytes) := do
  let buffer ← get
  if buffer.length < frameLengthWidth then
    return none
  else
    let length := Bytes.value (buffer.take frameLengthWidth)
    if length < headerSize then
      throw (.frameTooShort length headerSize)
    else if limit < length then
      throw (.frameTooLarge length limit)
    else if buffer.length < frameLengthWidth + length then
      return none
    else
      let _ ← Receiving.split frameLengthWidth
      let frame ← Receiving.split length
      return some frame

def messageOfFrame (frame : Bytes) : Except ChannelError Message :=
  match Message.ofBytes frame with
  | .error error => .error (.message error)
  | .ok m =>
    match m.validate with
    | .error error => .error (.message error)
    | .ok _ => .ok m

/-- Append the frame of a message to what is to be sent, if the limit allows it. -/
def encodeMessage (limit : Nat) (m : Message) (buffer : Bytes) : Except ChannelError Bytes :=
  if limit < m.length then .error (.frameTooLarge m.length limit)
  else (encodeFrame m.bytes).map (buffer ++ ·)

/-- Take the first message off a buffer of received bytes. A complete frame is taken off even if
it holds no valid message. -/
def decodeMessage (limit : Nat) (buffer : Bytes) :
    Except ChannelError (Option Message) × Bytes :=
  match decodeFrame limit buffer with
  | .error error => (.error error, buffer)
  | .ok none => (.ok none, buffer)
  | .ok (some (frame, rest)) => ((messageOfFrame frame).map some, rest)

/-- Like `decodeMessage` at the end of the stream, where an incomplete frame is a failure. -/
def decodeLastMessage (limit : Nat) (buffer : Bytes) :
    Except ChannelError (Option Message) × Bytes :=
  match decodeMessage limit buffer with
  | (.ok none, []) => (.ok none, [])
  | (.ok none, rest) => (.error .connectionClosed, rest)
  | other => other

end CallWire
