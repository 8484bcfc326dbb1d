import CallWire.Cli.Failure
import CallWire.Cli.Summary
import CallWire.Frame.Basic

/-!
Inspecting a message given in hex, and telling the version.
-/

namespace CallWire

def isHexSeparator (c : Char) : Bool :=
  c == ' ' || c == '\t' || c == '\n' || c == '\x0c' || c == '\r' || c == ':' || c == '_'

/-- The bytes of a text in hex, which may start with `0x` and hold separators. -/
def readHex (text : String) : Except Hex.DecodeError Bytes :=
  let trimmed := trimBlanks text.toList
  let digits := (afterAny? ["0x", "0X"] trimmed).getD trimmed
  Hex.decode (String.ofList (digits.filter fun c => !isHexSeparator c))

def Message.payload (m : Message) : Except MessageError Bytes :=
  if m.isRequest then m.args else m.returnValue

def Message.ofValidBytes (content : Bytes) : Except MessageError Message :=
  (Message.ofBytes content).bind fun m => m.validate.map fun _ => m

def inspectHex (text : String) (decode : Option ArgumentKind) : Except Failure Summary := do
  let content ← (readHex text).mapError .hexInput
  let m ← (Message.ofValidBytes content).mapError (.message "invalid message")
  let value ←
    match decode with
    | none => pure none
    | some kind =>
      let payload ← m.payload.mapError (.message "invalid message")
      let value ← (Argument.decodeFrom kind payload).mapError (.undecodable "payload" kind)
      pure (some value)
  (Summary.ofMessage m value).mapError (.message "invalid message")

def programName : String := "cipc"

def programVersion : String := "0.1.0"

/-- The name and the version, or line by line what is known of the build. -/
def versionText (isExtended : Bool) : String :=
  if isExtended then
    "\n".intercalate
      [s!"name: {programName}", s!"version: {programVersion}", "target: unknown",
        "profile: unknown", s!"max_frame_size: {defaultMaxFrameSize}",
        "features: async=false, cli=true"] ++ "\n"
  else
    s!"{programName} {programVersion}\n"

end CallWire
