import CallWire.Message.Build

/-!
Building messages from what encoders announce where sizes are words and memory has an end. What an
encoder announces need not be the size of anything: the sum may be no size, and a buffer of that
length may not exist. There is no answer then, as the program gives up.
-/

namespace CallWire

/-- Sizes are words of this range. -/
def sizeLimit : Nat := 0x10000000000000000

/-- There is no buffer as long as this, however much memory there is. -/
def bufferLimit : Nat := 0x8000000000000000

/-- What becomes of a sum that is no size. It depends on how the program was compiled. -/
inductive SizeOverflow
  | wraps
  | stops
  deriving DecidableEq, Repr

structure Memory where
  overflow : SizeOverflow
  /-- There is memory for a buffer of this length, new or grown. -/
  holds : Nat → Bool
  holds_lt : ∀ {n}, holds n → n < bufferLimit

namespace Memory

/-- All the memory that could be. -/
def whole : Memory := ⟨.wraps, fun n => decide (n < bufferLimit), of_decide_eq_true⟩

def add? (memory : Memory) (a b : Nat) : Option Nat :=
  if a + b < sizeLimit then some (a + b)
  else
    match memory.overflow with
    | .wraps => some ((a + b) % sizeLimit)
    | .stops => none

def sum? (memory : Memory) (sizes : List Nat) : Option Nat := sizes.foldlM memory.add? 0

def zeros? (memory : Memory) (length : Nat) : Option Bytes :=
  if memory.holds length then some (List.replicate length 0) else none

/-- A buffer for the part in front and the contents behind it, with all of them put into it. -/
def fill? (memory : Memory) (front : Encodable) (contents : List Encodable) :
    Option (Except MessageError Bytes) := do
  let size ← memory.sum? (contents.map Encodable.size)
  let length ← memory.add? front.size size
  let zeros ← memory.zeros? length
  match (Writer.onto zeros).putAll (front.pieces ++ contents.flatMap Encodable.pieces) with
  | (after, .ok _) => return .ok after.buffer
  | (_, .error error) => return .error (.wire error)

def buildRequest? (memory : Memory) (callId : UInt16) (methodId : UInt32) (objectId : UInt64)
    (args : List Encodable) : Option (Except MessageError Message) :=
  (memory.fill? (requestPart callId methodId objectId) args).map fun filled =>
    filled.map fun buffer => Message.request callId methodId objectId (buffer.drop requestPrefixSize)

def buildResponse? (memory : Memory) (callId : UInt16) (value : Encodable) :
    Option (Except MessageError Message) :=
  (memory.fill? (headerPart .response callId) [value]).map fun filled =>
    filled.map fun buffer => Message.response callId (buffer.drop headerSize)

/-- The bytes so far are made longer by the size that the argument announces, or shorter if the
sum wraps around; the region of the argument cannot start behind their end. -/
def arg? (memory : Memory) (b : RequestBuilder) (e : Encodable) : Option RequestBuilder :=
  match b.error with
  | some _ => some b
  | none => do
    let length ← memory.add? b.args.length e.size
    let zeros ← memory.zeros? length
    if length < b.args.length then none
    else
      match (Writer.onto (zeros.drop b.args.length)).putAll e.pieces with
      | (after, .ok _) => return { b with args := b.args ++ after.buffer }
      | (_, .error error) => return { b with error := some error }

def build? (memory : Memory) (b : RequestBuilder) : Option (Except MessageError Message) :=
  match b.error with
  | some error => some (.error (.wire error))
  | none =>
    memory.buildRequest? b.callId b.methodId b.objectId [.ofContent b.args.length b.args none]

/-- A request whose arguments are added one by one. -/
def buildStepwise? (memory : Memory) (callId : UInt16) (methodId : UInt32) (objectId : UInt64)
    (args : List Encodable) : Option (Except MessageError Message) :=
  (args.foldlM memory.arg? (RequestBuilder.start callId methodId objectId)).bind memory.build?

end Memory
end CallWire
