import CallWire.Io.Errno
import CallWire.Io.Source

/-!
One end of a connection between two programs: what has arrived and was not read yet, and whether
more can come. How much a call to read or write moves, and whether it is disturbed, is laid down in
advance as a list of turns; where the list is empty a call moves all it can. Reading makes an end
lighter, so a reader that reads on comes to an end or has to wait.
-/

namespace CallWire

inductive ReadTurn
  /-- At most so many bytes, though one at least. -/
  | upTo (count : Nat)
  | fails (error : IoError)
  deriving DecidableEq, Repr

inductive WriteTurn
  | upTo (count : Nat)
  | fails (error : IoError)
  deriving DecidableEq, Repr

structure Endpoint where
  /-- Bytes that arrived and were not read. -/
  inbox : Bytes := []
  /-- No more bytes will come: either side shut this direction down or closed. -/
  isEnded : Bool := false
  /-- The peer closed without reading all it was sent, which one call to read reports. -/
  isReset : Bool := false
  /-- The open descriptors of this end; without any it is closed. -/
  descriptors : Nat := 1
  readTurns : List ReadTurn := []
  writeTurns : List WriteTurn := []
  /-- Milliseconds that a call to read waits for bytes. -/
  readTimeout : Option Nat := none
  writeTimeout : Option Nat := none
  deriving DecidableEq, Repr

namespace Endpoint

/-- The most bytes that the next turn lets a call of this limit have. -/
def allowance (limit : Nat) : List ReadTurn → Nat
  | .upTo count :: _ => min limit (max count 1)
  | _ => limit

/-- What arrived is read before a reset is reported, and a reset before the end of the stream. -/
def read (limit : Nat) (e : Endpoint) : ReadOutcome × Endpoint :=
  match e.readTurns with
  | .fails error :: rest => (.failed error, { e with readTurns := rest })
  | turns =>
    if e.inbox.isEmpty then
      if e.isReset then (.failed .connectionReset, { e with isReset := false })
      else if e.isEnded then (.received [], e)
      else (.waiting, e)
    else
      let count := allowance limit turns
      (.received (e.inbox.take count),
        { e with inbox := e.inbox.drop count, readTurns := turns.tail })

def weight (e : Endpoint) : Nat := e.inbox.length + e.readTurns.length

theorem read_lighter (limit : Nat) (e : Endpoint)
    (more : (e.read limit).1.invitesAnother = true) : (e.read limit).2.weight < e.weight := by
  revert more
  unfold read
  split
  · simp [weight, *]
  · split
    · split
      · simp [ReadOutcome.invitesAnother, IoError.isInterruption, IoError.connectionReset,
          IoError.ofErrno, ioKindOfErrno]
      · split <;> simp [ReadOutcome.invitesAnother]
    · intro more
      have moved : e.inbox.take (allowance limit e.readTurns) ≠ [] := by
        intro nothing
        simp [nothing, ReadOutcome.invitesAnother] at more
      have count : 0 < allowance limit e.readTurns := by
        apply Nat.pos_of_ne_zero
        intro zero
        simp [zero] at moved
      have arrived : 0 < e.inbox.length := by
        apply List.length_pos_iff.2
        intro nothing
        simp [nothing] at moved
      simp only [weight, List.length_drop, List.length_tail]
      omega

instance : ByteSource Endpoint where
  read := read
  weight := weight
  read_lighter := read_lighter

/-- Waiting no time at all is refused. -/
def checkTimeout : Option Nat → Except IoError Unit
  | some 0 => .error ⟨.invalidInput, "cannot set a 0 duration timeout"⟩
  | _ => .ok ()

def setReadTimeout (timeout : Option Nat) (e : Endpoint) : Except IoError Endpoint :=
  (checkTimeout timeout).map fun _ => { e with readTimeout := timeout }

def setWriteTimeout (timeout : Option Nat) (e : Endpoint) : Except IoError Endpoint :=
  (checkTimeout timeout).map fun _ => { e with writeTimeout := timeout }

/-- The time that a call waiting to read was given is over. -/
def expire (e : Endpoint) : Endpoint :=
  { e with readTurns := .fails .wouldBlock :: e.readTurns }

def expireWriting (e : Endpoint) : Endpoint :=
  { e with writeTurns := .fails .wouldBlock :: e.writeTurns }

end Endpoint
end CallWire
