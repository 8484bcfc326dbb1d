import CallWire.Channel.Basic
import CallWire.Message.Build
import CallWire.Message.Slot

/-!
Sessions: a channel serving the requests of one peer. A session goes in steps, each of which is
done at once or has to wait, so that other programs and shutdown handles may act in between. A
handler answers each request by what it does with the reply slot.
-/

namespace CallWire

inductive HandlerAction
  /-- Place a reply in the slot, over any earlier one. -/
  | place (reply : Message)
  /-- Take the reply out again. -/
  | withdraw
  | shutdown
  deriving DecidableEq

/-- From what it remembers and a request, a handler decides what to do and to remember. -/
abbrev Handler (ρ : Type) := ρ → Message → ρ × List HandlerAction

inductive Phase
  | arriving
  | attaching (s : SocketId)
  /-- Between messages; a shutdown request is looked for. -/
  | checking
  | reading
  /-- The stream ended; a shutdown request is looked for once more. -/
  | leaving
  | detaching
  | closing
  | failing (error : ChannelError)
  | finished (result : Except ChannelError Unit)
  deriving Repr

structure Session (ρ : Type) where
  channel : Channel
  memory : ρ
  phase : Phase

inductive Pace
  | moves
  | waits
  deriving DecidableEq, Repr

namespace Session

variable {ρ : Type}

def start (channel : Channel) (memory : ρ) : Session ρ := ⟨channel, memory, .arriving⟩

def perform (handle : ShutdownHandle) : List HandlerAction → ReplySlot → Host → ReplySlot × Host
  | [], slot, host => (slot, host)
  | .place reply :: rest, slot, host => perform handle rest (slot.set reply) host
  | .withdraw :: rest, slot, host => perform handle rest slot.take.2 host
  | .shutdown :: rest, slot, host => perform handle rest slot (handle.shutdown host)

def serve (handler : Handler ρ) (session : Session ρ) (c : Connection) (m : Message) (host : Host) :
    Session ρ × Host :=
  if m.isRequest then
    let (memory, actions) := handler session.memory m
    let (slot, host) := perform session.channel.shutdownHandle actions .empty host
    let session := { session with memory }
    match slot.take.1 with
    | none => ({ session with phase := .failing (.missingResponse m.callId) }, host)
    | some reply =>
      match c.send reply.bytes host with
      | (.ok _, host) => ({ session with phase := .checking }, host)
      | (.error error, host) => ({ session with phase := .failing error }, host)
  else
    ({ session with phase := .failing (.unexpectedType .request .response) }, host)

/-- Take a connection from the backlog, unless the channel has one. Accepting waits but does not fail, as there are
descriptors enough. -/
def arrive (session : Session ρ) (host : Host) : Pace × Session ρ × Host :=
  match session.channel.state with
  | .closed => (.moves, { session with phase := .failing .closed }, host)
  | .connected _ | .listening _ (some _) => (.moves, { session with phase := .checking }, host)
  | .listening l none =>
    match host.accept l with
    | (none, host) => (.waits, session, host)
    | (some s, host) => (.moves, { session with phase := .attaching s }, host)

def attach (session : Session ρ) (s : SocketId) (host : Host) : Session ρ × Host :=
  let channel := session.channel
  match Connection.attach host s channel.config channel.control with
  | (.error error, host) => ({ session with phase := .failing error }, host)
  | (.ok c, host) =>
    ({ session with channel := channel.setConnection c, phase := .checking }, host)

def readNext (handler : Handler ρ) (session : Session ρ) (c : Connection) (host : Host) :
    Pace × Session ρ × Host :=
  let (outcome, c, host) := c.readMessage host
  let session := { session with channel := session.channel.setConnection c }
  match outcome with
  | .waiting => (.waits, session, host)
  | .done (.error error) => (.moves, { session with phase := .failing error }, host)
  | .done (.ok none) => (.moves, { session with phase := .leaving }, host)
  | .done (.ok (some m)) => (.moves, serve handler session c m host)

def step (handler : Handler ρ) (session : Session ρ) (host : Host) : Pace × Session ρ × Host :=
  let isRequested := session.channel.shutdownHandle.isRequested host
  let after (result : Except ChannelError Unit) (next : Channel × Host) : Pace × Session ρ × Host :=
    (.moves, { session with channel := next.1, phase := .finished result }, next.2)
  match session.phase with
  | .arriving => session.arrive host
  | .attaching s => (.moves, session.attach s host)
  | .checking =>
    (.moves, { session with phase := if isRequested then .closing else .reading }, host)
  | .reading =>
    match session.channel.established with
    | .error error => (.moves, { session with phase := .failing error }, host)
    | .ok c => readNext handler session c host
  | .leaving =>
    (.moves, { session with phase := if isRequested then .closing else .detaching }, host)
  | .detaching => after (.ok ()) (session.channel.detachPeer host)
  | .closing => after (.ok ()) (session.channel.close host)
  | .failing error => after (.error error) (session.channel.fail error host)
  | .finished _ => (.waits, session, host)

/-- Go on for at most so many steps, or until the session has to wait or is over. -/
def advance (handler : Handler ρ) : Nat → Session ρ → Host → Session ρ × Host
  | 0, session, host => (session, host)
  | steps + 1, session, host =>
    match step handler session host with
    | (.moves, session, host) => advance handler steps session host
    | (.waits, session, host) => (session, host)

/-- Enough steps: two for every message, which has more than a byte, and a few around them. -/
def stepBound (session : Session ρ) (host : Host) : Nat :=
  let buffered := session.channel.connection?.elim 0 fun c => c.reader.buffer.length
  2 * (buffered + host.inFlight) + 16

def run (handler : Handler ρ) (session : Session ρ) (host : Host) :
    Outcome Unit × Session ρ × Host :=
  let (session, host) := advance handler (session.stepBound host) session host
  match session.phase with
  | .finished result => (.done result, session, host)
  | _ => (.waiting, session, host)

end Session

/-- Serve the requests of one peer until it leaves; a listening channel takes the next peer from
its backlog. -/
def Channel.accept {ρ : Type} (channel : Channel) (handler : Handler ρ) (memory : ρ) (host : Host) :
    Outcome Unit × Session ρ × Host :=
  (Session.start channel memory).run handler host

end CallWire
