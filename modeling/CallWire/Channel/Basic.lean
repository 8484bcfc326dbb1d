import CallWire.Channel.Connection
import CallWire.Text.Quote

/-!
Channels. A channel either has connected to a listener and talks to it, or listens and serves one
peer at a time. Errors close it, but for those after which the stream is as if nothing had
happened; a closed channel stays closed.
-/

namespace CallWire

inductive ChannelState
  | connected (c : Connection)
  | listening (l : ListenerId) (peer : Option Connection)
  | closed
  deriving DecidableEq, Repr

structure Channel where
  state : ChannelState
  path : String
  config : FrameConfig
  control : ControlId
  deriving DecidableEq, Repr

namespace Channel

def connect (path : String) (host : Host) : Except ChannelError Channel × Host :=
  match host.connect path with
  | (.error error, host) => (.error (.transport error), host)
  | (.ok s, host) =>
    let (control, host) := host.newControl {}
    match Connection.attach host s {} control with
    | (.ok c, host) => (.ok ⟨.connected c, path, {}, control⟩, host)
    | (.error error, host) => (.error error, host.unregister control)

/-- Listen at a path; the peer comes with the first session. -/
def bind (path : String) (host : Host) : Except ChannelError Channel × Host :=
  match host.bind path with
  | (.error error, host) => (.error (.transport error), host)
  | (.ok l, host) =>
    let (control, host) := host.newControl { listenPath := some path }
    (.ok ⟨.listening l none, path, {}, control⟩, host)

def isClosed (channel : Channel) : Bool :=
  match channel.state with
  | .closed => true
  | _ => false

def connection? (channel : Channel) : Option Connection :=
  match channel.state with
  | .connected c => some c
  | .listening _ peer => peer
  | .closed => none

def isConnected (channel : Channel) : Bool := channel.connection?.isSome

def setConnection (channel : Channel) (c : Connection) : Channel :=
  match channel.state with
  | .connected _ => { channel with state := .connected c }
  | .listening l _ => { channel with state := .listening l (some c) }
  | .closed => channel

def address (channel : Channel) : String := s!"unix:{channel.path}"

def stateName (channel : Channel) : String :=
  match channel.state with
  | .connected _ => "connected"
  | .listening _ (some _) => "serving"
  | .listening _ none => "listening"
  | .closed => "closed"

def debugText (channel : Channel) : String :=
  s!"UnixChannel \x7b path: {quotedPath channel.path}, state: \"{channel.stateName}\" \x7d"

/-- Hang up, and stop listening. Closing again does nothing. -/
def close (channel : Channel) (host : Host) : Channel × Host :=
  let closed : Channel := { channel with state := .closed }
  match channel.state with
  | .closed => (channel, host)
  | .connected c => (closed, c.hangUp (host.unregister channel.control))
  | .listening l none => (closed, (host.unregister channel.control).dropListener l)
  | .listening l (some c) =>
    (closed, c.hangUp ((host.unregister channel.control).dropListener l))

/-- Part from a peer that ended the session. A connected channel has nobody left to talk to. -/
def detachPeer (channel : Channel) (host : Host) : Channel × Host :=
  match channel.state with
  | .listening l peer =>
    let host := host.unregister channel.control
    ({ channel with state := .listening l none }, peer.elim host fun c => c.hangUp host)
  | _ => channel.close host

/-- The errors that say no more than that the channel cannot be used. -/
def leavesOpen : ChannelError → Bool
  | .closed | .notConnected => true
  | _ => false

def fail (channel : Channel) (error : ChannelError) (host : Host) : Channel × Host :=
  if leavesOpen error then (channel, host) else channel.close host

def established (channel : Channel) : Except ChannelError Connection :=
  match channel.state with
  | .closed => .error .closed
  | .connected c | .listening _ (some c) => .ok c
  | .listening _ none => .error .notConnected

/-- Limits and timeouts for this and any later connection. If they are refused the channel is
given up. -/
def withConfig (channel : Channel) (config : FrameConfig) (host : Host) :
    Except ChannelError Channel × Host :=
  match channel.established with
  | .error .closed => (.error .closed, host)
  | .error _ => (.ok { channel with config }, host)
  | .ok c =>
    match c.reconfigure config host with
    | (.ok c, host) => (.ok { channel.setConnection c with config }, host)
    | (.error error, host) => (.error error, (channel.close host).2)

/-- Send bytes as one frame, whatever they are. A message over the limit never reached the stream,
so the channel stays open. -/
def sendRaw (channel : Channel) (content : Bytes) (host : Host) :
    Except ChannelError Unit × Channel × Host :=
  match channel.established with
  | .error error => (.error error, channel.fail error host)
  | .ok c =>
    match c.send content host with
    | (.ok _, host) => (.ok (), channel, host)
    | (.error (.frameTooLarge size maximum), host) =>
      (.error (.frameTooLarge size maximum), channel, host)
    | (.error error, host) => (.error error, channel.fail error host)

def send (channel : Channel) (m : Message) (host : Host) :
    Except ChannelError Unit × Channel × Host :=
  channel.sendRaw m.bytes host

/-- The next message. The end of the stream is a failure. -/
def recv (channel : Channel) (host : Host) : Outcome Message × Channel × Host :=
  match channel.established with
  | .error error => (.done (.error error), channel.fail error host)
  | .ok c =>
    let (outcome, c, host) := c.readMessage host
    let channel := channel.setConnection c
    match FrameReader.required outcome with
    | .done (.error error) => (.done (.error error), channel.fail error host)
    | other => (other, channel, host)

/-- The reply to a request already sent. One that fails the check is consumed all the same, and
leaves the channel open. -/
def recvReply (channel : Channel) (request : Message) (host : Host) :
    Outcome Message × Channel × Host :=
  match channel.recv host with
  | (.done (.ok reply), channel, host) =>
    (.done ((checkReply request reply).map fun _ => reply), channel, host)
  | other => other

def call (channel : Channel) (request : Message) (host : Host) :
    Outcome Message × Channel × Host :=
  match channel.send request host with
  | (.ok _, channel, host) => channel.recvReply request host
  | (.error error, channel, host) => (.done (.error error), channel, host)

end Channel

/-- Stops a channel from outside. -/
structure ShutdownHandle where
  control : ControlId
  deriving DecidableEq, Repr

def Channel.shutdownHandle (channel : Channel) : ShutdownHandle := ⟨channel.control⟩

namespace ShutdownHandle

def isRequested (handle : ShutdownHandle) (host : Host) : Bool :=
  (host.control handle.control).isRequested

/-- First of all the request is noted. -/
def request (handle : ShutdownHandle) (host : Host) : Host :=
  host.setControl handle.control { host.control handle.control with isRequested := true }

/-- Then the connection in use, if there is one, is shut down, which wakes whoever reads. -/
def interrupt (handle : ShutdownHandle) (host : Host) : Bool × Host :=
  match (host.control handle.control).active with
  | some s => (true, host.shutdown s .both)
  | none => (false, host)

/-- Otherwise a connection that is dropped at once wakes whoever waits for a peer. -/
def knock (handle : ShutdownHandle) (host : Host) : Host :=
  match (host.control handle.control).listenPath with
  | none => host
  | some path =>
    match host.connect path with
    | (.ok s, host) => host.release s
    | (.error _, host) => host

def shutdown (handle : ShutdownHandle) (host : Host) : Host :=
  match handle.interrupt (handle.request host) with
  | (true, host) => host
  | (false, host) => handle.knock host

end ShutdownHandle
end CallWire
