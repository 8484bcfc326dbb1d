import CallWire.Socket.Files
import CallWire.Socket.Link

/-!
A host is where programs meet: its connections, its listeners, its files, and what channels share
with the handles that stop them. A socket is one side of a connection.
-/

namespace CallWire

structure SocketId where
  connection : Nat
  /-- The side that a listener accepts, not the one that connected. -/
  isAccepted : Bool
  deriving DecidableEq, Repr

namespace SocketId

def peer (s : SocketId) : SocketId := { s with isAccepted := !s.isAccepted }

end SocketId

structure Listener where
  path : String
  /-- The number of the socket file that was made for it. -/
  inode : Nat
  isOpen : Bool := true
  /-- Connections that wait to be accepted, the oldest first. -/
  backlog : List SocketId := []
  deriving DecidableEq, Repr

abbrev ListenerId := Nat

/-- What a channel shares with its shutdown handles. -/
structure Control where
  isRequested : Bool := false
  /-- A descriptor of the connection that the channel is using. -/
  active : Option SocketId := none
  /-- Where to knock to wake a listening channel. -/
  listenPath : Option String := none
  deriving DecidableEq, Repr

abbrev ControlId := Nat

structure Host where
  /-- Every connection ever made, seen from the side that connected. -/
  links : List Link := []
  listeners : List Listener := []
  files : FileTree := []
  controls : List Control := []
  lastInode : Nat := 0
  deriving DecidableEq, Repr

namespace Host

def link (host : Host) (s : SocketId) : Link :=
  let l := host.links.getD s.connection {}
  if s.isAccepted then l.swap else l

def setLink (host : Host) (s : SocketId) (l : Link) : Host :=
  { host with links := host.links.set s.connection (if s.isAccepted then l.swap else l) }

def onLink (host : Host) (s : SocketId) (change : Link → Link) : Host :=
  host.setLink s (change (host.link s))

def endpoint (host : Host) (s : SocketId) : Endpoint := (host.link s).near

def setEndpoint (host : Host) (s : SocketId) (e : Endpoint) : Host :=
  host.onLink s fun l => { l with near := e }

def duplicate (host : Host) (s : SocketId) : Host := host.onLink s Link.duplicate

def release (host : Host) (s : SocketId) : Host := host.onLink s Link.release

def shutdown (host : Host) (s : SocketId) (direction : Direction) : Host :=
  host.onLink s (Link.shutdown direction)

/-- The reading side's timeout is tried first; one that is refused leaves the other alone. -/
def setTimeouts (host : Host) (s : SocketId) (reading writing : Option Nat) :
    Except IoError Unit × Host :=
  match (host.endpoint s).setReadTimeout reading with
  | .error error => (.error error, host)
  | .ok e =>
    match e.setWriteTimeout writing with
    | .error error => (.error error, host.setEndpoint s e)
    | .ok e => (.ok (), host.setEndpoint s e)

def control (host : Host) (c : ControlId) : Control := host.controls.getD c {}

def setControl (host : Host) (c : ControlId) (control : Control) : Host :=
  { host with controls := host.controls.set c control }

def newControl (host : Host) (control : Control) : ControlId × Host :=
  (host.controls.length, { host with controls := host.controls ++ [control] })

def listener (host : Host) (l : ListenerId) : Listener :=
  host.listeners.getD l { path := "", inode := 0, isOpen := false }

def setListener (host : Host) (l : ListenerId) (listener : Listener) : Host :=
  { host with listeners := host.listeners.set l listener }

def addFile (host : Host) (place : List String) (kind : FileKind) (mode : Nat) : Host :=
  let inode := host.lastInode + 1
  { host with files := host.files ++ [⟨place, inode, kind, mode⟩], lastInode := inode }

/-- All bytes that were written and not read. -/
def inFlight (host : Host) : Nat :=
  total (host.links.map fun l => l.near.inbox.length + l.far.inbox.length)

end Host
end CallWire
