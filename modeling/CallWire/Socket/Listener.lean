import CallWire.Socket.Error
import CallWire.Socket.Host

/-!
Listening at paths and connecting to them. A listener owns the socket file that was made for it: it
is removed with the listener, unless another file has taken its place. Binding replaces only a
socket file to which nobody listens any more.
-/

namespace CallWire

/-- Addresses hold paths of fewer bytes. -/
def maxSocketPath : Nat := 108

/-- Socket files are for their owner alone unless another mode is asked for. -/
def defaultSocketMode : Nat := 0o600

/-- The mode of a new socket file or directory before it is changed, and of an ordinary file. -/
def newSocketMode : Nat := 0o755

def newFileMode : Nat := 0o644

def holdsNul (path : String) : Bool := path.toList.contains '\x00'

namespace Host

/-- The open listener to which a socket file leads. -/
def listenerOf? (host : Host) (inode : Nat) : Option ListenerId :=
  host.listeners.findIdx? fun l => l.isOpen && l.inode == inode

/-- Connect a new pair of sockets; the far one waits in the backlog. -/
def enqueue (host : Host) (l : ListenerId) : SocketId × Host :=
  let s : SocketId := ⟨host.links.length, false⟩
  let listener := host.listener l
  let joined : Host := { host with links := host.links ++ [({} : Link)] }
  (s, joined.setListener l { listener with backlog := listener.backlog ++ [s.peer] })

/-- Connecting succeeds as soon as there is a listener, accepting or not. -/
def connectTo (host : Host) (path : String) : Except IoError SocketId × Host :=
  if holdsNul path then
    (.error ⟨.invalidInput, "paths must not contain interior null bytes"⟩, host)
  else if maxSocketPath ≤ (Bytes.ofText path).length then
    (.error ⟨.invalidInput, "path must be shorter than SUN_LEN"⟩, host)
  else if path = "" then
    (.error .invalidArgument, host)
  else
    match host.files.lookup path with
    | .error error => (.error error, host)
    | .ok entry =>
      match entry.kind, host.listenerOf? entry.inode with
      | .socket, some l => let (s, host) := host.enqueue l; (.ok s, host)
      | _, _ => (.error .connectionRefused, host)

def connect (host : Host) (path : String) : Except TransportError SocketId × Host :=
  let (result, host) := host.connectTo path
  (result.mapError (.connect path), host)

/-- The oldest connection of the backlog, if there is one. A process has descriptors enough here, so
that neither accepting a connection nor duplicating a socket fails for want of them. -/
def accept (host : Host) (l : ListenerId) : Option SocketId × Host :=
  let listener := host.listener l
  match listener.backlog with
  | [] => (none, host)
  | s :: rest => (some s, host.setListener l { listener with backlog := rest })

def inspectPath (host : Host) (path : String) : Except IoError FileEntry :=
  if holdsNul path then .error ⟨.invalidInput, "file name contained an unexpected NUL byte"⟩
  else host.files.lookup path

/-- Make room at a path: nothing may be there, or a socket that refuses connections, which is
removed. A live listener is found out by connecting to it. -/
def clearPath (host : Host) (path : String) : Except IoError Unit × Host :=
  match host.inspectPath path with
  | .error error => (if error.kind = .notFound then .ok () else .error error, host)
  | .ok entry =>
    if entry.kind ≠ .socket then
      (.error ⟨.alreadyExists, "existing path is not a unix socket"⟩, host)
    else
      match host.connectTo path with
      | (.ok s, host) =>
        (.error ⟨.addrInUse, "socket path is already bound by a live listener"⟩, host.release s)
      | (.error error, host) =>
        if error.kind = .connectionRefused then
          (.ok (), { host with files := host.files.remove entry.place })
        else
          (.error error, host)

/-- Make a socket file and a listener behind it. The empty path names no file, so its mode cannot
be set. -/
def openListener (host : Host) (path : String) (mode : Nat) : Except IoError ListenerId × Host :=
  match host.files.vacancy path with
  | .error error =>
    (.error (if error = .fileExists then .addressInUse else error), host)
  | .ok place =>
    if FileTree.namesDirectory path then
      (.error .noSuchFile, host)
    else
      let host := host.addFile place .socket (mode % 0o10000)
      let l : ListenerId := host.listeners.length
      (.ok l, { host with listeners := host.listeners ++ [{ path, inode := host.lastInode }] })

def bindWithMode (host : Host) (path : String) (mode : Nat) :
    Except TransportError ListenerId × Host :=
  let length := (Bytes.ofText path).length
  if maxSocketPath ≤ length then
    (.error (.pathTooLong path length maxSocketPath), host)
  else
    match host.clearPath path with
    | (.error error, host) => (.error (.bind path error), host)
    | (.ok _, host) =>
      let (result, host) := host.openListener path mode
      (result.mapError (.bind path), host)

def bind (host : Host) (path : String) : Except TransportError ListenerId × Host :=
  host.bindWithMode path defaultSocketMode

/-- Stop listening. Connections that nobody accepted are reset; the file stays. -/
def closeListener (host : Host) (l : ListenerId) : Host :=
  let listener := host.listener l
  let host := listener.backlog.foldl (fun host s => host.onLink s (Link.close true)) host
  host.setListener l { listener with isOpen := false, backlog := [] }

/-- Stop listening, and remove the socket file if it is still the listener's own. -/
def dropListener (host : Host) (l : ListenerId) : Host :=
  let listener := host.listener l
  let isOwn := fun entry : FileEntry => entry.kind = .socket ∧ entry.inode = listener.inode
  let host :=
    match host.inspectPath listener.path with
    | .ok entry =>
      if isOwn entry then { host with files := host.files.remove entry.place } else host
    | .error _ => host
  host.closeListener l

end Host
end CallWire
