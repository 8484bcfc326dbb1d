import CallWire.Channel.Error
import CallWire.Frame.Reader
import CallWire.Frame.Writer
import CallWire.Socket.Listener

/-!
A connection in use by a channel: a socket with a frame reader and a frame writer, each with a
descriptor of its own. A third descriptor is registered with the channel's control, so that a
shutdown handle can reach the connection.
-/

namespace CallWire

namespace Host

def unregister (host : Host) (c : ControlId) : Host :=
  match (host.control c).active with
  | none => host
  | some s => (host.setControl c { host.control c with active := none }).release s

/-- Register a further descriptor of a socket in place of any earlier one. -/
def register (host : Host) (c : ControlId) (s : SocketId) : Host :=
  let host := (host.unregister c).duplicate s
  host.setControl c { host.control c with active := some s }

end Host

structure Connection where
  socket : SocketId
  reader : FrameReader
  writer : FrameWriter
  deriving DecidableEq, Repr

namespace Connection

def drop (c : Connection) (host : Host) : Host := (host.release c.socket).release c.socket

/-- Take a socket into use. It is registered before its timeouts are set; if those are refused the
socket stays registered, and its other descriptors are closed. There are always descriptors for the
duplicates, so that nothing but the timeouts can be refused. -/
def attach (host : Host) (s : SocketId) (config : FrameConfig) (control : ControlId) :
    Except ChannelError Connection × Host :=
  let c : Connection := ⟨s, { config }, { config }⟩
  let host := (host.duplicate s).register control s
  match host.setTimeouts s config.readTimeout config.writeTimeout with
  | (.ok _, host) => (.ok c, host)
  | (.error error, host) => (.error (.transport (.io error)), c.drop host)

/-- Change limits and timeouts. What the reader has buffered stays. -/
def reconfigure (c : Connection) (config : FrameConfig) (host : Host) :
    Except ChannelError Connection × Host :=
  match host.setTimeouts c.socket config.readTimeout config.writeTimeout with
  | (.ok _, host) =>
    (.ok { c with reader := { c.reader with config }, writer := { config } }, host)
  | (.error error, host) => (.error (.transport (.io error)), host)

/-- The next valid message, or `none` where the stream ends between frames. -/
def readMessage (c : Connection) (host : Host) : Outcome (Option Message) × Connection × Host :=
  let (outcome, reader, endpoint) := c.reader.tryRead (host.endpoint c.socket)
  let message : Outcome (Option Message) :=
    match outcome with
    | .done (.ok (some frame)) => .done ((messageOfFrame frame).map some)
    | .done (.ok none) => .done (.ok none)
    | .done (.error error) => .done (.error error)
    | .waiting => .waiting
  (message, { c with reader }, host.setEndpoint c.socket endpoint)

def send (c : Connection) (content : Bytes) (host : Host) : Except ChannelError Unit × Host :=
  let (result, link) := c.writer.send content (host.link c.socket)
  (result, host.setLink c.socket link)

def hangUp (c : Connection) (host : Host) : Host := c.drop (host.shutdown c.socket .both)

end Connection
end CallWire
