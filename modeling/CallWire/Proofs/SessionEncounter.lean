import CallWire.Proofs.ServedConnection

/-! A session and its peer as one system. The peer sends, ends the stream and reads as it likes between the steps
of the session; what the session still owes is told by where it is and by the bytes to come. -/

namespace CallWire

namespace Channel

/-- The limits of the connection that the channel has or is going to make. -/
def readLimit (channel : Channel) : Nat := (channel.connection?.elim channel.config (·.reader.config)).maxSize

def writeLimit (channel : Channel) : Nat := (channel.connection?.elim channel.config (·.writer.config)).maxSize

/-- The socket at which a peer can be served from its first byte on: that of the channel's connection, with
nothing buffered, or the first one in its backlog. -/
structure Available (channel : Channel) (host : Host) (s : SocketId) : Prop where
  inRange : s.connection < host.links.length
  steady : (host.link s).Steady
  unrequested : channel.shutdownHandle.isRequested host = false
  peer : match channel.state with
    | .connected c | .listening _ (some c) => c.socket = s ∧ c.reader.buffer = []
    | .listening l none => (∃ rest, (host.listener l).backlog = s :: rest) ∧
        (host.control channel.control).active = none ∧
        Endpoint.checkTimeout channel.config.readTimeout = .ok () ∧
        Endpoint.checkTimeout channel.config.writeTimeout = .ok ()
    | .closed => False

end Channel

/-- A session, and what its peer has done and has yet to do. -/
structure Encounter (ρ : Type) where
  session : Session (ρ × List Message)
  host : Host
  unsent : Bytes
  received : Bytes := []

inductive Move
  | serve
  /-- The peer offers at most so many of the bytes it has yet to send. -/
  | send (count : Nat)
  /-- The peer ends the stream, unless it has more to send. -/
  | finish
  | receive (limit : Nat)

namespace Encounter
variable {ρ : Type}

def start (channel : Channel) (memory : ρ) (host : Host) (unsent : Bytes) : Encounter ρ :=
  ⟨.start channel (memory, []), host, unsent, []⟩

def move (handler : Handler ρ) (s : SocketId) (e : Encounter ρ) : Move → Encounter ρ
  | .serve =>
    let (_, session, host) := e.session.step handler.recording e.host
    { e with session, host }
  | .send count =>
    match (e.host.link s.peer).write (e.unsent.take count) with
    | (.accepted moved, link) => { e with host := e.host.setLink s.peer link, unsent := e.unsent.drop moved }
    | (.failed _, link) => { e with host := e.host.setLink s.peer link }
  | .finish => if e.unsent.isEmpty then { e with host := e.host.shutdown s.peer .writing } else e
  | .receive limit =>
    let (outcome, endpoint) := (e.host.endpoint s.peer).read limit
    { e with host := e.host.setEndpoint s.peer endpoint, received := e.received ++ outcome.content }

def run (handler : Handler ρ) (s : SocketId) (e : Encounter ρ) (moves : List Move) : Encounter ρ :=
  moves.foldl (move handler s) e

def coming (e : Encounter ρ) (s : SocketId) : Bytes := (e.host.endpoint s).inbox ++ e.unsent

/-- All bytes that the session wrote, after those that lay there before. -/
def written (e : Encounter ρ) (s : SocketId) : Bytes := e.received ++ (e.host.endpoint s.peer).inbox

/-- What serving the rest of the stream comes to. -/
def due (handler : Handler ρ) (channel : Channel) (s : SocketId) (buffer : Bytes) (e : Encounter ρ) : Service ρ :=
  let frames := framesOf channel.readLimit (buffer ++ e.coming s)
  serveFrames channel.writeLimit handler frames.2 e.session.memory.1 frames.1

/-- The stream is intact, and the session may go on. -/
structure Flows (channel : Channel) (s : SocketId) (e : Encounter ρ) : Prop where
  steady : (e.host.link s).Steady
  whole : (e.host.endpoint s).isEnded = true → e.unsent = []
  unrequested : e.session.channel.shutdownHandle.isRequested e.host = false
  role : e.session.channel.state.vacated = channel.state.vacated

/-- Nobody is served yet, and the socket would be taken into use. -/
structure Vacant (channel : Channel) (s : SocketId) (l : ListenerId) (e : Encounter ρ) : Prop extends
    e.Flows channel s where
  state : e.session.channel.state = .listening l none
  inactive : (e.host.control e.session.channel.control).active = none
  patient : Endpoint.checkTimeout e.session.channel.config.readTimeout = .ok () ∧
    Endpoint.checkTimeout e.session.channel.config.writeTimeout = .ok ()
  reading : e.session.channel.config.maxSize = channel.readLimit
  writing : e.session.channel.config.maxSize = channel.writeLimit

structure Engaged (channel : Channel) (s : SocketId) (c : Connection) (e : Encounter ρ) : Prop extends
    e.Flows channel s where
  connected : e.session.channel.connection? = some c
  socket : c.socket = s
  reading : c.reader.config.maxSize = channel.readLimit
  writing : c.writer.config.maxSize = channel.writeLimit

/-- What a session on this channel still owes its peer. -/
inductive Owes (handler : Handler ρ) (channel : Channel) (s : SocketId) (e : Encounter ρ) : Service ρ → Prop
  | arriving {l rest} (phase : e.session.phase = .arriving) (vacant : e.Vacant channel s l)
      (backlog : (e.host.listener l).backlog = s :: rest) : Owes handler channel s e (e.due handler channel s [])
  | attaching {l} (phase : e.session.phase = .attaching s) (vacant : e.Vacant channel s l) :
      Owes handler channel s e (e.due handler channel s [])
  | serving {c} (phase : e.session.phase ∈ [.arriving, .checking, .reading]) (engaged : e.Engaged channel s c) :
      Owes handler channel s e (e.due handler channel s c.reader.buffer)
  | parting {c} (phase : e.session.phase ∈ [.leaving, .detaching]) (connected : e.session.channel.connection? = some c)
      (unrequested : e.session.channel.shutdownHandle.isRequested e.host = false)
      (role : e.session.channel.state.vacated = channel.state.vacated) :
      Owes handler channel s e ⟨e.session.memory.1, [], [], .ok ()⟩
  | failing {error} (phase : e.session.phase = .failing error) (fatal : Channel.leavesOpen error = false) :
      Owes handler channel s e ⟨e.session.memory.1, [], [], .error error⟩
  | settled {result} (phase : e.session.phase = .finished result)
      (state : e.session.channel.state = channel.state.afterSession result)
      (inactive : result = .ok () → (e.host.control e.session.channel.control).active = none) :
      Owes handler channel s e ⟨e.session.memory.1, [], [], result⟩

/-- The stream has ended, if the session still reads. -/
def Ending (s : SocketId) (e : Encounter ρ) : Prop :=
  match e.session.phase with
  | .arriving | .attaching _ | .checking | .reading => (e.host.endpoint s).isEnded = true
  | _ => True

/-- The number of bytes that have come and were not served. -/
def held (s : SocketId) (e : Encounter ρ) : Nat :=
  (e.session.channel.connection?.elim 0 fun c => c.reader.buffer.length) + (e.host.endpoint s).inbox.length

/-- A bound on the steps to the end. A message takes two of them and has eight bytes at least. -/
def rank (s : SocketId) (e : Encounter ρ) : Nat :=
  match e.session.phase with
  | .arriving => e.held s + 6
  | .attaching _ => e.held s + 5
  | .checking => e.held s + 4
  | .reading => e.held s + 3
  | .leaving => 2
  | .detaching | .closing | .failing _ => 1
  | .finished _ => 0

/-- Part of what was owed was done, and the rest is still owed. -/
structure Pays (handler : Handler ρ) (channel : Channel) (s : SocketId) (e : Encounter ρ) (service : Service ρ)
    (later : Encounter ρ) : Prop where
  length : later.host.links.length = e.host.links.length
  kin : later.session.channel = { e.session.channel with state := later.session.channel.state }
  owed : ∃ asked replied rest, later.Owes handler channel s rest ∧ service = rest.after asked replied ∧
    later.session.memory.2 = e.session.memory.2 ++ asked ∧
    later.written s = e.written s ++ replied.flatMap (fun m => frameOf m.bytes) ∧
    (asked.length = replied.length ∨ rest.replies = [] ∧ replied.length ≤ asked.length)

/-- What a step of the session does. Where the stream has ended it comes nearer to the end. -/
structure Leads (handler : Handler ρ) (channel : Channel) (s : SocketId) (e : Encounter ρ) (service : Service ρ)
    (pace : Pace) (later : Encounter ρ) : Prop extends e.Pays handler channel s service later where
  progress : e.Ending s → later.Ending s ∧ (e.rank s = 0 ∨ pace = .moves ∧ later.rank s < e.rank s)

theorem Pays.nothing {handler : Handler ρ} {channel : Channel} {s : SocketId} {e later : Encounter ρ}
    {service : Service ρ} (owes : later.Owes handler channel s service)
    (length : later.host.links.length = e.host.links.length)
    (kin : later.session.channel = { e.session.channel with state := later.session.channel.state })
    (memory : later.session.memory = e.session.memory) (written : later.written s = e.written s) :
    e.Pays handler channel s service later :=
  ⟨length, kin, [], [], service, owes, rfl, by simp [memory], by simp [written], .inl rfl⟩

end Encounter
end CallWire
