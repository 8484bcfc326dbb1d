import CallWire.Channel.Room
import CallWire.Scenario.Handler

/-!
Scenarios: several programs on one host, with names for what they hold. Sessions may go on in the
background. Whoever acts in the foreground waits until the background has come to rest; if all have
to wait, the shortest timeout among them runs out.
-/

namespace CallWire

inductive Resource
  | listener (l : ListenerId)
  | stream (s : SocketId)
  /-- A plain channel is used through what all kinds of channel have in common. -/
  | channel (channel : Channel) (isPlain : Bool)
  | handle (handle : ShutdownHandle)
  /-- A channel that serves in the background. -/
  | serving (session : Session HandlerScript) (isPlain : Bool)

structure Scenario where
  host : Host := {}
  resources : List (String × Resource) := []

namespace Scenario

def find? (scenario : Scenario) (name : String) : Option Resource := scenario.resources.lookup name

def put (scenario : Scenario) (name : String) (resource : Resource) : Scenario :=
  let others := scenario.resources.filter fun entry => entry.1 ≠ name
  { scenario with resources := others ++ [(name, resource)] }

def forget (scenario : Scenario) (name : String) : Scenario :=
  { scenario with resources := scenario.resources.filter fun entry => entry.1 ≠ name }

def dispose (host : Host) : Resource → Host
  | .listener l => host.dropListener l
  | .stream s => host.release s
  | .channel channel _ => (channel.close host).2
  | .handle _ => host
  | .serving session _ => (session.channel.close host).2

def drop (scenario : Scenario) (name : String) : Bool × Scenario :=
  match scenario.find? name with
  | none => (false, scenario)
  | some resource => (true, { scenario.forget name with host := dispose scenario.host resource })

/-- Name a new resource. What had the name before is dropped only now. -/
def adopt (scenario : Scenario) (name : String) (resource : Resource) : Scenario :=
  (scenario.drop name).2.put name resource

def runResource (host : Host) : Resource → Resource × Host
  | .serving session isPlain =>
    let (_, session, host) := session.goOn socketBuffer HandlerScript.handler host
    (.serving session isPlain, host)
  | resource => (resource, host)

/-- Let every background session go on, in the order of their names' appearance. -/
def runAll (host : Host) : List (String × Resource) → List (String × Resource) × Host
  | [] => ([], host)
  | (name, resource) :: rest =>
    let (resource, host) := runResource host resource
    let (rest, host) := runAll host rest
    ((name, resource) :: rest, host)

def runRounds : Nat → Scenario → Scenario
  | 0, scenario => scenario
  | rounds + 1, scenario =>
    let (resources, host) := runAll scenario.host scenario.resources
    runRounds rounds ⟨host, resources⟩

/-- The replies that a background session has up its sleeve. -/
def repliesLeft : Resource → Nat
  | .serving session _ => session.memory.pending.length
  | _ => 0

/-- Let the background come to rest. One session sets another one going again only by a reply of
its script or by ending. -/
def settle (scenario : Scenario) : Scenario :=
  let replies := total (scenario.resources.map fun entry => repliesLeft entry.2)
  runRounds (scenario.resources.length + replies + 1) scenario

def waitingSocket? : Resource → Option SocketId
  | .serving session _ =>
    match session.phase with
    | .finished _ => none
    | _ => session.channel.connection?.map (·.socket)
  | _ => none

/-- The milliseconds that whoever waits at a socket was given, to write if it still writes. -/
def patience? (host : Host) (s : SocketId) : Option Nat :=
  if (host.link s).isHeld socketBuffer then (host.endpoint s).writeTimeout
  else (host.endpoint s).readTimeout

/-- The sockets at which someone waits, with the time each has left. -/
def timers (scenario : Scenario) (foreground : Option SocketId) : List (Nat × SocketId) :=
  let sockets := foreground.toList ++ scenario.resources.filterMap fun entry => waitingSocket? entry.2
  sockets.filterMap fun s => (patience? scenario.host s).map fun time => (time, s)

/-- The timer that runs out first; of several the one listed first. -/
def firstTimer? : List (Nat × SocketId) → Option (Nat × SocketId)
  | [] => none
  | timer :: rest =>
    match firstTimer? rest with
    | some other => if other.1 < timer.1 then some other else some timer
    | none => some timer

/-- Everybody waits: let the shortest timeout run out. -/
def expire (scenario : Scenario) (foreground : Option SocketId) : Scenario :=
  match firstTimer? (scenario.timers foreground) with
  | none => scenario
  | some (_, s) =>
    let e := scenario.host.endpoint s
    let e := if (scenario.host.link s).isHeld socketBuffer then e.expireWriting else e.expire
    { scenario with host := scenario.host.setEndpoint s e }

/-- Something done in the foreground: one attempt, and where it waits. -/
structure Attempt (σ α : Type) where
  attempt : σ → Host → Outcome α × σ × Host
  socket? : σ → Option SocketId

variable {σ α : Type}

/-- Try again until it is done; `patience` bounds the timeouts that may run out meanwhile. -/
def await (act : Attempt σ α) : Nat → σ → Scenario → Outcome α × σ × Scenario
  | patience, state, scenario =>
    match act.attempt state scenario.host with
    | (.done result, state, host) => (.done result, state, { scenario with host })
    | (.waiting, state, host) =>
      let scenario := ({ scenario with host } : Scenario).settle
      match act.attempt state scenario.host with
      | (.done result, state, host) => (.done result, state, { scenario with host })
      | (.waiting, state, host) =>
        let scenario := ({ scenario with host } : Scenario).expire (act.socket? state)
        match patience with
        | 0 => (.waiting, state, scenario)
        | patience + 1 => await act patience state scenario

/-- Every timeout that runs out ends a session or the act in the foreground. -/
def perform (act : Attempt σ α) (state : σ) (scenario : Scenario) : Outcome α × σ × Scenario :=
  await act (scenario.resources.length + 1) state scenario

def writeAttempt : Attempt SocketId Unit where
  attempt s host :=
    let (outcome, link) := (host.link s).resume socketBuffer
    (outcome, s, host.setLink s link)
  socket? := some

def sendAttempt : Attempt Channel Unit where
  attempt channel host := channel.resume socketBuffer host
  socket? channel := channel.connection?.map (·.socket)

def recvAttempt : Attempt Channel Message where
  attempt channel host := channel.recv host
  socket? channel := channel.connection?.map (·.socket)

def replyAttempt (request : Message) : Attempt Channel Message where
  attempt channel host := channel.recvReply request host
  socket? channel := channel.connection?.map (·.socket)

def sessionAttempt : Attempt (Session HandlerScript) Unit where
  attempt session host := session.goOn socketBuffer HandlerScript.handler host
  socket? session := session.channel.connection?.map (·.socket)

end Scenario
end CallWire
