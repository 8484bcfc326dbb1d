import CallWire.Cli.Program
import CallWire.Scenario.Step

/-!
Trials: a run of the program among others that are laid down in advance. A peer listens for a call
and answers its requests; clients come to a server one after the other. Whenever the program has to
wait, the others act.
-/

namespace CallWire

structure PeerReply where
  /-- What is written after a request was read. -/
  content : Bytes
  /-- Then wait for the caller to leave. -/
  hangs : Bool := false
  deriving DecidableEq, Repr

inductive PeerPhase
  | listening
  | answering (s : SocketId) (reader : FrameReader)
  | hanging (s : SocketId) (reader : FrameReader)
  | gone
  deriving DecidableEq, Repr

structure Peer where
  listener : ListenerId
  replies : List PeerReply
  phase : PeerPhase := .listening
  requests : List Bytes := []
  deriving DecidableEq, Repr

namespace Peer

def leave (peer : Peer) (s : SocketId) (host : Host) : Pace × Peer × Host :=
  (.moves, { peer with phase := .gone }, (host.release s).closeListener peer.listener)

def answerNext (peer : Peer) (s : SocketId) (reader : FrameReader) (reply : PeerReply)
    (rest : List PeerReply) (host : Host) : Pace × Peer × Host :=
  let (outcome, reader, e) := reader.read (host.endpoint s)
  let host := host.setEndpoint s e
  match outcome with
  | .waiting => (.waits, { peer with phase := .answering s reader }, host)
  | .done (.error _) => peer.leave s host
  | .done (.ok request) =>
    let (_, link) := Scenario.writeAll reply.content.length reply.content (host.link s)
    let phase : PeerPhase := if reply.hangs then .hanging s reader else .answering s reader
    (.moves, { peer with phase, replies := rest, requests := peer.requests ++ [request] },
      host.setLink s link)

def step (peer : Peer) (host : Host) : Pace × Peer × Host :=
  match peer.phase with
  | .gone => (.waits, peer, host)
  | .listening =>
    match host.accept peer.listener with
    | (none, host) => (.waits, peer, host)
    | (some s, host) => (.moves, { peer with phase := .answering s {} }, host)
  | .answering s reader =>
    match peer.replies with
    | [] => peer.leave s host
    | reply :: rest => peer.answerNext s reader reply rest host
  | .hanging s reader =>
    let (yield, e) := Scenario.drain ((host.endpoint s).weight + 2) [] (host.endpoint s)
    let host := host.setEndpoint s e
    match yield with
    | .arrived _ (.ok false) => (.waits, peer, host)
    | _ => (.moves, { peer with phase := .answering s reader }, host)

def advance : Nat → Peer → Host → Peer × Host
  | 0, peer, host => (peer, host)
  | steps + 1, peer, host =>
    match peer.step host with
    | (.moves, peer, host) => advance steps peer host
    | (.waits, peer, host) => (peer, host)

/-- Two steps for every reply, one to come and one to leave. -/
def run (peer : Peer) (host : Host) : Peer × Host :=
  advance (2 * peer.replies.length + 3) peer host

end Peer

/-- What clients send to a server, each in a session of its own. -/
structure ClientScript where
  path : String
  sessions : List Bytes
  /-- At last the server is interrupted. -/
  interrupts : Bool := false
  deriving DecidableEq, Repr

structure Trial where
  arguments : List String
  file : Option String := none
  peer : Option (String × List PeerReply) := none
  clients : Option ClientScript := none
  watched : Option String := none

structure TrialReport where
  output : Output
  requests : Option (List Bytes) := none
  replies : Option (List Bytes) := none
  isThere : Option Bool := none

namespace Trial

/-- One client: connect, send, end the sending side, and read until the server ends the session. -/
def visit (path : String) (content : Bytes) (running : Running) (host : Host) :
    Bytes × Running × Host :=
  match host.connect path with
  | (.error _, host) => ([], running, host)
  | (.ok s, host) =>
    let (_, link) := Scenario.writeAll content.length content (host.link s)
    let (running, host) := running.advance ((host.setLink s link).shutdown s .writing)
    let e := host.endpoint s
    let (yield, e) := Scenario.drain (e.weight + 2) [] e
    let received :=
      match yield with
      | .arrived content _ => content
      | _ => []
    (received, running, (host.setEndpoint s e).release s)

def visitAll (path : String) : List Bytes → Running → Host → List Bytes × Running × Host
  | [], running, host => ([], running, host)
  | content :: rest, running, host =>
    let (received, running, host) := visit path content running host
    let (others, running, host) := visitAll path rest running host
    (received :: others, running, host)

/-- The host before the program starts, with the peer that listens. -/
def prepare (trial : Trial) : Option Peer × Host :=
  let host : Host := {}
  let host :=
    match trial.file with
    | none => host
    | some name =>
      match host.files.vacancy name with
      | .ok place => host.addFile place .regular newFileMode
      | .error _ => host
  match trial.peer with
  | none => (none, host)
  | some (path, replies) =>
    match host.openListener path newSocketMode with
    | (.ok listener, host) => (some { listener, replies }, host)
    | (.error _, host) => (none, host)

def actPeer (peer : Option Peer) (host : Host) : Option Peer × Host :=
  match peer with
  | none => (none, host)
  | some peer =>
    let (peer, host) := peer.run host
    (some peer, host)

def run (trial : Trial) : TrialReport :=
  let (peer, host) := trial.prepare
  let (running, host) := Running.start trial.arguments host
  let (running, host) := running.advance host
  let (peer, host) := actPeer peer host
  let (running, host) := running.advance host
  let (replies, running, host) :=
    match trial.clients with
    | none => (none, running, host)
    | some script =>
      let (replies, running, host) := visitAll script.path script.sessions running host
      let (running, host) := if script.interrupts then running.interrupt host else (running, host)
      (some replies, running, host)
  let (output, host) := running.finishAlone host
  let (peer, host) := actPeer peer host
  { output, replies
    requests := trial.peer.map fun _ => peer.elim [] (·.requests)
    isThere := trial.watched.map fun path => (host.inspectPath path).toOption.isSome }

end Trial
end CallWire
