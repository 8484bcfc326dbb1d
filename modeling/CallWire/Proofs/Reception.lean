import CallWire.Proofs.PeerMoves
import CallWire.Proofs.ServerTurnover

/-! A server and the peers that come to it one after the other. A peer connects when the session of the last has ended, and
may go on reading while the next is served. What each of them receives is decided by its own bytes. -/

namespace CallWire

/-- A peer of a server: the server's end of its connection, what it sends in all and has yet to send, and what it received. -/
structure Visitor where
  socket : SocketId
  stream : Bytes
  unsent : Bytes
  received : Bytes := []

namespace Visitor

def endpoint (v : Visitor) (host : Host) : Endpoint := host.endpoint v.socket.peer

/-- The server has ended the session. -/
def isDismissed (v : Visitor) (host : Host) : Bool := (v.endpoint host).isEnded

def encounter (v : Visitor) (server : Server) (host : Host) : Encounter Unit :=
  ⟨server.session.recorded [], host, v.unsent, v.received⟩

end Visitor

/-- A server, the peers that have come to it, and the streams of those who are still to come. -/
structure Reception where
  server : Server
  host : Host
  visitors : List Visitor := []
  coming : List Bytes

namespace Reception

inductive Move
  /-- The server takes a step. -/
  | serve
  /-- The server goes on until there is nothing to do. -/
  | run
  /-- The next peer tries to connect, if no session is going on. -/
  | connect
  /-- One of the peers sends some of its bytes. -/
  | send (who count : Nat)
  | finish (who : Nat)
  | receive (who count : Nat)
  /-- One of the peers closes its end, if it has read all there is. -/
  | leave (who : Nat)

def act (x : Reception) (who : Nat) (m : CallWire.Move) : Reception :=
  match x.visitors[who]? with
  | none => x
  | some v =>
    let e := (v.encounter x.server x.host).move echoHandler v.socket m
    { x with host := e.host, visitors := x.visitors.set who { v with unsent := e.unsent, received := e.received } }

def welcome (x : Reception) : Reception :=
  match x.coming with
  | [] => x
  | stream :: rest =>
    match x.host.connect x.server.path with
    | (.error _, host) => { x with host }
    | (.ok s, host) =>
      { x with host, visitors := x.visitors ++ [{ socket := s.peer, stream, unsent := stream }], coming := rest }

def move (x : Reception) : Move → Reception
  | .serve =>
    let (server, host) := x.server.step x.host
    { x with server, host }
  | .run =>
    let (server, host) := x.server.run x.host
    { x with server, host }
  | .connect => if x.visitors.all (·.isDismissed x.host) then x.welcome else x
  | .send who count => x.act who (.send (count + 1))
  | .finish who => x.act who .finish
  | .receive who count => x.act who (.receive (count + 1))
  | .leave who =>
    match x.visitors[who]? with
    | none => x
    | some v =>
      if v.isDismissed x.host && (v.endpoint x.host).inbox.isEmpty then { x with host := x.host.release v.socket.peer } else x

def run (x : Reception) (moves : List Move) : Reception := moves.foldl move x

end Reception

/-- The service of a stream by a server. -/
def echoServiceOf (stream : Bytes) : Service Unit :=
  ⟨(), leadingRequests (framesOf defaultMaxFrameSize stream).1,
    (leadingRequests (framesOf defaultMaxFrameSize stream).1).map echoOf, sessionResult defaultMaxFrameSize stream⟩

/-- What the peers receive. A server that serves once has nothing for those who come later. -/
def echoesFor (once : Bool) (who : Nat) (stream : Bytes) : Bytes :=
  if once && who != 0 then [] else echoesOf defaultMaxFrameSize stream

namespace Visitor

/-- Calls at the peer's end go without disturbance. -/
def IsUndisturbed (v : Visitor) (host : Host) : Prop :=
  (v.endpoint host).readTurns = [] ∧ (v.endpoint host).writeTurns = []

/-- The session is over, and the answer is there. -/
structure Served (v : Visitor) (host : Host) (answer : Bytes) : Prop where
  dismissed : v.isDismissed host
  answered : v.received ++ (v.endpoint host).inbox = answer
  undisturbed : v.IsUndisturbed host

/-- The peer waits to be accepted. -/
structure Queued (v : Visitor) (host : Host) : Prop where
  inRange : v.socket.connection < host.links.length
  steady : (host.link v.socket).Steady
  whole : (host.endpoint v.socket).isEnded = true → v.unsent = []
  stream : (host.endpoint v.socket).inbox ++ v.unsent = v.stream
  nothing : v.received ++ (v.endpoint host).inbox = []
  undisturbed : v.IsUndisturbed host

/-- The session is the peer's own, from its arrival to the end. -/
structure Tended (v : Visitor) (server : Server) (host : Host) (channel : Channel) (l : ListenerId)
    (asked : List Message) : Prop where
  going : server.ended = none
  unstopped : server.isStopped = false
  plain : channel.config = {}
  known : channel.control < host.controls.length
  faithful : Encounter.Faithful echoHandler channel v.socket (echoServiceOf v.stream) []
    ⟨server.session.recorded asked, host, v.unsent, v.received⟩
  attends : server.session.Attends server.path l v.socket host
  undisturbed : v.IsUndisturbed host

/-- The peer is being served. -/
structure Engaged (v : Visitor) (server : Server) (host : Host) : Prop where
  unfinished : ∀ result, server.session.phase ≠ .finished result
  tended : ∃ channel l asked, v.Tended server host channel l asked

/-- The server knows that nothing more comes, or has stopped reading. -/
def IsEnding (v : Visitor) (server : Server) (host : Host) : Prop := (v.encounter server host).Ending v.socket

/-- A bound on the steps to the end of the session. -/
def distance (v : Visitor) (server : Server) (host : Host) : Nat := (v.encounter server host).rank v.socket

/-- These peers have come first, and have been served. -/
def ServedInTurn (once : Bool) (host : Host) (visitors : List Visitor) : Prop :=
  ∀ (who : Nat) (v : Visitor), visitors[who]? = some v → v.Served host (echoesFor once who v.stream)

end Visitor

namespace Reception
open Visitor (ServedInTurn)

/-- Whom the server has served, and whom it is serving. -/
inductive Stance (once : Bool) (x : Reception) : Prop
  | idle (idle : x.server.Idle x.host) (served : ServedInTurn once x.host x.visitors)
      (fresh : once = true → (x.server.session.phase = .arriving ↔ x.visitors = []))
  | queued {former : List Visitor} {v : Visitor} {l : ListenerId} (all : x.visitors = former ++ [v])
      (served : ServedInTurn once x.host former) (phase : x.server.session.phase = .finished (.ok ()))
      (listens : x.server.Listens x.host l [v.socket]) (queued : v.Queued x.host) (late : once = true → former ≠ [])
  | engaged {former : List Visitor} {v : Visitor} (all : x.visitors = former ++ [v])
      (served : ServedInTurn once x.host former) (engaged : v.Engaged x.server x.host) (first : once = true → former = [])

/-- The connections of the peers that have come. -/
def connections (x : Reception) : List Nat := x.visitors.map fun v => v.socket.connection

/-- Every peer has a connection of its own, and so far all went as it should. -/
structure Sound (once : Bool) (streams : List Bytes) (x : Reception) : Prop where
  kind : x.server.once = once
  split : x.visitors.map Visitor.stream ++ x.coming = streams
  apart : x.connections.Nodup
  inRange : ∀ c ∈ x.connections, c < x.host.links.length
  lasting : once = false → x.server.ended = none
  verdict : once = true → ∀ result, x.server.session.phase = .finished result →
    ∃ stream, streams.head? = some stream ∧ result = sessionResult defaultMaxFrameSize stream
  stance : x.Stance once

end Reception

namespace Visitor
variable {v w : Visitor} {host after : Host} {once : Bool} {former : List Visitor} {s : SocketId} {server : Server}

theorem Served.of_endpoint {answer : Bytes} (served : v.Served host answer) (same : v.endpoint after = v.endpoint host) :
    v.Served after answer := by
  obtain ⟨dismissed, answered, undisturbed⟩ := served
  refine ⟨?_, ?_, ?_⟩
  · rw [isDismissed, same]
    exact dismissed
  · rw [same]
    exact answered
  · rw [IsUndisturbed, same]
    exact undisturbed

theorem ServedInTurn.of_spares (served : ServedInTurn once host former) (spares : host.Spares s after)
    (others : ∀ v ∈ former, v.socket.connection ≠ s.connection) : ServedInTurn once after former := by
  intro who v found
  have member := List.mem_of_getElem? found
  exact (served who v found).of_endpoint (spares.others v.socket.peer (others v member))

/-- Whoever is there is the last, or was there before the last came. -/
theorem former_or_last {who : Nat} (found : (former ++ [v])[who]? = some w) :
    former[who]? = some w ∨ who = former.length ∧ w = v := by
  by_cases earlier : who < former.length
  · rw [List.getElem?_append_left earlier] at found
    exact .inl found
  · have inside := (List.getElem?_eq_some_iff.mp found).1
    rw [List.length_append, List.length_singleton] at inside
    obtain rfl : who = former.length := by omega
    rw [List.getElem?_concat_length] at found
    exact .inr ⟨rfl, (Option.some.inj found).symm⟩

theorem ServedInTurn.concat (served : ServedInTurn once host former)
    (last : v.Served host (echoesFor once former.length v.stream)) : ServedInTurn once host (former ++ [v]) := by
  intro who w found
  obtain found | ⟨rfl, rfl⟩ := former_or_last found
  · exact served who w found
  · exact last

theorem ServedInTurn.dismissed (served : ServedInTurn once host former) : former.all (·.isDismissed host) := by
  rw [List.all_eq_true]
  intro v member
  obtain ⟨who, found⟩ := List.getElem?_of_mem member
  exact (served who v found).dismissed

theorem connection_ne {who other : Nat} (apart : (former.map fun v => v.socket.connection).Nodup)
    (found : former[who]? = some v) (present : former[other]? = some w) (different : who ≠ other) :
    w.socket.connection ≠ v.socket.connection := by
  intro same
  have one : (former.map fun v => v.socket.connection)[who]? = some v.socket.connection := by
    rw [List.getElem?_map, found]
    rfl
  have two : (former.map fun v => v.socket.connection)[other]? = some v.socket.connection := by
    rw [List.getElem?_map, present]
    exact congrArg some same
  have inside := (List.getElem?_eq_some_iff.mp one).1
  exact different ((List.getElem?_inj inside apart).mp (one.trans two.symm))

/-- One of those who were served does something more. -/
theorem ServedInTurn.set {who : Nat} (served : ServedInTurn once host former) (found : former[who]? = some v)
    (spares : host.Spares v.socket after) (apart : (former.map fun v => v.socket.connection).Nodup)
    (still : w.Served after (echoesFor once who w.stream)) : ServedInTurn once after (former.set who w) := by
  intro other u present
  have inside := (List.getElem?_eq_some_iff.mp found).1
  rw [List.getElem?_set] at present
  split at present
  · rename_i same
    subst same
    cases present
    exact still
  · rename_i different
    exact (served other u present).of_endpoint (spares.others u.socket.peer (connection_ne apart found present different))

theorem Queued.elsewhere {t : SocketId} (queued : v.Queued host) (other : t.connection ≠ v.socket.connection) (l : Link) :
    v.Queued (host.setLink t l) := by
  obtain ⟨inRange, steady, whole, stream, nothing, undisturbed⟩ := queued
  have link : (host.setLink t l).link v.socket = host.link v.socket := Host.link_setLink_of_ne other l
  have near : (host.setLink t l).endpoint v.socket = host.endpoint v.socket := congrArg Link.near link
  have far : v.endpoint (host.setLink t l) = v.endpoint host := Host.endpoint_setLink_of_ne (p := v.socket.peer) other l
  refine ⟨(Host.setLink_length ..).symm ▸ inRange, link.symm ▸ steady, near.symm ▸ whole, near.symm ▸ stream,
    far.symm ▸ nothing, ?_⟩
  rw [IsUndisturbed, far]
  exact undisturbed

theorem encounter_elsewhere {t : SocketId} (other : t.connection ≠ v.socket.connection) (l : Link) :
    (v.IsEnding server (host.setLink t l) ↔ v.IsEnding server host) ∧
      v.distance server (host.setLink t l) = v.distance server host := by
  have near : (host.setLink t l).endpoint v.socket = host.endpoint v.socket := Host.endpoint_setLink_of_ne other l
  unfold IsEnding distance encounter Encounter.Ending Encounter.rank Encounter.held
  dsimp only
  rw [near]
  exact ⟨Iff.rfl, rfl⟩

theorem Engaged.elsewhere {t : SocketId} (engaged : v.Engaged server host) (other : t.connection ≠ v.socket.connection)
    (l : Link) : v.Engaged server (host.setLink t l) := by
  obtain ⟨unfinished, channel, l', asked, going, unstopped, plain, known, faithful, attends, undisturbed⟩ := engaged
  have far : v.endpoint (host.setLink t l) = v.endpoint host := Host.endpoint_setLink_of_ne (p := v.socket.peer) other l
  refine ⟨unfinished, channel, l', asked, going, unstopped, plain, known, faithful.elsewhere other l, ?_, ?_⟩
  · exact attends.of_same ⟨rfl, rfl, rfl⟩ rfl (congrArg Endpoint.isEnded far)
  · rw [IsUndisturbed, far]
    exact undisturbed

end Visitor
end CallWire
