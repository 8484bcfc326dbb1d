import CallWire.Proofs.IncomingFrames
import Mathlib

/-! Receiving is first in, first out. However receiving and calling, sending and configuring follow on each other, each
time that a frame is obtained it is the next one of the stream; a reply that is refused is consumed like any other. -/

namespace CallWire

/-- What came of one attempt to receive. -/
structure Receipt where
  /-- What the reply has to answer, in a call. -/
  request? : Option Message := none
  frame? : Option Bytes
  outcome : Outcome Message

/-- A message is returned just if the frame holds it and, in a call, it is the response to the request. -/
def Receipt.IsSound (receipt : Receipt) : Prop :=
  ∀ m, receipt.outcome = .done (.ok m) ↔
    ∃ frame, receipt.frame? = some frame ∧ messageOfFrame frame = .ok m ∧
      ∀ request, receipt.request? = some request → m.type = .ok .response ∧ m.callId = request.callId

/-- The attempts to receive that the operation makes. A call makes one if the request was sent. -/
def ChannelOperation.receipts (op : ChannelOperation) (channel : Channel) (host : Host) : List Receipt :=
  match op with
  | send _ | sendRaw _ => []
  | recv => [⟨none, channel.frame? host, (channel.recv host).1⟩]
  | recvReply request => [⟨some request, channel.frame? host, (channel.recvReply request host).1⟩]
  | call request =>
    match channel.send request host with
    | (.ok _, next, after) => [⟨some request, next.frame? after, (channel.call request host).1⟩]
    | (.error _, _, _) => []

/-- The frames that were obtained, in order. -/
def framesIn (receipts : List Receipt) : List Bytes := receipts.filterMap Receipt.frame?

theorem framesIn_singleton (receipt : Receipt) : framesIn [receipt] = receipt.frame?.toList := by
  cases found : receipt.frame? with
  | none => simp [framesIn, found]
  | some frame => simp [framesIn, found]

namespace Channel
variable {channel : Channel} {host : Host}

theorem frame?_proper {frame : Bytes} (found : channel.frame? host = some frame) : IsProper frame := by
  obtain ⟨c, -, given⟩ := Option.bind_eq_some_iff.mp found
  exact c.frame?_proper given

theorem recv_sound (channel : Channel) (host : Host) :
    Receipt.IsSound ⟨none, channel.frame? host, (channel.recv host).1⟩ := by
  intro m
  rw [channel.recv_message host m]
  simp

theorem recvReply_sound (channel : Channel) (host : Host) (request : Message) :
    Receipt.IsSound ⟨some request, channel.frame? host, (channel.recvReply request host).1⟩ := by
  intro m
  rw [channel.recvReply_message host request m, channel.recv_message host m]
  simp [← and_assoc, exists_and_right]

/-- What was obtained was taken off the stream, and no more; and each attempt has its receipt. -/
structure Obtains (channel : Channel) (host : Host) (new : List Receipt) (next : Channel) (after : Host) : Prop where
  takes : channel.Takes host (framesIn new) next after
  sound : ∀ receipt ∈ new, receipt.IsSound
  proper : ∀ frame ∈ framesIn new, IsProper frame

theorem Takes.obtains_nothing {next : Channel} {after : Host} (takes : channel.Takes host [] next after) :
    channel.Obtains host [] next after :=
  ⟨takes, List.forall_mem_nil _, List.forall_mem_nil _⟩

theorem recv_obtains (inRange : channel.InRange host) :
    channel.Obtains host [⟨none, channel.frame? host, (channel.recv host).1⟩] (channel.recv host).2.1
      (channel.recv host).2.2 := by
  refine ⟨?_, List.forall_mem_singleton.mpr (channel.recv_sound host), ?_⟩
  all_goals rw [framesIn_singleton]
  · exact recv_takes inRange
  · exact fun frame found => frame?_proper (Option.mem_toList.mp found)

theorem recvReply_obtains (inRange : channel.InRange host) (request : Message) :
    channel.Obtains host [⟨some request, channel.frame? host, (channel.recvReply request host).1⟩]
      (channel.recvReply request host).2.1 (channel.recvReply request host).2.2 := by
  refine ⟨?_, List.forall_mem_singleton.mpr (channel.recvReply_sound host request), ?_⟩
  all_goals rw [framesIn_singleton]
  · exact recvReply_takes inRange request
  · exact fun frame found => frame?_proper (Option.mem_toList.mp found)

theorem call_obtains (inRange : channel.InRange host) (request : Message) :
    channel.Obtains host (ChannelOperation.receipts (.call request) channel host) (channel.call request host).2.1
      (channel.call request host).2.2 := by
  have sent : channel.Takes host [] (channel.send request host).2.1 (channel.send request host).2.2 :=
    sendRaw_takes inRange request.bytes
  rcases done : channel.send request host with ⟨error | _, next, after⟩
  · have called : channel.call request host = (.done (.error error), next, after) := by
      simp only [call, done]
    have logged : ChannelOperation.receipts (.call request) channel host = [] := by
      simp only [ChannelOperation.receipts, done]
    rw [done] at sent
    rw [called, logged]
    exact sent.obtains_nothing
  · have called : channel.call request host = next.recvReply request after := by
      simp only [call, done]
    have logged : ChannelOperation.receipts (.call request) channel host =
        [⟨some request, next.frame? after, (next.recvReply request after).1⟩] := by
      simp only [ChannelOperation.receipts, done, called]
    rw [done] at sent
    obtain ⟨takes, sound, proper⟩ := recvReply_obtains (sent.inRange inRange) request
    rw [called, logged]
    exact ⟨sent.trans takes, sound, proper⟩

theorem attempt_obtains (inRange : channel.InRange host) (op : ChannelOperation) :
    channel.Obtains host (op.receipts channel host) (op.attempt channel host).2.1 (op.attempt channel host).2.2 := by
  cases op with
  | send m => exact (sendRaw_takes inRange m.bytes).obtains_nothing
  | sendRaw content => exact (sendRaw_takes inRange content).obtains_nothing
  | recv => exact recv_obtains inRange
  | recvReply request => exact recvReply_obtains inRange request
  | call request => exact call_obtains inRange request

end Channel

/-- A channel at work on a host, with all that was ever sent to it on its stream, and all attempts to receive. -/
structure Incoming where
  channel : Channel
  host : Host
  stream : Bytes
  receipts : List Receipt := []

namespace Incoming

/-- What can happen next. A channel that refuses a configuration is dropped. Whatever others do to the host, they take
nothing off this stream; and what they send there is added at its end. -/
inductive Moves (s : SocketId) : Incoming → Incoming → Prop
  | attempt {channel host stream receipts outcome next after} (op : ChannelOperation)
      (done : op.attempt channel host = (outcome, next, after)) :
      Moves s ⟨channel, host, stream, receipts⟩ ⟨next, after, stream, receipts ++ op.receipts channel host⟩
  | configure {channel host stream receipts next after} (config : FrameConfig)
      (done : channel.withConfig config host = (.ok next, after)) :
      Moves s ⟨channel, host, stream, receipts⟩ ⟨next, after, stream, receipts⟩
  | drop {channel host stream receipts error after} (config : FrameConfig)
      (done : channel.withConfig config host = (.error error, after)) :
      Moves s ⟨channel, host, stream, receipts⟩ ⟨{ channel with state := .closed }, after, stream, receipts⟩
  | close {channel host stream receipts next after} (done : channel.close host = (next, after)) :
      Moves s ⟨channel, host, stream, receipts⟩ ⟨next, after, stream, receipts⟩
  | arrive {channel host stream receipts after} (part : Bytes) (grows : host.links.length ≤ after.links.length)
      (inbox : (after.endpoint s).inbox = (host.endpoint s).inbox ++ part) :
      Moves s ⟨channel, host, stream, receipts⟩ ⟨channel, after, stream ++ part, receipts⟩

/-- Any number of moves. -/
def Run (s : SocketId) : Incoming → Incoming → Prop := Relation.ReflTransGen (Moves s)

/-- What was obtained is the front of the stream, and all the rest is still there for the connection. -/
structure Accounted (s : SocketId) (o : Incoming) : Prop where
  split : ∃ rest, o.stream = (framesIn o.receipts).flatMap frameOf ++ rest ∧
    ∀ c, o.channel.connection? = some c → c.socket = s ∧ s.connection < o.host.links.length ∧ c.unread o.host = rest
  sound : ∀ receipt ∈ o.receipts, receipt.IsSound
  proper : ∀ frame ∈ framesIn o.receipts, IsProper frame

variable {s : SocketId} {o next : Incoming}

theorem Accounted.inRange (accounted : o.Accounted s) : o.channel.InRange o.host := by
  intro c connected
  obtain ⟨_, -, stays⟩ := accounted.split
  obtain ⟨rfl, inRange, -⟩ := stays c connected
  exact inRange

/-- Something that the owner does. -/
theorem Accounted.obtains {channel later : Channel} {host after : Host} {stream : Bytes} {receipts new : List Receipt}
    (accounted : Accounted s ⟨channel, host, stream, receipts⟩) (obtains : channel.Obtains host new later after) :
    Accounted s ⟨later, after, stream, receipts ++ new⟩ := by
  obtain ⟨⟨rest, whole, stays⟩, sound, proper⟩ := accounted
  obtain ⟨takes, sound', proper'⟩ := obtains
  have both : framesIn (receipts ++ new) = framesIn receipts ++ framesIn new := List.filterMap_append
  refine ⟨?_, List.forall_mem_append.mpr ⟨sound, sound'⟩, ?_⟩
  · cases connected : channel.connection? with
    | none =>
      obtain ⟨nothing, gone⟩ := takes.absent connected
      refine ⟨rest, ?_, fun c still => nomatch gone.symm.trans still⟩
      rw [both, nothing, List.append_nil]
      exact whole
    | some c =>
      obtain ⟨rfl, inRange, unread⟩ := stays c connected
      obtain ⟨rest', front, left⟩ := takes.front c connected
      refine ⟨rest', ?_, fun c' still => ?_⟩
      · rw [both, List.flatMap_append, List.append_assoc, ← front, unread]
        exact whole
      · obtain ⟨own, unread'⟩ := left c' still
        exact ⟨own, Nat.lt_of_lt_of_le inRange takes.grows, unread'⟩
  · rw [both]
    exact List.forall_mem_append.mpr ⟨proper, proper'⟩

theorem Moves.accounted (move : Moves s o next) (accounted : o.Accounted s) : next.Accounted s := by
  have quiet {channel later : Channel} {host after : Host} {stream : Bytes} {receipts : List Receipt}
      (accounted : Accounted s ⟨channel, host, stream, receipts⟩) (takes : channel.Takes host [] later after) :
      Accounted s ⟨later, after, stream, receipts⟩ := by
    have later := accounted.obtains takes.obtains_nothing
    rwa [List.append_nil] at later
  cases move with
  | attempt op done =>
    have obtains := Channel.attempt_obtains accounted.inRange op
    rw [done] at obtains
    exact accounted.obtains obtains
  | @configure channel host _ _ _ _ config done =>
    have takes := channel.withConfig_takes host config
    rw [done] at takes
    exact quiet accounted takes
  | @drop channel host _ _ _ _ config done =>
    have takes := channel.withConfig_takes host config
    rw [done] at takes
    exact quiet accounted takes
  | @close channel host _ _ _ _ done =>
    have takes := channel.close_takes host
    rw [done] at takes
    exact quiet accounted takes
  | @arrive _ _ _ _ _ part grows inbox =>
    obtain ⟨⟨rest, whole, stays⟩, sound, proper⟩ := accounted
    refine ⟨⟨rest ++ part, ?_, fun c connected => ?_⟩, sound, proper⟩
    · rw [← List.append_assoc, ← whole]
    · obtain ⟨rfl, inRange, unread⟩ := stays c connected
      refine ⟨rfl, Nat.lt_of_lt_of_le inRange grows, ?_⟩
      rw [← unread, Connection.unread, Connection.unread, inbox, List.append_assoc]

theorem Run.accounted (run : Run s o next) (accounted : o.Accounted s) : next.Accounted s := by
  induction run with
  | refl => exact accounted
  | tail _ move ih => exact move.accounted ih

theorem accounted_start {channel : Channel} {host : Host} {c : Connection} (connected : channel.connection? = some c)
    (inRange : c.socket.connection < host.links.length) : Accounted c.socket ⟨channel, host, c.unread host, []⟩ := by
  refine ⟨⟨c.unread host, rfl, fun c' own => ?_⟩, List.forall_mem_nil _, List.forall_mem_nil _⟩
  cases connected.symm.trans own
  exact ⟨rfl, inRange, rfl⟩

/-- The frames obtained are the first of the stream, whatever limit is or was in force. -/
theorem Accounted.framesOf (accounted : o.Accounted s) :
    ∃ rest, o.stream = (framesIn o.receipts).flatMap frameOf ++ rest ∧
      (framesOf maxFrameLength o.stream).1 = framesIn o.receipts ++ (framesOf maxFrameLength rest).1 ∧
      ∀ c, o.channel.connection? = some c → c.socket = s ∧ c.unread o.host = rest := by
  obtain ⟨⟨rest, whole, stays⟩, -, proper⟩ := accounted
  refine ⟨rest, whole, ?_, fun c connected => ⟨(stays c connected).1, (stays c connected).2.2⟩⟩
  rw [whole, framesOf_flatMap (by decide) proper rest]

end Incoming

theorem decodeFrame_of_framesOf {limit : Nat} {input frame : Bytes} (first : (framesOf limit input).1[0]? = some frame) :
    ∃ rest, decodeFrame limit input = .ok (some (frame, rest)) := by
  cases decoded : decodeFrame limit input with
  | error error =>
    rw [framesOf_error decoded] at first
    cases first
  | ok found =>
    cases found with
    | none =>
      rw [framesOf_none decoded] at first
      cases first
    | some found =>
      rw [framesOf_some decoded] at first
      cases first
      exact ⟨_, rfl⟩

/-- Nothing but interruptions goes wrong for whoever reads at this end. -/
structure Endpoint.Readable (e : Endpoint) : Prop where
  unreset : e.isReset = false
  reads : ∀ turn ∈ e.readTurns, turn.IsBenign

/-- The first frame that is there whole is obtained, if the limit admits it. -/
theorem Connection.frame?_of_unread (c : Connection) {host : Host} (readable : (host.endpoint c.socket).Readable)
    {frame : Bytes} (first : (framesOf maxFrameLength (c.unread host)).1[0]? = some frame)
    (admitted : frame.length ≤ c.reader.config.maxSize) : c.frame? host = some frame := by
  obtain ⟨rest, decoded⟩ := decodeFrame_of_framesOf first
  obtain ⟨split, header, -, small⟩ := decodeFrame_eq_some.mp decoded
  have decoded : decodeFrame c.reader.config.maxSize (c.reader.buffer ++ (host.endpoint c.socket).inbox) = _ :=
    decodeFrame_eq_some.mpr ⟨split, header, admitted, small⟩
  have whole : (host.endpoint c.socket).Left (host.endpoint c.socket).inbox (host.endpoint c.socket) :=
    ⟨_, readable.reads, rfl⟩
  obtain ⟨-, outcome, -⟩ := FrameReader.tryRead_answered (Endpoint.conveyor readable.unreset) c.reader _ whole
  rw [FrameReader.answer, decoded] at outcome
  rw [frame?, outcome]

/-- The frames that are obtained are the frames of the stream from the first one on, one by one, and none of them is ever
obtained again; all bytes behind them are still there for the connection, and the next frame is obtained next. What is
returned is the message that the frame holds, and by a call only the response to its request. -/
theorem Channel.receives_in_order {channel : Channel} {host : Host} {c : Connection} {o : Incoming}
    (connected : channel.connection? = some c) (inRange : c.socket.connection < host.links.length)
    (run : Incoming.Run c.socket ⟨channel, host, c.unread host, []⟩ o) :
    let frames := (framesOf maxFrameLength o.stream).1
    framesIn o.receipts <+: frames ∧
      (∀ receipt ∈ o.receipts, receipt.IsSound) ∧
      ∀ next, o.channel.connection? = some next →
        o.stream = (framesIn o.receipts).flatMap frameOf ++ next.unread o.host ∧
          ∀ frame, frames[(framesIn o.receipts).length]? = some frame → frame.length ≤ next.reader.config.maxSize →
            (o.host.endpoint next.socket).Readable → o.channel.frame? o.host = some frame := by
  intro frames
  have accounted := run.accounted (Incoming.accounted_start connected inRange)
  obtain ⟨rest, whole, found, stays⟩ := accounted.framesOf
  refine ⟨⟨_, found.symm⟩, accounted.sound, fun next still => ?_⟩
  obtain ⟨-, rfl⟩ := stays next still
  refine ⟨whole, fun frame first admitted readable => ?_⟩
  rw [show frames = _ from found, List.getElem?_append_right (Nat.le_refl _), Nat.sub_self] at first
  rw [frame?_of_connection still]
  exact next.frame?_of_unread readable first admitted

/-- A call obtains the response to another call, which is refused. Then the configuration is changed, and what is received
is the next frame, which was buffered before. -/
theorem Channel.receives_in_order_past_stale_reply :
    let stale := Message.response 6 []
    let reply := Message.response 7 []
    let buffered : Bytes := [4, 0, 0, 0, 0x43, 2, 7, 0]
    let arrived : Bytes := [4, 0, 0, 0, 0x43, 2, 6, 0] ++ buffered
    let host : Host := { links := [⟨{ inbox := arrived }, {}⟩], controls := [{ active := some ⟨0, false⟩ }] }
    let channel (config : FrameConfig) (buffer : Bytes) : Channel :=
      ⟨.connected ⟨⟨0, false⟩, { buffer, config }, { config }⟩, "socket", config, 0⟩
    ∃ o, Incoming.Run ⟨0, false⟩ ⟨channel {} [], host, arrived, []⟩ o ∧
      o.receipts.map Receipt.outcome = [.done (.error (.callIdMismatch 7 6)), .done (.ok reply)] ∧
      framesIn o.receipts = [stale.bytes, reply.bytes] ∧
      framesIn o.receipts <+: (framesOf maxFrameLength o.stream).1 := by
  intro stale reply buffered arrived host channel
  let request := Message.request 7 1 0 []
  -- The states are written down, so that each operation is evaluated alone.
  let sent : Host :=
    { links := [⟨{}, { inbox := [16, 0, 0, 0, 0x43, 1, 7, 0, 1, 0, 0, 0, 0, 0, 0, 0, 0, 0, 0, 0] }⟩],
      controls := [{ active := some ⟨0, false⟩ }] }
  let limited : FrameConfig := { maxSize := 100 }
  have called : ChannelOperation.attempt (.call request) (channel {} []) host =
      (.done (.error (.callIdMismatch 7 6)), channel {} buffered, sent) := by cbv
  have configured : (channel {} buffered).withConfig limited sent = (.ok (channel limited buffered), sent) := by cbv
  have received : ChannelOperation.attempt .recv (channel limited buffered) sent =
      (.done (.ok ()), channel limited [], sent) := by cbv
  have refused : ChannelOperation.receipts (.call request) (channel {} []) host =
      [⟨some request, some stale.bytes, .done (.error (.callIdMismatch 7 6))⟩] := by cbv
  have obtained : ChannelOperation.receipts .recv (channel limited buffered) sent =
      [⟨none, some reply.bytes, .done (.ok reply)⟩] := by cbv
  have run : Incoming.Run ⟨0, false⟩ ⟨channel {} [], host, arrived, []⟩ _ :=
    .tail (.tail (.single (.attempt (.call request) called)) (.configure limited configured)) (.attempt .recv received)
  rw [refused, obtained] at run
  have connected : (channel {} []).connection? = some (⟨⟨0, false⟩, {}, {}⟩ : Connection) := rfl
  have inRange : (0 : Nat) < host.links.length := Nat.one_pos
  exact ⟨_, run, rfl, rfl, (receives_in_order connected inRange run).1⟩

end CallWire
