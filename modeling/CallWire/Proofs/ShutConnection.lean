import CallWire.Proofs.ChannelFailure

/-! A connection that was shut down in both directions. Nothing can be sent there, and who reads finds what came before
and then the end. So an operation never waits, and closes the channel unless it was not tried at all or takes a message
that came before. -/

namespace CallWire

theorem Endpoint.read_ended {e : Endpoint} (ended : e.isEnded = true) (limit : Nat) :
    (e.read limit).1 ≠ .waiting ∧ (e.read limit).2.isEnded = true := by
  unfold read
  split
  · exact ⟨nofun, ended⟩
  · split
    · split
      · exact ⟨nofun, ended⟩
      · exact ⟨nofun, ended⟩
    · exact ⟨nofun, ended⟩

/-- What is written to an end that is closed to it does not come there. -/
theorem Link.write_ended {l : Link} (ended : l.far.isEnded = true) (content : Bytes) : (l.write content).2.far = l.far := by
  unfold write
  split
  · rfl
  · rw [if_pos ended]

namespace Connection
variable {c : Connection} {host : Host}

theorem readMessage_ended (ended : (host.endpoint c.socket).isEnded = true) : (c.readMessage host).1 ≠ .waiting := by
  have prompt : ∀ limit (e : Endpoint), e.isEnded = true →
      (ByteSource.read limit e).1 ≠ .waiting ∧ (ByteSource.read limit e).2.isEnded = true := fun limit e ended => e.read_ended ended limit
  obtain ⟨result, done⟩ := FrameReader.pull_answers prompt _ c.reader ended (Nat.le_refl _)
  have done : (c.reader.tryRead (host.endpoint c.socket)).1 = .done result := done
  unfold readMessage
  simp only [done]
  rcases result with error | _ | frame
  all_goals exact nofun

/-- A frame is never empty, so that sending it would be noticed. -/
theorem send_ended (ended : (host.endpoint c.socket.peer).isEnded = true) (content : Bytes) :
    (c.send content host).1 ≠ .ok () := by
  intro sent
  let far (l : Link) : Prop := l.far = (host.link c.socket).far
  rw [Host.endpoint_peer] at ended
  have writes : ∀ content l, far l → far (ByteSink.write content l).2 := by
    intro content l same
    have ended : l.far.isEnded = true := by rwa [show l.far = _ from same]
    exact (Link.write_ended ended content).trans same
  have start : far (host.link c.socket) := rfl
  have still : far (c.writer.send content (host.link c.socket)).2 :=
    c.writer.send_preserves writes (fun l same => same) content start
  obtain ⟨part, grown, adds⟩ := c.writer.send_adds Link.account content (host.link c.socket)
  have none : part = [] := by rwa [still, List.self_eq_append_right] at grown
  rw [show (c.writer.send content (host.link c.socket)).1 = .ok () from sent, none] at adds
  generalize written : ([] : Bytes) = frame at adds
  cases adds
  have length := congrArg List.length written
  rw [frameOf_length, List.length_nil, frameLengthWidth] at length
  omega

end Connection

namespace Channel
variable {channel : Channel} {host : Host}

/-- The connection, if there is one, was shut down in both directions. -/
def IsShut (channel : Channel) (host : Host) : Prop :=
  ∀ c, channel.connection? = some c → c.socket.connection < host.links.length ∧
    (host.endpoint c.socket).isEnded = true ∧ (host.endpoint c.socket.peer).isEnded = true

theorem sendRaw_shut (shut : channel.IsShut host) (content : Bytes) : (channel.sendRaw content host).1 ≠ .ok () := by
  unfold sendRaw
  split
  · exact nofun
  · rename_i c established
    have unsent := c.send_ended (shut c (connection?_of_established established)).2.2 content
    split
    · rename_i sent
      rw [sent] at unsent
      exact absurd rfl unsent
    · exact nofun
    · exact nofun

theorem recv_shut (shut : channel.IsShut host) : (channel.recv host).1 ≠ .waiting := by
  unfold recv
  split
  · exact nofun
  · rename_i c established
    have prompt := c.readMessage_ended (shut c (connection?_of_established established)).2.1
    generalize c.readMessage host = result at prompt ⊢
    obtain ⟨(error | _ | m) | _, c', after⟩ := result
    · exact nofun
    · exact nofun
    · exact nofun
    · exact absurd rfl prompt

end Channel

namespace ChannelOperation

/-- What an operation comes to that leaves a channel open although its connection is shut down. There is no peer, or the
message is too large to be sent, and nothing is tried; or a message is taken that came before. -/
inductive Spared (op : ChannelOperation) (channel : Channel) (host : Host) : Except ChannelError Unit → Channel → Host → Prop
  | unconnected (absent : channel.connection? = none) : Spared op channel host (.error .notConnected) channel host
  | oversized {c content limit} (connected : channel.connection? = some c) (own : op.content? = some content)
      (large : c.writer.exceeded? content = some limit) :
      Spared op channel host (.error (.frameTooLarge content.length limit)) channel host
  | took {c m last final} (connected : channel.connection? = some c) (silent : op.content? = none)
      (opened : last.isClosed = false) (valid : m.validate = .ok ())
      (came : frameOf m.bytes <+: c.reader.buffer ++ (host.endpoint c.socket).inbox) :
      Spared op channel host (op.request?.elim (.ok ()) fun request => checkReply request m) last final

/-- One attempt is over at once, and closes the channel or is spared. -/
def Ceases (op : ChannelOperation) (channel : Channel) (host : Host) : Outcome Unit × Channel × Host → Prop
  | (.done result, last, final) => last.isClosed = true ∨ Spared op channel host result last final
  | (.waiting, _) => False

variable {op : ChannelOperation} {channel : Channel} {host : Host}

theorem ceases_of_sent {content : Bytes} (own : op.content? = some content) (opened : channel.isClosed = false)
    (shut : channel.IsShut host) :
    Ceases op channel host (.done (channel.sendRaw content host).1, (channel.sendRaw content host).2) := by
  have sent := Channel.sendRaw_sent opened (fun c connected => (shut c connected).1) content
  have unsent := Channel.sendRaw_shut shut content
  generalize channel.sendRaw content host = result at sent unsent
  obtain ⟨result, last, final⟩ := result
  cases sent with
  | unconnected absent => exact .inr (.unconnected absent)
  | oversized connected large => exact .inr (.oversized connected own large)
  | sent => exact absurd rfl unsent
  | broken _ _ _ closed => exact .inl closed

theorem ceases_of_received (silent : op.content? = none) (opened : channel.isClosed = false) (shut : channel.IsShut host) :
    Ceases op channel host (op.answer (channel.recv host).1, (channel.recv host).2) := by
  cases connected : channel.connection? with
  | none =>
    rw [Channel.recv, Channel.established_of_open opened connected]
    exact .inr (.unconnected connected)
  | some c =>
    obtain ⟨inRange, ended, -⟩ := shut c connected
    obtain ⟨-, content, split, received⟩ := Channel.recv_received connected inRange
    have prompt := Channel.recv_shut shut
    generalize channel.recv host = result at split received prompt
    obtain ⟨outcome, last, final⟩ := result
    cases received with
    | nothing => exact absurd rfl prompt
    | @message m _ next still valid whole =>
      have came : frameOf m.bytes <+: c.reader.buffer ++ (host.endpoint c.socket).inbox := by
        rw [split, ← List.append_assoc, whole, List.append_assoc]
        exact List.prefix_append ..
      exact .inr (.took connected silent (Channel.isClosed_of_connection still) valid came)
    | failed _ closed => exact .inl closed

theorem attempt_ceases (opened : channel.isClosed = false) (shut : channel.IsShut host) (op : ChannelOperation) :
    Ceases op channel host (op.attempt channel host) := by
  cases op with
  | send m => exact ceases_of_sent rfl opened shut
  | sendRaw content => exact ceases_of_sent rfl opened shut
  | recv =>
    have received := @ceases_of_received .recv channel host rfl opened shut
    rwa [← forget_recv] at received
  | recvReply request =>
    have received := @ceases_of_received (.recvReply request) channel host rfl opened shut
    rwa [← forget_recvReply] at received
  | call request =>
    have sent := @ceases_of_sent (.call request) channel host request.bytes rfl opened shut
    have unsent := Channel.sendRaw_shut shut request.bytes
    rw [attempt_call, Channel.send]
    generalize channel.sendRaw request.bytes host = result at sent unsent
    obtain ⟨result, last, final⟩ := result
    cases result with
    | ok => exact absurd rfl unsent
    | error error => exact sent

end ChannelOperation
end CallWire
