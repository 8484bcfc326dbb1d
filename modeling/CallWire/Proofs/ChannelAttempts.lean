import CallWire.Proofs.ChannelOutput
import CallWire.Proofs.SessionSteps

/-! One attempt of a channel to send or to receive, told by the bytes that it moves at its socket. Nothing of a message
over the limit goes out, and a failure of any other kind closes the channel. -/

namespace CallWire

namespace FrameReader

/-- No failure to read says merely that the channel cannot be used. -/
theorem pull_fatal {σ : Type} [ByteSource σ] (calls : Nat) (reader : FrameReader) (source : σ) {error : ChannelError}
    (failed : (pull calls reader source).1 = .done (.error error)) : Channel.leavesOpen error = false := by
  fun_induction pull calls reader source with
  | case1 calls reader source other decoded =>
    cases failed
    exact Encounter.leavesOpen_decodeFrame decoded
  | case5 reader source incomplete other next read again calls ih => exact ih failed
  | case10 reader source incomplete piece next some read calls ih => exact ih failed
  | case6 | case8 =>
    cases failed
    rfl
  | _ => cases failed

/-- What a reader takes off an end makes up the frame that it gives out, together with its buffer. -/
theorem tryRead_takes (reader : FrameReader) (e : Endpoint) :
    ∃ content, e.inbox = content ++ (reader.tryRead e).2.2.inbox ∧
      reader.buffer ++ content = (givenOut (reader.tryRead e).1).flatMap frameOf ++ (reader.tryRead e).2.1.buffer := by
  let r : Recorded Endpoint := ⟨e, reader.buffer⟩
  let kept (r : Recorded Endpoint) : Prop :=
    ∃ content, r.delivered = reader.buffer ++ content ∧ e.inbox = content ++ r.source.inbox
  have step : ∀ limit r, kept r → kept (ByteSource.read limit r).2 := by
    intro limit r held
    obtain ⟨content, delivered, split⟩ := held
    obtain ⟨moved, -⟩ := Endpoint.read_conserves limit r.source
    refine ⟨content ++ (r.source.read limit).1.content, ?_, ?_⟩
    · show r.delivered ++ (r.source.read limit).1.content = _
      rw [delivered, List.append_assoc]
    · rw [split, ← moved, ← List.append_assoc]
      rfl
  have whole : reader.tryRead e = _ := pull_recorded (ByteSource.weight e) reader r
  have conserved := pull_conserves (ByteSource.weight e) reader r (List.nil_append _).symm
  have start : kept r := ⟨[], (List.append_nil _).symm, rfl⟩
  obtain ⟨content, delivered, split⟩ := pull_preserves step (ByteSource.weight e) reader start
  rw [whole]
  exact ⟨content, split, delivered.symm.trans conserved⟩

end FrameReader

namespace FrameWriter
variable {σ : Type} [ByteSink σ]

theorem push_preserves {kept : σ → Prop} (writes : ∀ content sink, kept sink → kept (ByteSink.write content sink).2)
    (calls : Nat) (content : Bytes) {sink : σ} (holds : kept sink) : kept (push calls content sink).2 := by
  fun_induction push calls content sink with
  | case1 | case2 => exact holds
  | case3 calls content sink some next written | case6 calls content sink some error next written fatal =>
    have after := writes content sink holds
    rwa [written] at after
  | case4 calls content sink some count next positive written ih | case5 calls content sink some error next written again ih =>
    have after := writes content sink holds
    rw [written] at after
    exact ih after

theorem settle_preserves {kept : σ → Prop} (flushes : ∀ sink : σ, kept sink → kept (ByteSink.flush sink).2)
    (calls : Nat) {sink : σ} (holds : kept sink) : kept (settle calls sink).2 := by
  fun_induction settle calls sink with
  | case1 calls sink _ next flushed | case2 sink error next flushed again | case4 calls sink error next flushed fatal =>
    have after := flushes sink holds
    rwa [flushed] at after
  | case3 sink error next flushed again calls ih =>
    have after := flushes sink holds
    rw [flushed] at after
    exact ih after

/-- What writing and flushing preserve, sending preserves. -/
theorem send_preserves {kept : σ → Prop} (writes : ∀ content sink, kept sink → kept (ByteSink.write content sink).2)
    (flushes : ∀ sink : σ, kept sink → kept (ByteSink.flush sink).2) (writer : FrameWriter) (content : Bytes) {sink : σ}
    (holds : kept sink) : kept (writer.send content sink).2 := by
  unfold send
  split
  · exact holds
  · split
    · exact holds
    · rename_i frame _
      have pushed := push_preserves writes (ByteSink.weight sink + frame.length) frame holds
      split
      · rename_i next done
        rw [done] at pushed
        exact settle_preserves flushes _ pushed
      · exact pushed

/-- The first limit that the bytes exceed. -/
def exceeded? (writer : FrameWriter) (content : Bytes) : Option Nat :=
  if writer.config.maxSize < content.length then some writer.config.maxSize
  else if maxFrameLength < content.length then some maxFrameLength
  else none

theorem send_exceeded (writer : FrameWriter) {content : Bytes} {limit : Nat} (large : writer.exceeded? content = some limit)
    (sink : σ) : writer.send content sink = (.error (.frameTooLarge content.length limit), sink) := by
  unfold exceeded? at large
  unfold send
  split at large
  · cases large
    rw [if_pos ‹_›]
  · rw [if_neg ‹_›]
    split at large
    · cases large
      rw [encodeFrame, if_neg (Nat.not_le.mpr ‹_›)]
    · cases large

/-- Within the limits only the stream can fail. -/
theorem send_within {account : σ → Bytes} (accounts : ByteSink.Account σ account) (writer : FrameWriter) {content : Bytes}
    (within : writer.exceeded? content = none) (sink : σ) :
    (writer.send content sink).1 = .ok () ∨
      ∃ error, (writer.send content sink).1 = .error error ∧ error.IsOfStream := by
  unfold exceeded? at within
  split at within
  · cases within
  · rename_i fits
    split at within
    · cases within
    · rename_i short
      obtain ⟨_, _, _, outcome⟩ :=
        push_account accounts (ByteSink.weight sink + (frameOf content).length) (frameOf content) sink
      rw [send, if_neg fits, encodeFrame, if_pos (Nat.not_lt.mp short)]
      simp only
      generalize push (ByteSink.weight sink + (frameOf content).length) (frameOf content) sink = pushed at outcome
      obtain ⟨result, next⟩ := pushed
      obtain ⟨rfl, -⟩ | ⟨error, rfl, cause⟩ := outcome
      · exact (settle_account accounts (ByteSink.weight next) next).2
      · exact .inr ⟨error, rfl, cause⟩

end FrameWriter

theorem Link.write_near (content : Bytes) (l : Link) : (l.write content).2.near.inbox = l.near.inbox := by
  obtain ⟨_, _, _, failed⟩ | ⟨_, failed⟩ | ⟨moved, rest, _, _, accepted, _⟩ := l.write_cases content
  · rw [failed]
    rfl
  · rw [failed]
  · rw [accepted]
    rfl

theorem messageOfFrame_ok {frame : Bytes} {m : Message} (found : messageOfFrame frame = .ok m) :
    m.bytes = frame ∧ m.validate = .ok () := by
  unfold messageOfFrame at found
  split at found
  · cases found
  · rename_i parsed
    split at found
    · cases found
    · rename_i valid
      cases found
      exact ⟨Message.bytes_of_ofBytes parsed, valid⟩

namespace Connection

/-- What came of reading a message, by the bytes that were taken off the socket. -/
inductive Took (c : Connection) (content : Bytes) : Outcome (Option Message) → Connection → Prop
  | nothing {next} (kept : c.reader.buffer ++ content = next.reader.buffer) : Took c content .waiting next
  | message {m next} (valid : m.validate = .ok ())
      (whole : c.reader.buffer ++ content = frameOf m.bytes ++ next.reader.buffer) : Took c content (.done (.ok (some m))) next
  | ended {next} : Took c content (.done (.ok none)) next
  | failed {error next} (fatal : Channel.leavesOpen error = false) : Took c content (.done (.error error)) next

theorem readMessage_took (c : Connection) (host : Host) :
    ∃ content, (c.socket.connection < host.links.length →
        (host.endpoint c.socket).inbox = content ++ ((c.readMessage host).2.2.endpoint c.socket).inbox) ∧
      c.Took content (c.readMessage host).1 (c.readMessage host).2.1 := by
  obtain ⟨content, split, whole⟩ := c.reader.tryRead_takes (host.endpoint c.socket)
  have fatal error : (c.reader.tryRead (host.endpoint c.socket)).1 = .done (.error error) → _ :=
    FrameReader.pull_fatal (ByteSource.weight (host.endpoint c.socket)) c.reader (host.endpoint c.socket)
  unfold readMessage
  generalize c.reader.tryRead (host.endpoint c.socket) = result at split whole fatal
  obtain ⟨outcome, reader, e⟩ := result
  refine ⟨content, ?_, ?_⟩
  · intro inRange
    have near : (host.setEndpoint c.socket e).endpoint c.socket = e := by
      rw [Host.endpoint, Host.setEndpoint, Host.onLink, Host.link_setLink inRange]
    simp only [near]
    exact split
  · cases outcome with
    | waiting => exact .nothing whole
    | done result =>
      cases result with
      | error error => exact .failed (fatal error rfl)
      | ok found =>
        cases found with
        | none => exact .ended
        | some frame =>
          cases parsed : messageOfFrame frame with
          | error error =>
            simp only [parsed]
            exact .failed (Encounter.leavesOpen_messageOfFrame parsed)
          | ok m =>
            obtain ⟨rfl, valid⟩ := messageOfFrame_ok parsed
            simp only [parsed]
            refine .message valid ?_
            simpa [FrameReader.givenOut] using whole

/-- Sending leaves what has come alone. -/
theorem send_inbox (c : Connection) {host : Host} (inRange : c.socket.connection < host.links.length) (content : Bytes) :
    ((c.send content host).2.endpoint c.socket).inbox = (host.endpoint c.socket).inbox := by
  let kept (l : Link) : Prop := l.near.inbox = (host.endpoint c.socket).inbox
  have writes : ∀ content l, kept l → kept (ByteSink.write content l).2 :=
    fun content l holds => (l.write_near content).trans holds
  have start : kept (host.link c.socket) := rfl
  rw [Host.endpoint, Connection.send, Host.link_setLink inRange]
  exact c.writer.send_preserves writes (fun l holds => holds) content start

end Connection

namespace Channel
variable {channel : Channel} {host : Host} {c : Connection}

theorem isClosed_eq_true : channel.isClosed = true ↔ channel.state = .closed := by
  unfold isClosed
  cases channel.state with
  | closed => simp
  | connected | listening => simp

theorem isClosed_of_connection (connected : channel.connection? = some c) : channel.isClosed = false := by
  unfold isClosed
  obtain state | ⟨l, state⟩ := state_of_connection connected
  · rw [state]
  · rw [state]

theorem fail_isClosed {error : ChannelError} (fatal : leavesOpen error = false) (host : Host) :
    (channel.fail error host).1.isClosed = true := by
  rw [isClosed_eq_true, fail_eq_close fatal, close_state]

/-- An open channel that is not connected is one that listens. -/
theorem established_of_open (opened : channel.isClosed = false) (absent : channel.connection? = none) :
    channel.established = .error .notConnected := by
  obtain ⟨state, path, config, control⟩ := channel
  cases state with
  | closed => cases opened
  | connected c => cases absent
  | listening l peer =>
    obtain rfl : peer = none := absent
    rfl

/-- What came of sending some bytes. -/
inductive Sent (channel : Channel) (host : Host) (content : Bytes) : Except ChannelError Unit → Channel → Host → Prop
  | unconnected (absent : channel.connection? = none) : Sent channel host content (.error .notConnected) channel host
  | oversized {c limit} (connected : channel.connection? = some c) (large : c.writer.exceeded? content = some limit) :
      Sent channel host content (.error (.frameTooLarge content.length limit)) channel host
  | sent {c after} (connected : channel.connection? = some c) (within : c.writer.exceeded? content = none)
      (length : after.links.length = host.links.length)
      (own : (after.endpoint c.socket).inbox = (host.endpoint c.socket).inbox)
      (came : (after.endpoint c.socket.peer).inbox = (host.endpoint c.socket.peer).inbox ++ frameOf content) :
      Sent channel host content (.ok ()) channel after
  | broken {c error last after} (connected : channel.connection? = some c) (within : c.writer.exceeded? content = none)
      (fatal : leavesOpen error = false) (closed : last.isClosed = true) :
      Sent channel host content (.error error) last after

theorem sendRaw_sent (opened : channel.isClosed = false)
    (inRange : ∀ c, channel.connection? = some c → c.socket.connection < host.links.length) (content : Bytes) :
    channel.Sent host content (channel.sendRaw content host).1 (channel.sendRaw content host).2.1
      (channel.sendRaw content host).2.2 := by
  cases connected : channel.connection? with
  | none =>
    rw [sendRaw, established_of_open opened connected]
    exact .unconnected connected
  | some c =>
    have established := established_of_connection connected
    have inRange := inRange c connected
    cases large : c.writer.exceeded? content with
    | some limit =>
      have sent : c.send content host = (.error (.frameTooLarge content.length limit), host) := by
        rw [Connection.send, c.writer.send_exceeded large]
        simp only [Host.setLink_link inRange]
      rw [sendRaw_of_clean established sent trivial]
      exact .oversized connected large
    | none =>
      have near := c.send_inbox inRange content
      obtain ⟨part, grown, adds⟩ := c.writer.send_adds Link.account content (host.link c.socket)
      have far : ((c.send content host).2.endpoint c.socket.peer).inbox =
          (host.endpoint c.socket.peer).inbox ++ part := by
        rw [Host.endpoint_peer, Host.endpoint_peer, Connection.send, Host.link_setLink inRange]
        exact grown
      have length : (c.send content host).2.links.length = host.links.length := Host.setLink_length ..
      have outcome := c.writer.send_within Link.account large (host.link c.socket)
      change Adds content (c.send content host).1 part at adds
      change (c.send content host).1 = .ok () ∨ ∃ error, (c.send content host).1 = .error error ∧ _ at outcome
      generalize sent : c.send content host = result at near far length outcome adds
      obtain ⟨result, after⟩ := result
      -- Within the limit only the stream can fail, and such a failure closes the channel.
      obtain rfl | ⟨error, rfl, cause⟩ := outcome
      · cases adds
        rw [sendRaw_of_clean established sent trivial]
        exact .sent connected large length near far
      · rw [sendRaw_of_broken established sent cause]
        exact .broken connected large (leavesOpen_of_isOfStream cause) (fail_isClosed (leavesOpen_of_isOfStream cause) after)

/-- What came of waiting for a message, by the bytes that were taken off the socket. -/
inductive Received (c : Connection) (content : Bytes) : Outcome Message → Channel → Prop
  | nothing {last next} (connected : last.connection? = some next) (socket : next.socket = c.socket)
      (kept : c.reader.buffer ++ content = next.reader.buffer) : Received c content .waiting last
  | message {m last next} (connected : last.connection? = some next) (valid : m.validate = .ok ())
      (whole : c.reader.buffer ++ content = frameOf m.bytes ++ next.reader.buffer) : Received c content (.done (.ok m)) last
  | failed {error last} (fatal : leavesOpen error = false) (closed : last.isClosed = true) :
      Received c content (.done (.error error)) last

theorem recv_received (connected : channel.connection? = some c) (inRange : c.socket.connection < host.links.length) :
    host.Quiet c.socket.peer (channel.recv host).2.2 ∧
      ∃ content, (host.endpoint c.socket).inbox = content ++ ((channel.recv host).2.2.endpoint c.socket).inbox ∧
        Received c content (channel.recv host).1 (channel.recv host).2.1 := by
  obtain ⟨content, split, took⟩ := c.readMessage_took host
  have split := split inRange
  have quiet := c.readMessage_quiet c.socket.peer host (SocketId.ne_peer rfl)
  have socket : (c.readMessage host).2.1.socket = c.socket := rfl
  unfold recv
  simp only [established_of_connection connected]
  generalize c.readMessage host = result at split took quiet socket
  obtain ⟨outcome, next, after⟩ := result
  obtain ⟨_, _, _, present⟩ := setConnection_of_connection connected next
  have failing error (fatal : leavesOpen error = false) :
      host.Quiet c.socket.peer ((channel.setConnection next).fail error after).2 ∧
        ∃ content, (host.endpoint c.socket).inbox =
            content ++ (((channel.setConnection next).fail error after).2.endpoint c.socket).inbox ∧
          Received c content (.done (.error error)) ((channel.setConnection next).fail error after).1 := by
    refine ⟨quiet.trans (fail_quiet _ after _ error), content, ?_, .failed fatal (fail_isClosed fatal after)⟩
    rw [fail_eq_close fatal, (close_sameInboxes _ after).inbox]
    exact split
  cases took with
  | nothing kept => exact ⟨quiet, content, split, .nothing present socket kept⟩
  | message valid whole => exact ⟨quiet, content, split, .message present valid whole⟩
  | ended => exact failing .connectionClosed rfl
  | failed fatal => exact failing _ fatal

/-- A valid reply is refused only if it is no response or answers another call. -/
theorem checkReply_error {request reply : Message} {error : ChannelError} (valid : reply.validate = .ok ())
    (refused : checkReply request reply = .error error) :
    error = .unexpectedType .response .request ∨ error = .callIdMismatch request.callId reply.callId := by
  unfold checkReply at refused
  split at refused
  · rename_i known
    unfold Message.validate at valid
    rw [known] at valid
    split at valid
    · cases valid
    · cases valid
  · cases refused
    exact .inl rfl
  · split at refused
    · cases refused
    · cases refused
      exact .inr rfl

end Channel
end CallWire
