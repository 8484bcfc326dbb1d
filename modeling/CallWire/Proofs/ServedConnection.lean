import CallWire.Proofs.LinkTraffic
import CallWire.Proofs.RequestService

/-! The connection of a session, as long as nothing disturbs it: how a socket is taken into use, what reading
a message leaves, and what handing up does to the bytes of the host. -/

namespace CallWire

/-- Reading takes bytes off an end and puts none there. -/
theorem Endpoint.read_shrinks (limit : Nat) (e : Endpoint) : (e.read limit).2.inbox.length ≤ e.inbox.length := by
  unfold read
  split
  · exact Nat.le_refl _
  · split
    · split
      · exact Nat.le_refl _
      · split
        all_goals exact Nat.le_refl _
    · rw [List.length_drop]
      exact Nat.sub_le ..

theorem FrameReader.pull_shrinks (calls : Nat) (reader : FrameReader) (e : Endpoint) :
    (reader.pull calls e).2.2.inbox.length ≤ e.inbox.length := by
  have shrinks {outcome : ReadOutcome} {e next : Endpoint} (read : ByteSource.read readChunkSize e = (outcome, next)) :
      next.inbox.length ≤ e.inbox.length := by
    have taken := e.read_shrinks readChunkSize
    rwa [show e.read readChunkSize = (outcome, next) from read] at taken
  fun_induction pull calls reader e
  all_goals try exact Nat.le_refl _
  all_goals try exact shrinks ‹_›
  all_goals exact Nat.le_trans ‹_› (shrinks ‹_›)

namespace Host
variable {host : Host} {s : SocketId}

@[simp] theorem setControl_link (host : Host) (c : ControlId) (control : Control) (s : SocketId) :
    (host.setControl c control).link s = host.link s := rfl

theorem control_setControl (host : Host) (c : ControlId) (control : Control) :
    (host.setControl c control).control c = if c < host.controls.length then control else host.control c := by
  unfold setControl Host.control
  rw [List.getD_eq_getElem?_getD, List.getElem?_set, List.getD_eq_getElem?_getD, if_pos rfl]
  split
  · rfl
  · rename_i outside
    rw [List.getElem?_eq_none (Nat.not_lt.mp outside)]

theorem isRequested_setControl (host : Host) (c : ControlId) (active : Option SocketId) :
    ((host.setControl c { host.control c with active }).control c).isRequested = (host.control c).isRequested := by
  rw [control_setControl]
  split
  · rfl
  · rfl

theorem unregister_inactive (host : Host) (c : ControlId) : ((host.unregister c).control c).active = none := by
  unfold unregister
  split
  · assumption
  · rename_i s active
    show ((host.setControl c { host.control c with active := none }).control c).active = none
    rw [control_setControl]
    split
    · rfl
    · rename_i outside
      rw [Host.control, List.getD_eq_getElem?_getD, List.getElem?_eq_none (Nat.not_lt.mp outside)]
      rfl

theorem setTimeouts_ok {reading writing : Option Nat}
    (first : Endpoint.checkTimeout reading = .ok ()) (second : Endpoint.checkTimeout writing = .ok ()) :
    host.setTimeouts s reading writing =
      (.ok (), host.setEndpoint s { host.endpoint s with readTimeout := reading, writeTimeout := writing }) := by
  unfold setTimeouts Endpoint.setReadTimeout Endpoint.setWriteTimeout
  rw [first, second]
  rfl

end Host

namespace Connection

/-- Taking a socket into use changes neither the bytes that it holds nor the turns of its calls. -/
theorem attach_ok {host : Host} {s : SocketId} {config : FrameConfig} {control : ControlId}
    (inRange : s.connection < host.links.length) (inactive : (host.control control).active = none)
    (reading : Endpoint.checkTimeout config.readTimeout = .ok ())
    (writing : Endpoint.checkTimeout config.writeTimeout = .ok ()) :
    ∃ after descriptors, attach host s config control = (.ok ⟨s, { config }, { config }⟩, after) ∧
      after.links.length = host.links.length ∧
      after.link s = { host.link s with
        near := { (host.link s).near with
          descriptors, readTimeout := config.readTimeout, writeTimeout := config.writeTimeout } } ∧
      (after.control control).isRequested = (host.control control).isRequested := by
  have unregistered : (host.duplicate s).unregister control = host.duplicate s := by
    unfold Host.unregister
    rw [show (host.duplicate s).control control = host.control control from rfl, inactive]
  let twice := (host.duplicate s).duplicate s
  let ready := twice.setControl control { twice.control control with active := some s }
  let after := ready.setEndpoint s
    { ready.endpoint s with readTimeout := config.readTimeout, writeTimeout := config.writeTimeout }
  have length : ready.links.length = host.links.length :=
    (Host.setLink_length ..).trans (Host.setLink_length ..)
  have link : ready.link s = (host.link s).duplicate.duplicate := by
    have once : (host.duplicate s).link s = (host.link s).duplicate := Host.link_setLink inRange
    have again : twice.link s = ((host.duplicate s).link s).duplicate :=
      Host.link_setLink (by simpa [Host.duplicate, Host.onLink] using inRange)
    rw [← once, ← again]
    rfl
  refine ⟨after, (host.link s).near.descriptors + 2, ?_, ?_, ?_, ?_⟩
  · unfold attach Host.register
    rw [unregistered]
    simp only [Host.setTimeouts_ok reading writing]
    rfl
  · exact (Host.setLink_length ..).trans length
  · have moved : after.link s = _ := Host.link_setLink (by rw [length]; exact inRange)
    rw [moved, Host.endpoint, link]
    rfl
  · exact Host.isRequested_setControl twice control (some s)

def messageIn : Outcome (Option Bytes) → Outcome (Option Message)
  | .done (.ok (some frame)) => .done ((messageOfFrame frame).map some)
  | .done (.ok none) => .done (.ok none)
  | .done (.error error) => .done (.error error)
  | .waiting => .waiting

/-- Reading a message answers as to all bytes that have come, and leaves the others where they are; it puts none there. -/
theorem readMessage_answered (c : Connection) {host : Host} (steady : (host.link c.socket).Steady) :
    let e := host.endpoint c.socket
    let expected := FrameReader.answer c.reader.config.maxSize e.ending (c.reader.buffer ++ e.inbox)
    ∃ reader content turns, (∀ turn ∈ turns, ReadTurn.IsBenign turn) ∧ reader.config = c.reader.config ∧
      reader.buffer ++ content = expected.2 ∧ content.length ≤ e.inbox.length ∧
      c.readMessage host = (messageIn expected.1, { c with reader },
        host.setEndpoint c.socket { e with inbox := content, readTurns := turns }) := by
  intro e expected
  have whole : e.Left e.inbox e := ⟨e.readTurns, steady.reads, rfl⟩
  obtain ⟨content, outcome, config, remains, turns, benign, left⟩ :=
    FrameReader.tryRead_answered (Endpoint.conveyor steady.unreset) c.reader e whole
  have shrinks : (c.reader.tryRead e).2.2.inbox.length ≤ e.inbox.length := c.reader.pull_shrinks _ e
  have answered : expected.1 = (c.reader.tryRead e).1 := outcome.symm
  refine ⟨(c.reader.tryRead e).2.1, content, turns, benign, config, remains, ?_, ?_⟩
  · rwa [left] at shrinks
  · rw [answered, show ({ e with inbox := content, readTurns := turns } : Endpoint) = _ from left.symm]
    rfl

theorem hangUp_sameInboxes (c : Connection) (host : Host) : host.SameInboxes (c.hangUp host) := by
  have down := host.shutdown_sameInboxes c.socket .both
  have once := (host.shutdown c.socket .both).release_sameInboxes c.socket
  exact (down.trans once).trans (Host.release_sameInboxes _ _)

end Connection

namespace ChannelState

/-- The state without the peer. -/
def vacated : ChannelState → ChannelState
  | listening l _ => listening l none
  | connected _ | closed => closed

/-- The state that a session leaves behind. -/
def afterSession (state : ChannelState) : Except ChannelError Unit → ChannelState
  | .ok _ => state.vacated
  | .error _ => closed

end ChannelState

namespace Channel

theorem close_state (channel : Channel) (host : Host) :
    (channel.close host).1 = { channel with state := .closed } := by
  obtain ⟨state, path, config, control⟩ := channel
  rcases state with c | ⟨l, _ | c⟩ | _
  all_goals rfl

theorem close_sameInboxes (channel : Channel) (host : Host) : host.SameInboxes (channel.close host).2 := by
  have parted := host.unregister_sameInboxes channel.control
  have silent l := parted.trans (Host.dropListener_sameInboxes _ l)
  unfold close
  split
  · exact ⟨rfl, fun _ => rfl⟩
  · exact parted.trans (Connection.hangUp_sameInboxes _ _)
  · exact silent _
  · exact (silent _).trans (Connection.hangUp_sameInboxes _ _)

theorem detachPeer_state (channel : Channel) (host : Host) :
    (channel.detachPeer host).1 = { channel with state := channel.state.vacated } := by
  unfold detachPeer
  split
  · rename_i l peer state
    rw [state]
    rfl
  · rename_i other
    rw [close_state]
    cases state : channel.state with
    | listening l peer => exact absurd state (other l peer)
    | connected | closed => rfl

theorem detachPeer_sameInboxes (channel : Channel) (host : Host) : host.SameInboxes (channel.detachPeer host).2 := by
  have parted := host.unregister_sameInboxes channel.control
  unfold detachPeer
  split
  · rename_i l peer _
    cases peer with
    | none => exact parted
    | some c => exact parted.trans (Connection.hangUp_sameInboxes _ _)
  · exact close_sameInboxes channel host

theorem fail_eq_close {channel : Channel} {error : ChannelError} (fatal : leavesOpen error = false) (host : Host) :
    channel.fail error host = channel.close host := by
  rw [fail, fatal]
  rfl

theorem state_of_connection {channel : Channel} {c : Connection} (connected : channel.connection? = some c) :
    channel.state = .connected c ∨ ∃ l, channel.state = .listening l (some c) := by
  unfold connection? at connected
  split at connected
  · rename_i own state
    cases connected
    exact .inl state
  · rename_i l peer state
    subst connected
    exact .inr ⟨l, state⟩
  · cases connected

/-- Once the peer is gone a shutdown handle has nothing to interrupt. -/
theorem detachPeer_inactive {channel : Channel} {c : Connection} (connected : channel.connection? = some c) (host : Host) :
    ((channel.detachPeer host).2.control channel.control).active = none := by
  have parted := host.unregister_inactive channel.control
  unfold detachPeer close
  rcases state_of_connection connected with state | ⟨l, state⟩
  · rw [state]
    exact parted
  · rw [state]
    exact parted

theorem established_of_connection {channel : Channel} {c : Connection} (connected : channel.connection? = some c) :
    channel.established = .ok c := by
  unfold established
  rcases state_of_connection connected with state | ⟨l, state⟩
  · rw [state]
  · rw [state]

/-- The connection may go on to another state without a change of anything else. -/
theorem setConnection_of_connection {channel : Channel} {c : Connection} (connected : channel.connection? = some c)
    (next : Connection) :
    ∃ state, channel.setConnection next = { channel with state } ∧ state.vacated = channel.state.vacated ∧
      (channel.setConnection next).connection? = some next := by
  unfold setConnection
  rcases state_of_connection connected with state | ⟨l, state⟩
  · rw [state]
    exact ⟨_, rfl, rfl, rfl⟩
  · rw [state]
    exact ⟨_, rfl, rfl, rfl⟩

end Channel

namespace Session
variable {ρ : Type} {handler : Handler ρ} {session : Session ρ} {c : Connection} {m : Message} {host : Host}
  {next : ρ} {actions : List HandlerAction}

theorem serve_of_other (other : ¬ m.isRequest) : session.serve handler c m host =
    ({ session with phase := .failing (.unexpectedType .request .response) }, host) := if_neg other

/-- Where the reply is missing or too large nothing is sent. -/
theorem serve_of_error (inRange : c.socket.connection < host.links.length) (request : m.isRequest)
    (handled : handler session.memory m = (next, actions)) (obedient : .shutdown ∉ actions) {error : ChannelError}
    (refused : replyTo c.writer.config.maxSize m actions = .error error) :
    session.serve handler c m host = ({ session with memory := next, phase := .failing error }, host) := by
  have performed := perform_slot session.channel.shutdownHandle obedient .empty host
  unfold replyTo HandlerAction.lastPlaced at refused
  simp only [serve, request, if_true, handled, performed, ReplySlot.take]
  cases left : actions.foldl HandlerAction.leaves none with
  | none =>
    rw [left] at refused
    cases refused
    simp only [ReplySlot.empty, left]
  | some reply =>
    rw [left] at refused
    cases encoded : encodeMessage c.writer.config.maxSize reply [] with
    | ok frame =>
      simp only [encoded] at refused
      cases refused
    | error cause =>
      simp only [encoded] at refused
      cases refused
      simp only [ReplySlot.empty, left, Connection.send, FrameWriter.send_refused c.writer _ encoded,
        Host.setLink_link inRange]

/-- A reply that a frame can hold goes out as that frame. -/
theorem serve_of_ok (steady : (host.link c.socket).Steady) (request : m.isRequest)
    (handled : handler session.memory m = (next, actions)) (obedient : .shutdown ∉ actions) {reply : Message}
    (fits : replyTo c.writer.config.maxSize m actions = .ok reply) :
    ∃ turns, (∀ turn ∈ turns, WriteTurn.IsBenign turn) ∧
      session.serve handler c m host = ({ session with memory := next, phase := .checking },
        host.setLink c.socket ((host.link c.socket).written turns (frameOf reply.bytes))) := by
  have performed := perform_slot session.channel.shutdownHandle obedient .empty host
  unfold replyTo HandlerAction.lastPlaced at fits
  simp only [serve, request, if_true, handled, performed, ReplySlot.take]
  cases left : actions.foldl HandlerAction.leaves none with
  | none =>
    rw [left] at fits
    cases fits
  | some placed =>
    rw [left] at fits
    cases encoded : encodeMessage c.writer.config.maxSize placed [] with
    | error cause =>
      simp only [encoded] at fits
      cases fits
    | ok frame =>
      simp only [encoded] at fits
      cases fits
      obtain ⟨turns, benign, sent⟩ := FrameWriter.send_steady c.writer steady encoded
      refine ⟨turns, benign, ?_⟩
      simp only [ReplySlot.empty, left, Connection.send, sent]

end Session
end CallWire
