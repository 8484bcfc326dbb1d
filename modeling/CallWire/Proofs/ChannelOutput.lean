import CallWire.Proofs.InboxGains
import CallWire.Proofs.ServedConnection

/-! What the operations of a channel write to one of its connections: the attempts to send that they make there, and
nothing else. An attempt that may have left less than a frame closes the channel. -/

namespace CallWire

/-- An attempt to send some bytes as a frame. -/
structure Attempt where
  content : Bytes
  result : Except ChannelError Unit

namespace Attempt

/-- The frame that a successful attempt leaves on the stream. -/
def frame (a : Attempt) : Bytes :=
  match a.result with
  | .ok _ => frameOf a.content
  | .error _ => []

/-- All was sent, or the message was over the limit and nothing was. -/
def IsClean (a : Attempt) : Prop :=
  match a.result with
  | .ok _ | .error (.frameTooLarge _ _) => True
  | .error _ => False

end Attempt

theorem Channel.leavesOpen_of_isOfStream {error : ChannelError} (cause : error.IsOfStream) :
    leavesOpen error = false := by
  cases error with
  | io _ | connectionClosed => rfl
  | _ => exact cause.elim

theorem Adds.cases {a : Attempt} {part : Bytes} (adds : Adds a.content a.result part) :
    a.IsClean ∧ part = a.frame ∨
      ¬ a.IsClean ∧ a.frame = [] ∧ part <+: frameOf a.content ∧
        ∃ error, a.result = .error error ∧ error.IsOfStream := by
  obtain ⟨content, result⟩ := a
  cases adds with
  | sent => exact .inl ⟨trivial, rfl⟩
  | refused => exact .inl ⟨trivial, rfl⟩
  | @torn error part cause front =>
    refine .inr ⟨?_, rfl, front, error, rfl, cause⟩
    cases error with
    | io _ | connectionClosed => exact id
    | _ => exact cause.elim

/-- The attempts that were made to send at a socket, told by what came to its peer. -/
inductive Wrote (s : SocketId) (before after : Host) : List Attempt → Prop
  | nothing (quiet : before.Quiet s.peer after) : Wrote s before after []
  | attempt {a part} (adds : Adds a.content a.result part) (gains : before.Gains s.peer part after) :
      Wrote s before after [a]

section
variable {s : SocketId} {first second third host after : Host} {attempts : List Attempt}

theorem Wrote.later (quiet : first.Quiet s.peer second) (wrote : Wrote s second third attempts) :
    Wrote s first third attempts := by
  cases wrote with
  | nothing again => exact .nothing (quiet.trans again)
  | attempt adds gains => exact .attempt adds (Host.Gains.trans quiet gains)

theorem Wrote.earlier (wrote : Wrote s first second attempts) (quiet : second.Quiet s.peer third) :
    Wrote s first third attempts := by
  cases wrote with
  | nothing again => exact .nothing (again.trans quiet)
  | attempt adds gains => exact .attempt adds (gains.quietly quiet)

theorem Wrote.gains (wrote : Wrote s first second attempts) : ∃ part, first.Gains s.peer part second := by
  cases wrote with
  | nothing quiet => exact ⟨[], quiet⟩
  | attempt adds gains => exact ⟨_, gains⟩

theorem SocketId.ne_peer {t : SocketId} (side : t.isAccepted = s.isAccepted) : t ≠ s.peer := by
  rintro rfl
  simp [peer] at side

theorem SocketId.peer_peer (t : SocketId) : t.peer.peer = t := by
  cases t
  simp [peer]

theorem SocketId.peer_ne {t : SocketId} (other : t ≠ s) : t.peer ≠ s.peer := by
  intro same
  have twice := congrArg peer same
  rw [peer_peer, peer_peer] at twice
  exact other twice

/-- The attempt counts if the connection is the one at this socket. -/
def Connection.attempted (c : Connection) (s : SocketId) (content : Bytes) (result : Except ChannelError Unit) :
    List Attempt :=
  if c.socket = s then [⟨content, result⟩] else []

theorem Connection.eq_of_mem_attempted {c : Connection} {content : Bytes} {result : Except ChannelError Unit} {a : Attempt}
    (member : a ∈ c.attempted s content result) : a = ⟨content, result⟩ := by
  unfold attempted at member
  split at member
  · exact List.mem_singleton.mp member
  · cases member

theorem Connection.reconfigure_socket (c : Connection) {c' : Connection} {config : FrameConfig}
    (done : c.reconfigure config host = (.ok c', after)) : c'.socket = c.socket := by
  unfold reconfigure at done
  split at done
  · cases done
    rfl
  · cases done

theorem Connection.attach_socket {t : SocketId} {config : FrameConfig} {control : ControlId} {c : Connection}
    (done : attach host t config control = (.ok c, after)) : c.socket = t := by
  unfold attach at done
  dsimp only at done
  split at done
  · cases done
    rfl
  · cases done

theorem Host.mem_backlog_of_accept {l : ListenerId} {t : SocketId} (done : host.accept l = (some t, after)) :
    t ∈ (host.listener l).backlog := by
  unfold accept at done
  dsimp only at done
  split at done
  · cases done
  · rename_i first rest backlog
    cases done
    rw [backlog]
    exact List.mem_cons_self

theorem Host.enqueue_socket (host : Host) (l : ListenerId) :
    (host.enqueue l).1.isAccepted = false ∧ (host.enqueue l).1.connection < (host.enqueue l).2.links.length := by
  refine ⟨rfl, ?_⟩
  show host.links.length < (host.links ++ [({} : Link)]).length
  rw [List.length_append]
  exact Nat.lt_succ_self _

theorem Connection.send_wrote (c : Connection) (content : Bytes) (side : c.socket.isAccepted = s.isAccepted)
    (inRange : c.socket.connection < host.links.length) :
    Wrote s host (c.send content host).2 (c.attempted s content (c.send content host).1) := by
  have apart := SocketId.ne_peer side
  unfold attempted
  split
  · rename_i own
    subst own
    obtain ⟨part, grown, adds⟩ := c.writer.send_adds Link.account content (host.link c.socket)
    refine .attempt adds (Host.gains_setLink (fun own => absurd own apart) (fun _ => ?_) inRange (.inl rfl))
    rw [Host.endpoint_peer]
    exact grown
  · rename_i other
    refine .nothing (Host.quiet_setLink (fun own => absurd own apart) fun own => absurd own (SocketId.peer_ne other))

/-- What an operation came to that made these attempts. A channel that is spent makes none and stays so, and it is spent
after an attempt that was not clean. -/
structure Emits (s : SocketId) (spent spent' : Prop) (before after : Host) (attempts : List Attempt) : Prop where
  wrote : Wrote s before after attempts
  live : attempts ≠ [] → ¬ spent
  ends : ∀ a ∈ attempts, ¬ a.IsClean → spent'
  stays : spent → spent'

theorem Emits.quiet {spent spent' : Prop} (quiet : first.Quiet s.peer second) (stays : spent → spent') :
    Emits s spent spent' first second [] :=
  ⟨.nothing quiet, fun some => absurd rfl some, by simp, stays⟩

end

namespace Channel

def attempted (channel : Channel) (s : SocketId) (content : Bytes) (result : Except ChannelError Unit) : List Attempt :=
  channel.connection?.elim [] fun c => c.attempted s content result

/-- The channel stands on the same side of its connections as the socket: it has connected, or it accepts. -/
structure Grounded (channel : Channel) (s : SocketId) (host : Host) : Prop where
  sound : host.Sound
  side : ∀ c, channel.connection? = some c →
    c.socket.isAccepted = s.isAccepted ∧ c.socket.connection < host.links.length
  role : ∀ l peer, channel.state = .listening l peer → s.isAccepted = true

/-- The channel has no other connection than it had, and no other role. -/
structure Narrows (before after : Channel) : Prop where
  socket : ∀ c, after.connection? = some c → ∃ c', before.connection? = some c' ∧ c'.socket = c.socket
  role : ∀ l peer, after.state = .listening l peer → ∃ peer', before.state = .listening l peer'
  closed : before.state = .closed → after.state = .closed

section
variable {channel next last : Channel} {s : SocketId} {host after : Host} {c : Connection}

theorem narrows_refl (channel : Channel) : channel.Narrows channel :=
  ⟨fun c connected => ⟨c, connected, rfl⟩, fun _ peer listening => ⟨peer, listening⟩, id⟩

theorem Narrows.trans (left : channel.Narrows next) (right : next.Narrows last) : channel.Narrows last := by
  refine ⟨fun c connected => ?_, fun l peer listening => ?_, fun closed => right.closed (left.closed closed)⟩
  · obtain ⟨between, connected, same⟩ := right.socket c connected
    obtain ⟨own, connected, same'⟩ := left.socket between connected
    exact ⟨own, connected, same'.trans same⟩
  · obtain ⟨peer, listening⟩ := right.role l peer listening
    exact left.role l peer listening

theorem narrows_of_closed (closed : next.state = .closed) : channel.Narrows next := by
  refine ⟨fun c connected => ?_, fun l peer listening => ?_, fun _ => closed⟩
  · simp [connection?, closed] at connected
  · simp [closed] at listening

theorem narrows_of_state (same : next.state = channel.state) : channel.Narrows next := by
  refine ⟨fun c connected => ⟨c, ?_, rfl⟩, fun l peer listening => ⟨peer, same ▸ listening⟩, fun closed => same ▸ closed⟩
  unfold connection? at connected ⊢
  rwa [same] at connected

theorem narrows_setConnection {c' : Connection} (connected : channel.connection? = some c) (same : c'.socket = c.socket) :
    channel.Narrows (channel.setConnection c') := by
  have present : (channel.setConnection c').connection? = some c' := by
    obtain ⟨_, _, _, present⟩ := setConnection_of_connection connected c'
    exact present
  refine ⟨fun other there => ?_, fun l peer listening => ?_, fun closed => ?_⟩
  · rw [present] at there
    cases there
    exact ⟨c, connected, same.symm⟩
  · rcases state_of_connection connected with state | ⟨l', state⟩
    · simp [setConnection, state] at listening
    · simp only [setConnection, state, ChannelState.listening.injEq] at listening
      exact ⟨_, listening.1 ▸ state⟩
  · simp [connection?, closed] at connected

theorem Grounded.elsewhere (grounded : channel.Grounded s host) (sound : after.Sound)
    (grows : host.links.length ≤ after.links.length) : channel.Grounded s after := by
  refine ⟨sound, fun c connected => ?_, grounded.role⟩
  obtain ⟨side, inRange⟩ := grounded.side c connected
  exact ⟨side, Nat.lt_of_lt_of_le inRange grows⟩

theorem Grounded.narrow {p : SocketId} {part : Bytes} (grounded : channel.Grounded s host) (narrows : channel.Narrows next)
    (gains : host.Gains p part after) : next.Grounded s after := by
  refine Grounded.elsewhere ⟨grounded.sound, fun c connected => ?_, fun l peer listening => ?_⟩
    (gains.sound grounded.sound) gains.grows
  · obtain ⟨own, connected, same⟩ := narrows.socket c connected
    rw [← same]
    exact grounded.side own connected
  · obtain ⟨peer, listening⟩ := narrows.role l peer listening
    exact grounded.role l peer listening

theorem Grounded.narrow_emits {spent spent' : Prop} {attempts : List Attempt} (grounded : channel.Grounded s host)
    (narrows : channel.Narrows next) (emits : Emits s spent spent' host after attempts) : next.Grounded s after := by
  obtain ⟨part, gains⟩ := emits.wrote.gains
  exact grounded.narrow narrows gains

theorem Grounded.setConnection (grounded : channel.Grounded s host) (side : c.socket.isAccepted = s.isAccepted)
    (inRange : c.socket.connection < host.links.length) : (channel.setConnection c).Grounded s host := by
  unfold Channel.setConnection
  split
  · refine ⟨grounded.sound, fun other there => ?_, nofun⟩
    cases there
    exact ⟨side, inRange⟩
  · rename_i l peer state
    refine ⟨grounded.sound, fun other there => ?_, fun _ _ _ => grounded.role l peer state⟩
    cases there
    exact ⟨side, inRange⟩
  · exact grounded

/-- Channels are grounded as soon as they are made, by connecting or by binding. -/
theorem grounded_of_connect {path : String} (connected : Channel.connect path host = (.ok channel, after)) (sound : host.Sound)
    (side : s.isAccepted = false) : channel.Grounded s after := by
  have reached := host.connectTo_quiet s path
  unfold connect at connected
  rcases host.connectTo_cases path with ⟨error, refused⟩ | ⟨l, joined⟩
  · have refused : host.connect path = (.error (.connect path error), host) := by
      rw [Host.connect, refused]
      rfl
    rw [refused] at connected
    cases connected
  · obtain ⟨near, inRange⟩ := host.enqueue_socket l
    rw [joined] at reached
    generalize host.enqueue l = entered at near inRange joined reached
    obtain ⟨t, host'⟩ := entered
    have joined : host.connect path = (.ok t, host') := by
      rw [Host.connect, joined]
      rfl
    rw [joined] at connected
    have opened := host'.newControl_quiet s {}
    rcases made : host'.newControl {} with ⟨control, host''⟩
    rw [made] at opened
    have attached := opened.trans (Connection.attach_quiet s host'' t {} control)
    simp only [made] at connected
    split at connected
    · rename_i c host''' done
      cases connected
      rw [done] at attached
      refine ⟨attached.sound (reached.sound sound), fun c' there => ?_, fun _ _ listening => ?_⟩
      · cases there
        rw [Connection.attach_socket done]
        exact ⟨near.trans side.symm, Nat.lt_of_lt_of_le inRange attached.grows⟩
      · cases listening
    · cases connected

theorem grounded_of_bind {path : String} (listens : Channel.bind path host = (.ok channel, after)) (sound : host.Sound)
    (side : s.isAccepted = true) : channel.Grounded s after := by
  have opened := host.bind_quiet s path
  unfold bind at listens
  split at listens
  · cases listens
  · rename_i l host' done
    rw [done] at opened
    cases listens
    exact ⟨(opened.trans (host'.newControl_quiet s _)).sound sound, nofun, fun _ _ _ => side⟩

theorem fail_narrows (channel : Channel) (error : ChannelError) (host : Host) :
    channel.Narrows (channel.fail error host).1 := by
  unfold fail
  split
  · exact channel.narrows_refl
  · exact narrows_of_closed (by rw [close_state])

theorem detachPeer_narrows (channel : Channel) (host : Host) : channel.Narrows (channel.detachPeer host).1 := by
  rw [detachPeer_state]
  cases state : channel.state with
  | closed | connected c => exact narrows_of_closed rfl
  | listening l peer =>
    refine ⟨nofun, fun l' peer' listening => ?_, fun closed => ?_⟩
    · cases listening
      exact ⟨peer, state⟩
    · cases state.symm.trans closed

theorem connection?_of_established (established : channel.established = .ok c) : channel.connection? = some c := by
  unfold Channel.established at established
  split at established
  · cases established
  · rename_i state
    cases established
    rw [connection?, state]
  · rename_i state
    cases established
    rw [connection?, state]
  · cases established

theorem connection?_of_not_established {error : ChannelError} (lacking : channel.established = .error error) :
    channel.connection? = none := by
  cases connected : channel.connection? with
  | none => rfl
  | some c =>
    rw [established_of_connection connected] at lacking
    cases lacking

theorem fail_state {error : ChannelError} (cause : error.IsOfStream) (host : Host) :
    (channel.fail error host).1.state = .closed := by
  rw [fail_eq_close (leavesOpen_of_isOfStream cause), close_state]

/-- Where nothing is left unfinished the channel stays as it is. -/
theorem sendRaw_of_clean (established : channel.established = .ok c) {content : Bytes} {result : Except ChannelError Unit}
    (sent : c.send content host = (result, after)) (clean : (⟨content, result⟩ : Attempt).IsClean) :
    channel.sendRaw content host = (result, channel, after) := by
  unfold sendRaw
  simp only [established, sent]
  cases result with
  | ok => rfl
  | error error =>
    cases error with
    | frameTooLarge => rfl
    | _ => exact clean.elim

theorem sendRaw_of_broken (established : channel.established = .ok c) {content : Bytes} {error : ChannelError}
    (sent : c.send content host = (.error error, after)) (cause : error.IsOfStream) :
    channel.sendRaw content host = (.error error, channel.fail error after) := by
  unfold sendRaw
  simp only [established, sent]
  cases error with
  | io _ | connectionClosed => rfl
  | _ => exact cause.elim

theorem sendRaw_emits (grounded : channel.Grounded s host) (content : Bytes) :
    channel.Narrows (channel.sendRaw content host).2.1 ∧
      Emits s (channel.state = .closed) ((channel.sendRaw content host).2.1.state = .closed) host
        (channel.sendRaw content host).2.2 (channel.attempted s content (channel.sendRaw content host).1) := by
  unfold attempted
  cases established : channel.established with
  | error error =>
    have narrows := channel.fail_narrows error host
    rw [connection?_of_not_established established, sendRaw, established]
    exact ⟨narrows, .quiet (channel.fail_quiet _ host error) narrows.closed⟩
  | ok c =>
    have connected := connection?_of_established established
    have opened : channel.state ≠ .closed := fun closed => by simp [connection?, closed] at connected
    obtain ⟨side, inRange⟩ := grounded.side c connected
    have wrote := c.send_wrote content side inRange
    obtain ⟨part, _, adds⟩ := c.writer.send_adds Link.account content (host.link c.socket)
    change Adds content (c.send content host).1 part at adds
    rcases sent : c.send content host with ⟨result, after⟩
    rw [sent] at wrote adds
    have only a (member : a ∈ c.attempted s content result) : a = ⟨content, result⟩ := c.eq_of_mem_attempted member
    rw [connected]
    rcases Adds.cases (a := ⟨content, result⟩) adds with ⟨clean, _⟩ | ⟨_, _, _, error, failed, cause⟩
    · rw [sendRaw_of_clean established sent clean]
      exact ⟨channel.narrows_refl, wrote, fun _ => opened, fun a member broken => absurd (only a member ▸ clean) broken, id⟩
    · cases failed
      have closed := channel.fail_state cause after
      rw [sendRaw_of_broken established sent cause]
      exact ⟨narrows_of_closed closed, wrote.earlier (channel.fail_quiet _ after error), fun _ => opened,
        fun _ _ _ => closed, fun _ => closed⟩

/-- Receiving writes nothing, whatever comes of it. -/
theorem recv_quiet (grounded : channel.Grounded s host) :
    channel.Narrows (channel.recv host).2.1 ∧ host.Quiet s.peer (channel.recv host).2.2 := by
  unfold recv
  cases established : channel.established with
  | error error => exact ⟨channel.fail_narrows error host, channel.fail_quiet _ host error⟩
  | ok c =>
    have connected := connection?_of_established established
    obtain ⟨side, _⟩ := grounded.side c connected
    have quiet := c.readMessage_quiet s.peer host (SocketId.ne_peer side)
    have same : (c.readMessage host).2.1.socket = c.socket := rfl
    rcases received : c.readMessage host with ⟨outcome, c', after⟩
    rw [received] at quiet same
    have narrows := narrows_setConnection connected same
    simp only [received]
    split
    · exact ⟨narrows.trans (fail_narrows _ _ _), quiet.trans (fail_quiet _ _ _ _)⟩
    · exact ⟨narrows, quiet⟩

theorem recvReply_quiet (grounded : channel.Grounded s host) (request : Message) :
    channel.Narrows (channel.recvReply request host).2.1 ∧ host.Quiet s.peer (channel.recvReply request host).2.2 := by
  have received := recv_quiet grounded
  unfold recvReply
  split
  · rename_i came
    rwa [came] at received
  · exact received

/-- A call sends its request, and what comes then writes nothing. -/
theorem call_emits (grounded : channel.Grounded s host) (request : Message) :
    channel.Narrows (channel.call request host).2.1 ∧
      Emits s (channel.state = .closed) ((channel.call request host).2.1.state = .closed) host
        (channel.call request host).2.2 (channel.attempted s request.bytes (channel.send request host).1) := by
  obtain ⟨narrows, emits⟩ := sendRaw_emits grounded request.bytes
  unfold call
  change channel.Narrows (channel.send request host).2.1 at narrows
  change Emits s _ ((channel.send request host).2.1.state = .closed) host (channel.send request host).2.2
    (channel.attempted s request.bytes (channel.send request host).1) at emits
  generalize channel.send request host = sent at narrows emits
  obtain ⟨result, next, after⟩ := sent
  cases result with
  | error error => exact ⟨narrows, emits⟩
  | ok =>
    obtain ⟨narrows', quiet⟩ := recvReply_quiet (grounded.narrow_emits narrows emits) request
    obtain ⟨wrote, live, ends, stays⟩ := emits
    exact ⟨narrows.trans narrows', wrote.earlier quiet, live, fun a member broken => narrows'.closed (ends a member broken),
      fun closed => narrows'.closed (stays closed)⟩

theorem withConfig_quiet {config : FrameConfig} {result : Except ChannelError Channel}
    (done : channel.withConfig config host = (result, after)) (s : SocketId) :
    host.Quiet s.peer after ∧ ∀ next, result = .ok next → channel.Narrows next := by
  unfold withConfig at done
  split at done
  · cases done
    exact ⟨host.quiet_refl _, fun _ => nofun⟩
  · cases done
    refine ⟨host.quiet_refl _, fun next made => ?_⟩
    cases made
    exact narrows_of_state rfl
  · rename_i c established
    have quiet := c.reconfigure_quiet s.peer host config
    split at done
    · rename_i c' after' configured
      cases done
      rw [configured] at quiet
      refine ⟨quiet, fun next made => ?_⟩
      cases made
      have narrows := narrows_setConnection (connection?_of_established established) (c.reconfigure_socket configured)
      exact narrows.trans (narrows_of_state rfl)
    · rename_i error after' configured
      cases done
      rw [configured] at quiet
      exact ⟨quiet.trans (channel.close_quiet _ after'), fun _ => nofun⟩

end
end Channel
end CallWire
