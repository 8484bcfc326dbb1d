import CallWire.Proofs.AcceptLoop
import CallWire.Proofs.ListeningPath

/-! A listening channel and the one peer that it serves. From the peer's arrival to the end of the session the path stays
the channel's, and the peer's end is left open; a session that ends cleanly goes on listening there, and one that fails
leaves room at the path. -/

namespace CallWire

/-- The calls at an end go as they were going to. -/
structure Host.SameTurns (p : SocketId) (before after : Host) : Prop where
  reads : (after.endpoint p).readTurns = (before.endpoint p).readTurns
  writes : (after.endpoint p).writeTurns = (before.endpoint p).writeTurns

/-- No other connection is touched. -/
structure Host.Spares (s : SocketId) (before after : Host) : Prop where
  length : after.links.length = before.links.length
  others : ∀ p : SocketId, p.connection ≠ s.connection → after.endpoint p = before.endpoint p

namespace Host
variable {host second third : Host} {p s : SocketId}

theorem Spares.trans (left : host.Spares s second) (right : second.Spares s third) : host.Spares s third :=
  ⟨right.length.trans left.length, fun p other => (right.others p other).trans (left.others p other)⟩

theorem spares_of_links (same : second.links = host.links) : host.Spares s second := by
  refine ⟨congrArg List.length same, fun p _ => ?_⟩
  rw [endpoint, endpoint, link, link, same]

theorem setLink_spares (host : Host) (s : SocketId) (link : Link) : host.Spares s (host.setLink s link) :=
  ⟨setLink_length .., fun _ other => endpoint_setLink_of_ne (Ne.symm other) link⟩

theorem SameTurns.trans (left : host.SameTurns p second) (right : second.SameTurns p third) : host.SameTurns p third :=
  ⟨right.reads.trans left.reads, right.writes.trans left.writes⟩

theorem sameTurns_of_endpoint (same : second.endpoint p = host.endpoint p) : host.SameTurns p second :=
  ⟨congrArg Endpoint.readTurns same, congrArg Endpoint.writeTurns same⟩

/-- What a change of a link leaves alone at both ends, it leaves alone everywhere. -/
theorem onLink_endpoint {α : Type} (f : Endpoint → α) (host : Host) (p t : SocketId) {change : Link → Link}
    (kept : ∀ l, f (change l).near = f l.near ∧ f (change l).far = f l.far) :
    f ((host.onLink t change).endpoint p) = f (host.endpoint p) := by
  by_cases same : t.connection = p.connection
  · by_cases inRange : t.connection < host.links.length
    · obtain rfl | rfl := SocketId.eq_or_eq_peer same
      · rw [endpoint, onLink, link_setLink inRange]
        exact (kept (host.link t)).1
      · rw [endpoint_peer, endpoint_peer, onLink, link_setLink inRange]
        exact (kept (host.link t)).2
    · rw [onLink, setLink, List.set_eq_of_length_le (Nat.not_lt.mp inRange)]
  · rw [onLink, endpoint_setLink_of_ne same]

theorem onLink_sameTurns (host : Host) (p t : SocketId) {change : Link → Link}
    (near : ∀ l, (change l).near.readTurns = l.near.readTurns ∧ (change l).near.writeTurns = l.near.writeTurns)
    (far : ∀ l, (change l).far.readTurns = l.far.readTurns ∧ (change l).far.writeTurns = l.far.writeTurns) :
    host.SameTurns p (host.onLink t change) :=
  ⟨host.onLink_endpoint Endpoint.readTurns p t fun l => ⟨(near l).1, (far l).1⟩,
    host.onLink_endpoint Endpoint.writeTurns p t fun l => ⟨(near l).2, (far l).2⟩⟩

section
variable (host : Host) (p : SocketId)

theorem shutdown_sameTurns (t : SocketId) (direction : Direction) : host.SameTurns p (host.shutdown t direction) :=
  host.onLink_sameTurns p t (fun _ => ⟨rfl, rfl⟩) fun _ => ⟨rfl, rfl⟩

theorem release_sameTurns (t : SocketId) : host.SameTurns p (host.release t) := by
  refine host.onLink_sameTurns p t (fun l => ?_) fun l => ?_
  · unfold Link.release
    split
    · exact ⟨rfl, rfl⟩
    · exact ⟨rfl, rfl⟩
  · unfold Link.release
    split
    · exact ⟨rfl, rfl⟩
    · exact ⟨rfl, rfl⟩

theorem unregister_sameTurns (c : ControlId) : host.SameTurns p (host.unregister c) := by
  unfold unregister
  split
  · exact ⟨rfl, rfl⟩
  · have parted : host.SameTurns p (host.setControl c { host.control c with active := none }) := ⟨rfl, rfl⟩
    exact parted.trans (release_sameTurns _ p _)

theorem closeListener_sameTurns (l : ListenerId) : host.SameTurns p (host.closeListener l) := by
  have reset (waiting : List SocketId) (host : Host) :
      host.SameTurns p (waiting.foldl (fun host t => host.onLink t (Link.close true)) host) := by
    induction waiting generalizing host with
    | nil => exact ⟨rfl, rfl⟩
    | cons t rest ih =>
      have first : host.SameTurns p (host.onLink t (Link.close true)) :=
        host.onLink_sameTurns p t (fun _ => ⟨rfl, rfl⟩) fun _ => ⟨rfl, rfl⟩
      exact first.trans (ih _)
  exact (reset _ host).trans ⟨rfl, rfl⟩

theorem dropListener_sameTurns (l : ListenerId) : host.SameTurns p (host.dropListener l) := by
  unfold dropListener
  refine SameTurns.trans ?_ (closeListener_sameTurns _ p l)
  split
  · split
    · exact ⟨rfl, rfl⟩
    · exact ⟨rfl, rfl⟩
  · exact ⟨rfl, rfl⟩

end

theorem unregister_spares {c : ControlId} (registered : (host.control c).active = some s) : host.Spares s (host.unregister c) := by
  have parted : host.Spares s (host.setControl c { host.control c with active := none }) := spares_of_links rfl
  unfold unregister
  rw [registered]
  exact parted.trans (setLink_spares _ s _)

theorem closeListener_links {l : ListenerId} (nobody : (host.listener l).backlog = []) :
    (host.closeListener l).links = host.links := by
  unfold closeListener
  simp only [nobody]
  rfl

theorem dropListener_links {l : ListenerId} (nobody : (host.listener l).backlog = []) :
    (host.dropListener l).links = host.links := by
  unfold dropListener
  dsimp only
  rw [closeListener_links]
  · split
    · split
      · rfl
      · rfl
    · rfl
  · rw [← nobody]
    split
    · split
      · rfl
      · rfl
    · rfl

/-- Whoever releases a socket leaves the other end ended if it was. -/
theorem release_far_ended (inRange : s.connection < host.links.length)
    (ended : (host.endpoint s.peer).isEnded = true) : ((host.release s).endpoint s.peer).isEnded = true := by
  rw [endpoint_peer] at ended
  rw [endpoint_peer, release, onLink, link_setLink inRange]
  unfold Link.release
  split
  · rfl
  · exact ended

theorem isRequested_unregister (host : Host) (c : ControlId) :
    ((host.unregister c).control c).isRequested = (host.control c).isRequested := by
  unfold unregister
  split
  · rfl
  · exact host.isRequested_setControl c none

theorem setTimeouts_samePaths (host : Host) (s : SocketId) (reading writing : Option Nat) :
    host.SamePaths (host.setTimeouts s reading writing).2 := by
  unfold setTimeouts
  split
  · exact ⟨rfl, rfl, rfl⟩
  · split
    · exact ⟨rfl, rfl, rfl⟩
    · exact ⟨rfl, rfl, rfl⟩

end Host

namespace Connection
variable {host : Host}

theorem hangUp_sameTurns (c : Connection) (host : Host) (p : SocketId) : host.SameTurns p (c.hangUp host) :=
  ((host.shutdown_sameTurns p c.socket .both).trans (Host.release_sameTurns _ p _)).trans (Host.release_sameTurns _ p _)

theorem hangUp_spares (c : Connection) (host : Host) : host.Spares c.socket (c.hangUp host) := by
  have down : host.Spares c.socket (host.shutdown c.socket .both) := Host.setLink_spares ..
  have once : host.Spares c.socket ((host.shutdown c.socket .both).release c.socket) := down.trans (Host.setLink_spares ..)
  exact once.trans (Host.setLink_spares ..)

/-- Whoever hangs up ends the stream for the other. -/
theorem hangUp_far_ended (c : Connection) (inRange : c.socket.connection < host.links.length) :
    ((c.hangUp host).endpoint c.socket.peer).isEnded = true := by
  let down := host.shutdown c.socket .both
  have length : down.links.length = host.links.length := Host.setLink_length ..
  have ended : (down.endpoint c.socket.peer).isEnded = true := by
    rw [Host.endpoint_peer, show down.link c.socket = _ from Host.link_setLink inRange]
    simp [Link.shutdown]
  have once := Host.release_far_ended (length ▸ inRange) ended
  refine Host.release_far_ended ?_ once
  exact (Host.setLink_length ..).symm ▸ length ▸ inRange

/-- Sending adds to what the other end holds, and changes nothing else of it. -/
theorem send_far (c : Connection) (inRange : c.socket.connection < host.links.length) (content : Bytes) :
    ((c.send content host).2.endpoint c.socket.peer).isEnded = (host.endpoint c.socket.peer).isEnded ∧
      host.SameTurns c.socket.peer (c.send content host).2 := by
  let far (e : Endpoint) := (e.isEnded, e.readTurns, e.writeTurns)
  let kept (l : Link) : Prop := far l.far = far (host.link c.socket).far
  have writes : ∀ content l, kept l → kept (ByteSink.write content l).2 := by
    intro content l holds
    obtain ⟨_, _, _, failed⟩ | ⟨_, failed⟩ | ⟨moved, rest, _, _, accepted, _⟩ := l.write_cases content
    · rwa [show ByteSink.write content l = _ from failed]
    · rwa [show ByteSink.write content l = _ from failed]
    · rwa [show ByteSink.write content l = _ from accepted]
  have start : kept (host.link c.socket) := rfl
  have sent := c.writer.send_preserves writes (fun l holds => holds) content start
  have link : (c.send content host).2.link c.socket = (c.writer.send content (host.link c.socket)).2 :=
    Host.link_setLink inRange
  rw [← link] at sent
  simp only [kept, far, Prod.mk.injEq] at sent
  obtain ⟨ended, reads, writes⟩ := sent
  refine ⟨?_, ?_, ?_⟩
  · rw [Host.endpoint_peer, Host.endpoint_peer, ended]
  · rw [Host.endpoint_peer, Host.endpoint_peer, reads]
  · rw [Host.endpoint_peer, Host.endpoint_peer, writes]

/-- What reading a message leaves alone. -/
structure Reading (c : Connection) (host : Host) (c' : Connection) (after : Host) : Prop where
  socket : c'.socket = c.socket
  paths : host.SamePaths after
  controls : after.controls = host.controls
  spares : host.Spares c.socket after
  far : after.endpoint c.socket.peer = host.endpoint c.socket.peer

theorem readMessage_reading {c c' : Connection} {after : Host} {outcome : Outcome (Option Message)}
    (inRange : c.socket.connection < host.links.length) (received : c.readMessage host = (outcome, c', after)) :
    c.Reading host c' after := by
  unfold readMessage at received
  cases received
  exact ⟨rfl, ⟨rfl, rfl, rfl⟩, rfl, Host.setLink_spares .., Host.endpoint_peer_setEndpoint inRange _⟩

theorem attach_spares {host : Host} {s : SocketId} {config : FrameConfig} {control : ControlId}
    (inactive : (host.control control).active = none) : host.Spares s (attach host s config control).2 := by
  let ready := (host.duplicate s).register control s
  have alone : (host.duplicate s).unregister control = host.duplicate s := by
    unfold Host.unregister
    rw [show (host.duplicate s).control control = host.control control from rfl, inactive]
  have registered : host.Spares s ready := by
    have twice : host.Spares s ((host.duplicate s).duplicate s) := (Host.setLink_spares ..).trans (Host.setLink_spares ..)
    simp only [ready, Host.register, alone]
    exact twice.trans (Host.spares_of_links rfl)
  have timed : ready.Spares s (ready.setTimeouts s config.readTimeout config.writeTimeout).2 := by
    unfold Host.setTimeouts
    split
    · exact Host.spares_of_links rfl
    · split
      · exact Host.setLink_spares ..
      · exact Host.setLink_spares ..
  have both := registered.trans timed
  unfold attach
  dsimp only
  generalize ready.setTimeouts s config.readTimeout config.writeTimeout = result at both
  obtain ⟨_ | _, after⟩ := result
  · have once : host.Spares s (after.release s) := both.trans (Host.setLink_spares ..)
    exact once.trans (Host.setLink_spares ..)
  · exact both

theorem attach_samePaths (host : Host) (s : SocketId) (config : FrameConfig) (control : ControlId) :
    host.SamePaths (attach host s config control).2 := by
  let ready := (host.duplicate s).register control s
  have registered : host.SamePaths ready := by
    have first : host.SamePaths (host.duplicate s) := ⟨rfl, rfl, rfl⟩
    exact (first.trans (Host.unregister_samePaths _ control)).trans ⟨rfl, rfl, rfl⟩
  have timed := registered.trans (ready.setTimeouts_samePaths s config.readTimeout config.writeTimeout)
  unfold attach
  dsimp only
  generalize ready.setTimeouts s config.readTimeout config.writeTimeout = result at timed
  obtain ⟨_ | _, after⟩ := result
  · exact timed.trans ⟨rfl, rfl, rfl⟩
  · exact timed

end Connection

/-- A session is at its peer's service, and is going to part from it or to close the channel. -/
def Phase.IsBusy : Phase → Prop
  | .checking | .reading | .leaving | .detaching => True
  | .failing error => Channel.leavesOpen error = false
  | _ => False

namespace Session
variable {ρ : Type} {handler : Handler ρ} {session : Session ρ} {host : Host} {path : String} {l : ListenerId} {s : SocketId}

/-- Where a session stands that serves the peer at a socket, and how it stands with its path and with the peer's end. -/
inductive Attends (path : String) (l : ListenerId) (s : SocketId) (session : Session ρ) (host : Host) : Prop
  | arriving (phase : session.phase = .arriving) (state : session.channel.state = .listening l none)
      (listens : host.Listens path l [s]) (unended : (host.endpoint s.peer).isEnded = false)
      (unrequested : session.channel.shutdownHandle.isRequested host = false)
      (inactive : (host.control session.channel.control).active = none)
  | attaching (phase : session.phase = .attaching s) (state : session.channel.state = .listening l none)
      (listens : host.Listens path l []) (unended : (host.endpoint s.peer).isEnded = false)
      (unrequested : session.channel.shutdownHandle.isRequested host = false)
      (inactive : (host.control session.channel.control).active = none)
  | busy {c} (phase : session.phase.IsBusy) (state : session.channel.state = .listening l (some c)) (socket : c.socket = s)
      (listens : host.Listens path l []) (unended : (host.endpoint s.peer).isEnded = false)
      (unrequested : session.channel.shutdownHandle.isRequested host = false)
      (registered : (host.control session.channel.control).active = some s)
  | parted (phase : session.phase = .finished (.ok ())) (state : session.channel.state = .listening l none)
      (listens : host.Listens path l []) (ended : (host.endpoint s.peer).isEnded = true)
      (unrequested : session.channel.shutdownHandle.isRequested host = false)
      (inactive : (host.control session.channel.control).active = none)
  | broken {error} (phase : session.phase = .finished (.error error)) (state : session.channel.state = .closed)
      (room : host.HasRoom path) (ended : (host.endpoint s.peer).isEnded = true)

/-- What a step makes of that. -/
structure Attended (path : String) (l : ListenerId) (s : SocketId) (host : Host) (next : Session ρ) (after : Host) : Prop where
  attends : next.Attends path l s after
  turns : host.SameTurns s.peer after
  spares : host.Spares s after

theorem attaching_attended (phase : session.phase = .attaching s) (state : session.channel.state = .listening l none)
    (listens : host.Listens path l []) (unended : (host.endpoint s.peer).isEnded = false)
    (unrequested : session.channel.shutdownHandle.isRequested host = false)
    (inactive : (host.control session.channel.control).active = none) (inRange : s.connection < host.links.length)
    (known : session.channel.control < host.controls.length) (plain : session.channel.config = {}) :
    Attended path l s host (session.step handler host).2.1 (session.step handler host).2.2 := by
  have patient : Endpoint.checkTimeout session.channel.config.readTimeout = .ok () ∧
      Endpoint.checkTimeout session.channel.config.writeTimeout = .ok () := by
    rw [plain]
    exact ⟨rfl, rfl⟩
  obtain ⟨after, descriptors, attached, -, link, requested⟩ := Connection.attach_ok inRange inactive patient.1 patient.2
  have same := Connection.attach_samePaths host s session.channel.config session.channel.control
  have registered := Connection.attach_active s session.channel.config known
  have spares : host.Spares s (Connection.attach host s session.channel.config session.channel.control).2 :=
    Connection.attach_spares inactive
  let c : Connection := ⟨s, { config := session.channel.config }, { config := session.channel.config }⟩
  have stepped : session.step handler host = (.moves,
      { session with channel := { session.channel with state := .listening l (some c) }, phase := .checking }, after) := by
    simp only [step, phase, attach, attached, Channel.setConnection, state]
    rfl
  rw [attached] at same registered spares
  have far : after.endpoint s.peer = host.endpoint s.peer := by
    rw [Host.endpoint_peer, Host.endpoint_peer, link]
  rw [stepped]
  refine ⟨.busy trivial rfl rfl (listens.of_same same) ?_ ?_ registered, Host.sameTurns_of_endpoint far, spares⟩
  · rw [far]
    exact unended
  · exact requested.trans unrequested

section
variable {c : Connection} (state : session.channel.state = .listening l (some c)) (socket : c.socket = s)
  (listens : host.Listens path l []) (inRange : s.connection < host.links.length)
  (registered : (host.control session.channel.control).active = some s)
include state socket listens inRange registered

/-- Failing ends the session and gives the path up. -/
theorem failing_attended {error : ChannelError} (phase : session.phase = .failing error)
    (fatal : Channel.leavesOpen error = false) :
    Attended path l s host (session.step handler host).2.1 (session.step handler host).2.2 := by
  subst socket
  have room := Channel.close_hasRoom state listens
  have parted := host.unregister_samePaths session.channel.control
  have spared := Host.unregister_spares registered
  have nobody := (listens.of_same parted).backlog
  let silent := (host.unregister session.channel.control).dropListener l
  have closed : session.channel.close host = ({ session.channel with state := .closed }, c.hangUp silent) := by
    simp only [Channel.close, state]
    rfl
  have silenced : host.SameTurns c.socket.peer silent :=
    (host.unregister_sameTurns _ session.channel.control).trans (Host.dropListener_sameTurns _ _ l)
  have quiet : host.Spares c.socket silent := spared.trans (Host.spares_of_links (Host.dropListener_links nobody))
  rw [closed] at room
  simp only [step, phase, Channel.fail_eq_close fatal, closed]
  exact ⟨.broken rfl rfl room (c.hangUp_far_ended (quiet.length ▸ inRange)),
    silenced.trans (c.hangUp_sameTurns _ _), quiet.trans (c.hangUp_spares _)⟩

variable (unended : (host.endpoint s.peer).isEnded = false)
  (unrequested : session.channel.shutdownHandle.isRequested host = false)
include unended unrequested

theorem serve_attended (obedient : ∀ memory m, .shutdown ∉ (handler memory m).2) (m : Message) :
    Attended path l s host (session.serve handler c m host).1 (session.serve handler c m host).2 := by
  subst socket
  have stays : host.Spares c.socket host := Host.spares_of_links rfl
  unfold serve
  split
  · have performed := perform_slot session.channel.shutdownHandle (obedient session.memory m) .empty host
    simp only [performed]
    split
    · exact ⟨.busy rfl state rfl listens unended unrequested registered, ⟨rfl, rfl⟩, stays⟩
    · rename_i reply _
      obtain ⟨far, turns⟩ := c.send_far inRange reply.bytes
      have same : host.SamePaths (c.send reply.bytes host).2 := ⟨rfl, rfl, rfl⟩
      have spares : host.Spares c.socket (c.send reply.bytes host).2 := Host.setLink_spares ..
      have controls : (c.send reply.bytes host).2.controls = host.controls := rfl
      rcases sent : c.send reply.bytes host with ⟨result, after⟩
      rw [sent] at far turns same spares controls
      have control : after.control session.channel.control = host.control session.channel.control := by
        rw [Host.control, controls]
        rfl
      have next (phase : Phase) (busy : phase.IsBusy) :
          Attended path l c.socket host { session with memory := (handler session.memory m).1, phase } after :=
        ⟨.busy busy state rfl (listens.of_same same) (far.trans unended) ((congrArg _ control).trans unrequested)
          ((congrArg _ control).trans registered), turns, spares⟩
      cases result with
      | ok => exact next .checking trivial
      | error error => exact next (.failing error) (leavesOpen_send c sent)
  · exact ⟨.busy rfl state rfl listens unended unrequested registered, ⟨rfl, rfl⟩, stays⟩

theorem reading_attended (phase : session.phase = .reading) (obedient : ∀ memory m, .shutdown ∉ (handler memory m).2) :
    Attended path l s host (session.step handler host).2.1 (session.step handler host).2.2 := by
  subst socket
  have connected : session.channel.connection? = some c := by rw [Channel.connection?, state]
  obtain ⟨content, -, took⟩ := c.readMessage_took host
  rcases received : c.readMessage host with ⟨outcome, c', after⟩
  obtain ⟨socket, paths, controls, spares, far⟩ := Connection.readMessage_reading inRange received
  rw [received] at took
  have listens := listens.of_same paths
  have turns := Host.sameTurns_of_endpoint far
  have control : after.control session.channel.control = host.control session.channel.control := by
    rw [Host.control, controls]
    rfl
  have requested : session.channel.shutdownHandle.isRequested after = false := (congrArg _ control).trans unrequested
  have active : (after.control session.channel.control).active = some c.socket := (congrArg _ control).trans registered
  rw [← far] at unended
  let next : Session ρ := { session with channel := { session.channel with state := .listening l (some c') } }
  have own : session.channel.setConnection c' = next.channel := by simp only [Channel.setConnection, state, next]
  simp only [step, phase, Channel.established_of_connection connected, readNext, received, own]
  cases took with
  | nothing => exact ⟨.busy trivial rfl socket listens unended requested active, turns, spares⟩
  | @message m =>
    have served : Attended path l c.socket after (next.serve handler c' m after).1 (next.serve handler c' m after).2 :=
      @serve_attended ρ handler next after path l c.socket c' rfl socket listens (spares.length ▸ inRange) active unended requested obedient m
    exact ⟨served.attends, turns.trans served.turns, spares.trans served.spares⟩
  | ended => exact ⟨.busy trivial rfl socket listens unended requested active, turns, spares⟩
  | failed fatal => exact ⟨.busy fatal rfl socket listens unended requested active, turns, spares⟩

omit unended in
/-- Parting from the peer leaves the channel at its path. -/
theorem detaching_attended (phase : session.phase = .detaching) :
    Attended path l s host (session.step handler host).2.1 (session.step handler host).2.2 := by
  subst socket
  have connected : session.channel.connection? = some c := by rw [Channel.connection?, state]
  have inactive := Channel.detachPeer_inactive connected host
  have listens := Channel.detachPeer_listens state listens
  have detached : session.channel.detachPeer host =
      ({ session.channel with state := .listening l none }, c.hangUp (host.unregister session.channel.control)) := by
    simp only [Channel.detachPeer, state]
    rfl
  have spares := Host.unregister_spares registered
  have requested := host.isRequested_unregister session.channel.control
  have turns := (host.unregister_sameTurns c.socket.peer session.channel.control).trans (c.hangUp_sameTurns _ _)
  rw [detached] at inactive listens
  simp only [step, phase, detached]
  exact ⟨.parted rfl rfl listens (c.hangUp_far_ended (spares.length ▸ inRange)) (requested.trans unrequested) inactive,
    turns, spares.trans (c.hangUp_spares _)⟩

end

theorem Attends.step (attends : session.Attends path l s host) (inRange : s.connection < host.links.length)
    (known : session.channel.control < host.controls.length) (plain : session.channel.config = {})
    (obedient : ∀ memory m, .shutdown ∉ (handler memory m).2) :
    Attended path l s host (session.step handler host).2.1 (session.step handler host).2.2 := by
  have attending := attends
  have stays : host.Spares s host := Host.spares_of_links rfl
  cases attends with
  | arriving phase state listens unended unrequested inactive =>
    have stepped : session.step handler host = (.moves, { session with phase := .attaching s },
        host.setListener l { host.listener l with backlog := [] }) := by
      simp only [Session.step, phase, arrive, state, Host.accept, listens.backlog]
    rw [stepped]
    exact ⟨.attaching rfl state (listens.setBacklog []) unended unrequested inactive, ⟨rfl, rfl⟩,
      Host.spares_of_links rfl⟩
  | attaching phase state listens unended unrequested inactive =>
    exact attaching_attended phase state listens unended unrequested inactive inRange known plain
  | @busy c busy state socket listens unended unrequested registered =>
    cases phase : session.phase with
    | checking =>
      simp only [Session.step, phase, unrequested, Bool.false_eq_true, if_false]
      exact ⟨.busy trivial state socket listens unended unrequested registered, ⟨rfl, rfl⟩, stays⟩
    | leaving =>
      simp only [Session.step, phase, unrequested, Bool.false_eq_true, if_false]
      exact ⟨.busy trivial state socket listens unended unrequested registered, ⟨rfl, rfl⟩, stays⟩
    | reading => exact reading_attended state socket listens inRange registered unended unrequested phase obedient
    | detaching => exact detaching_attended state socket listens inRange registered unrequested phase
    | failing error =>
      rw [phase] at busy
      exact failing_attended state socket listens inRange registered phase busy
    | arriving | attaching | closing | finished =>
      rw [phase] at busy
      cases busy
  | parted phase =>
    simp only [Session.step, phase]
    exact ⟨attending, ⟨rfl, rfl⟩, stays⟩
  | broken phase =>
    simp only [Session.step, phase]
    exact ⟨attending, ⟨rfl, rfl⟩, stays⟩

/-- What others do to connections does not matter as long as the peer's stream is not ended. -/
theorem Attends.of_same {after : Host} (attends : session.Attends path l s host) (paths : host.SamePaths after)
    (controls : after.controls = host.controls)
    (ended : (after.endpoint s.peer).isEnded = (host.endpoint s.peer).isEnded) : session.Attends path l s after := by
  have control : after.control session.channel.control = host.control session.channel.control := by
    rw [Host.control, controls]
    rfl
  have requested := congrArg Control.isRequested control
  have active := congrArg Control.active control
  cases attends with
  | arriving phase state listens unended unrequested inactive =>
    exact .arriving phase state (listens.of_same paths) (ended.trans unended) (requested.trans unrequested)
      (active.trans inactive)
  | attaching phase state listens unended unrequested inactive =>
    exact .attaching phase state (listens.of_same paths) (ended.trans unended) (requested.trans unrequested)
      (active.trans inactive)
  | busy busy state socket listens unended unrequested registered =>
    exact .busy busy state socket (listens.of_same paths) (ended.trans unended) (requested.trans unrequested)
      (active.trans registered)
  | parted phase state listens gone unrequested inactive =>
    exact .parted phase state (listens.of_same paths) (ended.trans gone) (requested.trans unrequested)
      (active.trans inactive)
  | broken phase state room gone => exact .broken phase state (room.of_same paths) (ended.trans gone)

end Session
end CallWire
