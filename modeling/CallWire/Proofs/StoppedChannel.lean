import CallWire.Proofs.BetweenOperations
import CallWire.Proofs.ShutConnection

/-! What becomes of a channel when it is told to stop. Accepting leaves it closed, and so does any other operation but
one that does nothing or takes a message that came before: such an operation does not look whether a stop was asked for. -/

namespace CallWire

namespace Host

/-- What others may do to a host: they leave the registration and the requests of the channel alone, no connection
vanishes, and no stream that has ended goes on. -/
structure Respects (c : ControlId) (before after : Host) : Prop where
  keeps : before.Keeps c after
  remembers : before.Remembers after
  sound : before.Sound → after.Sound
  grows : before.links.length ≤ after.links.length
  ended : ∀ s, (before.endpoint s).isEnded = true → (after.endpoint s).isEnded = true

theorem respects_refl (c : ControlId) (host : Host) : host.Respects c host :=
  ⟨keeps_of_controls rfl, host.remembers_refl, id, Nat.le_refl _, fun _ => id⟩

theorem Respects.trans {c : ControlId} {first second third : Host} (left : first.Respects c second)
    (right : second.Respects c third) : first.Respects c third :=
  ⟨left.keeps.trans right.keeps, left.remembers.trans right.remembers, right.sound ∘ left.sound,
    Nat.le_trans left.grows right.grows, fun s => right.ended s ∘ left.ended s⟩

end Host

/-- A handle of a connected channel ends its stream in both directions. -/
theorem ShutdownHandle.shutdown_ends {handle : ShutdownHandle} {host : Host} {s : SocketId}
    (active : (host.control handle.control).active = some s) (inRange : s.connection < host.links.length) :
    ((handle.shutdown host).endpoint s).isEnded = true ∧ ((handle.shutdown host).endpoint s.peer).isEnded = true := by
  have link : (handle.shutdown host).link s = ((handle.request host).link s).shutdown .both := by
    rw [shutdown_of_active active]
    exact Host.link_setLink inRange
  rw [Host.endpoint, Host.endpoint_peer, link]
  simp [Link.shutdown]

namespace Activity
variable {s : SocketId} {host : Host}

theorem Grounded.sound {activity : Activity} (grounded : activity.Grounded s host) : host.Sound := by
  cases activity with
  | idle channel => exact Channel.Grounded.sound grounded
  | serving handler session => exact grounded.toGrounded.sound

end Activity

namespace ChannelOperation

theorem attempt_grounded {channel : Channel} {s : SocketId} {host : Host} (grounded : channel.Grounded s host)
    (op : ChannelOperation) : (op.attempt channel host).2.1.Grounded s (op.attempt channel host).2.2 := by
  have sent (content : Bytes) : (channel.sendRaw content host).2.1.Grounded s (channel.sendRaw content host).2.2 := by
    obtain ⟨narrows, emits⟩ := Channel.sendRaw_emits grounded content
    exact grounded.narrow_emits narrows emits
  cases op with
  | send m => exact sent m.bytes
  | sendRaw content => exact sent content
  | recv =>
    obtain ⟨narrows, quiet⟩ := Channel.recv_quiet grounded
    exact grounded.narrow narrows quiet
  | recvReply request =>
    obtain ⟨narrows, quiet⟩ := Channel.recvReply_quiet grounded request
    exact grounded.narrow narrows quiet
  | call request =>
    obtain ⟨narrows, emits⟩ := Channel.call_emits grounded request
    exact grounded.narrow_emits narrows emits

end ChannelOperation

namespace Course
variable {c : ControlId} {s : SocketId} {deed : ChannelDeed} {o next : Course}

/-- The connection of a channel is one that there is. -/
theorem Moves.grounded (move : Moves (Host.Respects c) deed o next) (grounded : o.activity.Grounded s o.host) :
    next.activity.Grounded s next.host := by
  cases move with
  | @attempt channel host _ _ _ op done =>
    have grounded := ChannelOperation.attempt_grounded grounded op
    rwa [done] at grounded
  | configure config done =>
    obtain ⟨quiet, narrows⟩ := Channel.withConfig_quiet done s
    exact Channel.Grounded.narrow grounded (narrows _ rfl) quiet
  | drop config done =>
    obtain ⟨quiet, -⟩ := Channel.withConfig_quiet done s
    exact Channel.Grounded.narrow grounded (Channel.narrows_of_closed rfl) quiet
  | @close channel host _ _ done =>
    have quiet := channel.close_quiet s.peer host
    have closed : (channel.close host).1.state = .closed := by rw [Channel.close_state]
    rw [done] at quiet closed
    exact Channel.Grounded.narrow grounded (Channel.narrows_of_closed closed) quiet
  | accept handler memory => exact ⟨grounded, nofun⟩
  | serve stepped => exact (Session.step_emits grounded stepped).1
  | returns finished => exact grounded.toGrounded
  | @shutdown _ host handle =>
    have quiet := handle.shutdown_quiet s host
    exact grounded.elsewhere (quiet.sound grounded.sound) quiet.grows
  | elsewhere respects => exact grounded.elsewhere (respects.sound grounded.sound) respects.grows

theorem Run.grounded (run : Run (Host.Respects c) o next) (grounded : o.activity.Grounded s o.host) :
    next.activity.Grounded s next.host := by
  induction run with
  | refl => exact grounded
  | tail _ moved ih =>
    obtain ⟨deed, move⟩ := moved
    exact move.grounded ih

end Course

namespace Session
variable {ρ : Type} {handler : Handler ρ} {session : Session ρ} {host : Host} {role : ChannelRole}

/-- Once a stop was asked for, the session closes its channel whenever it ends. -/
def WillClose (session : Session ρ) : Prop :=
  match session.phase with
  | .reading => ∃ c, session.channel.connection? = some c
  | .leaving => True
  | _ => session.IsStopping

theorem IsStopping.willClose (stopping : session.IsStopping) : session.WillClose := by
  unfold WillClose
  split
  · rename_i phase
    rw [IsStopping, phase] at stopping
    exact stopping.elim
  · trivial
  · exact stopping

/-- Reading leads on to what ends the session once a stop was asked for, or has to wait. -/
theorem step_of_reading {c : Connection} (host : Host) (handler : Handler ρ) (phase : session.phase = .reading)
    (connected : session.channel.connection? = some c) :
    (session.step handler host).2.1.IsStopping ∨ (session.step handler host).2.1.phase = .leaving ∨
      (c.readMessage host).1 = .waiting ∧ (session.step handler host).2.1.phase = .reading ∧
        ∃ c', (session.step handler host).2.1.channel.connection? = some c' := by
  obtain ⟨content, -, took⟩ := c.readMessage_took host
  simp only [step, phase, Channel.established_of_connection connected, readNext]
  generalize c.readMessage host = result at took
  obtain ⟨outcome, c', after⟩ := result
  obtain ⟨_, _, _, present⟩ := Channel.setConnection_of_connection connected c'
  cases took with
  | nothing => exact .inr (.inr ⟨rfl, rfl, c', present⟩)
  | message => exact .inl (serve_stops handler _ c' _ after)
  | ended => exact .inr (.inl rfl)
  | failed fatal => exact .inl (isStopping_of_failing rfl fatal)

theorem step_willClose (handler : Handler ρ) (willClose : session.WillClose)
    (requested : session.channel.shutdownHandle.isRequested host = true) : (session.step handler host).2.1.WillClose := by
  cases phase : session.phase with
  | leaving =>
    simp only [step, phase, requested, if_true]
    trivial
  | reading =>
    rw [WillClose, phase] at willClose
    obtain ⟨c, connected⟩ := willClose
    obtain stopping | leaving | ⟨-, reading, connected⟩ := step_of_reading host handler phase connected
    · exact stopping.willClose
    · rw [WillClose, leaving]
      trivial
    · rw [WillClose, reading]
      exact connected
  | arriving | attaching | checking | detaching | closing | failing | finished =>
    rw [WillClose, phase] at willClose
    exact (step_stops handler willClose requested).willClose

/-- The session has decided to part from its peer, or is over. -/
def IsParting (session : Session ρ) : Prop :=
  match session.phase with
  | .detaching | .finished _ => True
  | _ => False

/-- What fails has closed the channel, or is going to. -/
theorem Orderly.stops_failing {error : ChannelError} (orderly : session.Orderly role host)
    (phase : session.phase = .failing error) : session.IsStopping := by
  rw [Orderly, phase] at orderly
  rw [IsStopping, phase]
  obtain ⟨-, ⟨closed, -⟩ | ⟨-, fatal⟩⟩ := orderly
  · exact .inr (Channel.isClosed_eq_true.mpr closed)
  · exact .inl fatal

theorem Orderly.willClose (orderly : session.Orderly role host) (going : ¬ session.IsParting) : session.WillClose := by
  unfold IsParting at going
  cases phase : session.phase with
  | arriving | attaching s | checking | closing => simp [WillClose, IsStopping, phase]
  | leaving =>
    rw [WillClose, phase]
    trivial
  | reading =>
    rw [Orderly, phase] at orderly
    simp only [WillClose, phase]
    exact orderly.2.2
  | failing error => exact (orderly.stops_failing phase).willClose
  | detaching | finished result => simp [phase] at going

end Session

namespace Activity

def WillClose : Activity → Prop
  | idle _ => True
  | serving _ session => session.WillClose

/-- Accepting is about to return, and no longer looks whether a stop was asked for. -/
def IsParting : Activity → Prop
  | idle _ => False
  | serving _ session => session.IsParting

end Activity

namespace Course
variable {c : ControlId} {deed : ChannelDeed} {o next : Course}

/-- A stop was asked for, and accepting heeds that. -/
structure IsStopped (c : ControlId) (o : Course) : Prop where
  control : o.activity.channel.control = c
  requested : (o.host.control c).isRequested = true
  willClose : o.activity.WillClose

theorem IsStopped.idle {channel later : Channel} {host after : Host} (stopped : IsStopped c ⟨.idle channel, host⟩)
    (stands : channel.Stands host later after) : IsStopped c ⟨.idle later, after⟩ :=
  ⟨stands.control.trans stopped.control, stands.remembers.requested _ stopped.requested, trivial⟩

theorem Moves.stopped (move : Moves (Host.Respects c) deed o next) (stopped : o.IsStopped c) : next.IsStopped c := by
  cases move with
  | @attempt channel host _ _ _ op done =>
    have stands := channel.attempt_stands host op
    rw [done] at stands
    exact stopped.idle stands
  | @configure channel host _ _ config done =>
    obtain ⟨remembers, kept⟩ := channel.withConfig_remembers host config
    rw [done] at remembers kept
    exact stopped.idle ⟨kept _ rfl, remembers⟩
  | @drop channel host _ _ config done =>
    obtain ⟨remembers, -⟩ := channel.withConfig_remembers host config
    rw [done] at remembers
    exact stopped.idle ⟨rfl, remembers⟩
  | @close channel host _ _ done =>
    have stands := channel.close_stands host
    rw [done] at stands
    exact stopped.idle stands
  | accept handler memory => exact ⟨stopped.control, stopped.requested, trivial⟩
  | @serve ρ handler session host _ _ _ stepped =>
    obtain ⟨rfl, requested, willClose⟩ := stopped
    have stands := session.step_stands handler host
    have later := Session.step_willClose handler willClose requested
    rw [stepped] at stands later
    exact ⟨stands.control, stands.remembers.requested _ requested, later⟩
  | returns finished => exact ⟨stopped.control, stopped.requested, trivial⟩
  | @shutdown _ host handle =>
    exact ⟨stopped.control, (handle.shutdown_remembers host).requested _ stopped.requested, stopped.willClose⟩
  | elsewhere respects => exact ⟨stopped.control, respects.remembers.requested _ stopped.requested, stopped.willClose⟩

theorem Run.stopped (run : Run (Host.Respects c) o next) (stopped : o.IsStopped c) : next.IsStopped c := by
  induction run with
  | refl => exact stopped
  | tail _ moved ih =>
    obtain ⟨deed, move⟩ := moved
    exact move.stopped ih

end Course

namespace ChannelRole
variable {role : ChannelRole} {path : String} {before host : Host} {made : Channel}

/-- The side on which a channel of this role has its connections. -/
def side : ChannelRole → SocketId
  | connecting => ⟨0, false⟩
  | listening => ⟨0, true⟩

theorem make_grounded (done : role.make path before = (.ok made, host)) (sound : before.Sound) :
    made.Grounded role.side host := by
  cases role with
  | connecting => exact Channel.grounded_of_connect done sound rfl
  | listening => exact Channel.grounded_of_bind done sound rfl

end ChannelRole

/-- A channel that is open is told to stop. Any operation that is tried afterwards is over at once, and leaves it closed
unless it is spared. Accepting leaves it closed whenever it returns, whether it goes on already or is tried later, unless
it was about to return when the stop was asked for. -/
theorem Channel.closes_when_told {role : ChannelRole} {path : String} {before host : Host} {made : Channel}
    (done : role.make path before = (.ok made, host)) (sound : before.Sound) {o : Course}
    (run : Course.Run (Host.Respects made.control) ⟨.idle made, host⟩ o) (opened : o.activity.channel.isClosed = false)
    {later : Host} (meanwhile : (made.shutdownHandle.shutdown o.host).Respects made.control later) :
    (∀ channel, o.activity = .idle channel → ∀ op : ChannelOperation, op.Ceases channel later (op.attempt channel later)) ∧
      (¬ o.activity.IsParting → ∀ {ρ : Type} (handler : Handler ρ) session result final,
        Course.Run (Host.Respects made.control) ⟨o.activity, later⟩ ⟨.serving handler session, final⟩ →
          session.phase = .finished result → session.channel.isClosed = true) := by
  obtain ⟨activity, now⟩ := o
  have orderly := (run.mono fun _ _ respects => respects.keeps).orderly (ChannelRole.make_orderly done)
  have grounded := run.grounded (ChannelRole.make_grounded done sound)
  refine ⟨?_, ?_⟩
  · rintro channel rfl op
    refine ChannelOperation.attempt_ceases opened (fun c connected => ?_) op
    obtain ⟨own, -, -, registered⟩ := orderly
    have inRange := (grounded.side c connected).2
    have active : (now.control made.control).active = some c.socket := by
      rw [← own]
      exact registered.trans (congrArg (Option.map Connection.socket) connected)
    obtain ⟨near, far⟩ := @ShutdownHandle.shutdown_ends made.shutdownHandle now c.socket active inRange
    have quiet := made.shutdownHandle.shutdown_quiet c.socket now
    exact ⟨Nat.lt_of_lt_of_le inRange (Nat.le_trans quiet.grows meanwhile.grows), meanwhile.ended _ near, meanwhile.ended _ far⟩
  · intro going ρ handler session result final onwards finished
    -- Unless it is parting already, the session looks at its handle or fails before it returns.
    have willClose : activity.WillClose := by
      cases activity with
      | idle channel => trivial
      | serving handler session => exact Session.Orderly.willClose orderly.orderly going
    have noted := made.shutdownHandle.isRequested_shutdown orderly.inRange
    have stopped : Course.IsStopped made.control ⟨activity, later⟩ :=
      ⟨orderly.control, meanwhile.remembers.requested _ noted, willClose⟩
    have ended := (onwards.stopped stopped).willClose
    simp only [Activity.WillClose, Session.WillClose, Session.IsStopping, finished] at ended
    exact ended

/-- Somebody listens at the path `s`. -/
def listeningHost : Host :=
  { listeners := [{ path := "s", inode := 1 }], files := [⟨["s"], 1, .socket, defaultSocketMode⟩], lastInode := 1
    controls := [{ listenPath := some "s" }] }

/-- A client has connected there, and these bytes have come to it. -/
def clientHost (inbox : Bytes) : Host :=
  { listeningHost with
    links := [⟨{ descriptors := 3, inbox }, {}⟩]
    listeners := [{ path := "s", inode := 1, backlog := [⟨0, true⟩] }]
    controls := [{ listenPath := some "s" }, { active := some ⟨0, false⟩ }] }

def client : Channel := ⟨.connected ⟨⟨0, false⟩, {}, {}⟩, "s", {}, 1⟩

theorem make_client : ChannelRole.connecting.make "s" listeningHost = (.ok client, clientHost []) := by cbv

theorem sound_listeningHost : listeningHost.Sound := by
  rintro (_ | l) t waits
  · cases waits
  · cases waits

theorem client_run (inbox : Bytes) :
    Course.Run (Host.Respects client.control) ⟨.idle client, clientHost []⟩ ⟨.idle client, clientHost inbox⟩ := by
  refine .single ⟨_, .elsewhere ⟨Host.keeps_of_controls rfl, Host.remembers_of_controls rfl, id, Nat.le_refl _, ?_⟩⟩
  rintro ⟨_ | connection, _ | _⟩ ended
  all_goals exact ended

/-- A client that has a whole message takes it after it was told to stop, and stays open. -/
theorem Channel.stays_open_with_message :
    let m := Message.response 1 []
    let told := client.shutdownHandle.shutdown (clientHost (frameOf m.bytes))
    ChannelRole.connecting.make "s" listeningHost = (.ok client, clientHost []) ∧
      Course.Run (Host.Respects client.control) ⟨.idle client, clientHost []⟩ ⟨.idle client, clientHost (frameOf m.bytes)⟩ ∧
      (client.recv told).1 = .done (.ok m) ∧ client.shutdownHandle.isRequested (client.recv told).2.2 = true ∧
      (client.recv told).2.1.isClosed = false ∧ (client.recv told).2.1.isConnected = true := by
  intro m told
  exact ⟨make_client, client_run _, by cbv, by cbv, by cbv, by cbv⟩

/-- A client is told to stop that has a part of a frame. -/
theorem Channel.closes_when_told_in_a_frame :
    let told := client.shutdownHandle.shutdown (clientHost [4, 0, 0])
    ChannelRole.connecting.make "s" listeningHost = (.ok client, clientHost []) ∧ listeningHost.Sound ∧
      client.isClosed = false ∧ (∀ op : ChannelOperation, op.Ceases client told (op.attempt client told)) ∧
      ((ChannelOperation.recv.attempt client told).1 = .done (.error .connectionClosed)) := by
  intro told
  obtain ⟨attempts, -⟩ :=
    closes_when_told make_client sound_listeningHost (client_run [4, 0, 0]) rfl (Host.respects_refl client.control told)
  exact ⟨make_client, sound_listeningHost, rfl, attempts client rfl, by cbv⟩

end CallWire
