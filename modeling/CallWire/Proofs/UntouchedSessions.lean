import CallWire.Proofs.UntouchedChannels

/-! Accepting on hosts that are alike where the channel keeps to. The session goes the same way step by step, what its
handler does included: a stop asked for by the handler of a session that serves does not reach beyond its stream. -/

namespace CallWire

variable {ground : Ground} {host other : Host}

namespace ShutdownHandle
variable {handle : ShutdownHandle}

theorem isRequested_alike (handle : ShutdownHandle) (alike : host.Alike ground other) (known : ground.control handle.control) :
    handle.isRequested other = handle.isRequested host :=
  congrArg Control.isRequested (alike.control known)

/-- The handle is that of a channel on the ground, which has a stream or was not bound to a path. -/
structure KeepsTo (handle : ShutdownHandle) (ground : Ground) (host : Host) : Prop where
  control : ground.control handle.control
  silent : (host.control handle.control).active = none → (host.control handle.control).listenPath = none

theorem keepsTo_of_active {s : SocketId} (known : ground.control handle.control)
    (active : (host.control handle.control).active = some s) : handle.KeepsTo ground host :=
  ⟨known, fun none => nomatch none.symm.trans active⟩

theorem KeepsTo.alike (keeps : handle.KeepsTo ground host) (alike : host.Alike ground other) :
    handle.KeepsTo ground other := by
  refine ⟨keeps.control, ?_⟩
  rw [alike.control keeps.control]
  exact keeps.silent

/-- Without a stream and a path a call only leaves its request behind. -/
theorem shutdown_of_silent (active : (host.control handle.control).active = none)
    (path : (host.control handle.control).listenPath = none) : handle.shutdown host = handle.request host := by
  have active' := (handle.request_keeps handle.control host).active.trans active
  have path' : ((handle.request host).control handle.control).listenPath = none := by
    rw [request, Host.control_setControl]
    split
    all_goals exact path
  simp only [shutdown, interrupt, active', knock, path']

theorem shutdown_alike (alike : host.Alike ground other) (keeps : handle.KeepsTo ground host) :
    (handle.shutdown host).Alike ground (handle.shutdown other) := by
  have same := alike.control keeps.control
  have requested : (handle.request host).Alike ground (handle.request other) := by
    rw [request, request, same]
    exact alike.setControl _ fun _ t registered => alike.active _ t keeps.control registered
  cases active : (host.control handle.control).active with
  | some s =>
    rw [shutdown_of_active active, shutdown_of_active (same ▸ active)]
    exact requested.shutdown (alike.active _ s keeps.control active) .both
  | none =>
    have silent := keeps.silent active
    rw [shutdown_of_silent active silent, shutdown_of_silent (same ▸ active) (same ▸ silent)]
    exact requested

end ShutdownHandle

namespace Session
variable {ρ : Type} {handler : Handler ρ} {session : Session ρ} {role : ChannelRole} {c : Connection}

/-- So is all that the session uses. -/
structure KeepsTo (session : Session ρ) (ground : Ground) : Prop where
  channel : session.channel.KeepsTo ground
  attaching : ∀ s, session.phase = .attaching s → ground.connection s.connection

theorem perform_alike (handle : ShutdownHandle) {s : SocketId} (alike : host.Alike ground other)
    (known : ground.control handle.control) (active : (host.control handle.control).active = some s)
    (actions : List HandlerAction) (slot : ReplySlot) :
    ground.Same (perform handle actions slot host) (perform handle actions slot other) := by
  induction actions generalizing slot host other with
  | nil => exact .intro alike
  | cons action rest ih =>
    cases action with
    | place reply => exact ih alike active _
    | withdraw => exact ih alike active _
    | shutdown =>
      have kept := handle.shutdown_keeps handle.control host
      have keeps := ShutdownHandle.keepsTo_of_active known active
      exact ih (ShutdownHandle.shutdown_alike alike keeps) (kept.active.trans active) slot

section
variable (alike : host.Alike ground other)
include alike

theorem serve_alike {s : SocketId} (keeps : session.channel.KeepsTo ground) (inside : ground.connection c.socket.connection)
    (active : (host.control session.channel.control).active = some s) (m : Message) :
    ground.Same (session.serve handler c m host) (session.serve handler c m other) := by
  have performed := perform_alike session.channel.shutdownHandle alike keeps.control active (handler session.memory m).2 .empty
  unfold serve
  split
  · dsimp only
    generalize perform session.channel.shutdownHandle (handler session.memory m).2 .empty host = result at performed ⊢
    generalize perform session.channel.shutdownHandle (handler session.memory m).2 .empty other = result' at performed ⊢
    cases performed with
    | @intro slot after after' alike =>
      cases answer : slot.take.1 with
      | none => exact .intro alike
      | some reply =>
        have sent := c.send_alike alike inside reply.bytes
        dsimp only
        generalize c.send reply.bytes after = result at sent ⊢
        generalize c.send reply.bytes after' = result' at sent ⊢
        cases sent with
        | @intro result _ _ alike =>
          cases result with
          | ok => exact .intro alike
          | error error => exact .intro alike
  · exact .intro alike

theorem arrive_alike (keeps : session.KeepsTo ground) :
    ground.Agrees (session.arrive host) (session.arrive other) ∧ (session.arrive host).2.1.KeepsTo ground := by
  unfold arrive
  cases state : session.channel.state with
  | closed => exact ⟨.intro alike, keeps.channel, nofun⟩
  | connected => exact ⟨.intro alike, keeps.channel, nofun⟩
  | listening l peer =>
    cases peer with
    | some => exact ⟨.intro alike, keeps.channel, nofun⟩
    | none =>
      have inside := keeps.channel.listener l none state
      have accepted := alike.accept inside
      have waits : ∀ s, (host.accept l).1 = some s → ground.connection s.connection := by
        intro s taken
        unfold Host.accept at taken
        cases waiting : (host.listener l).backlog with
        | nil => simp [waiting] at taken
        | cons t rest =>
          simp only [waiting, Option.some.injEq] at taken
          exact taken ▸ alike.backlog l inside t (waiting ▸ List.mem_cons_self)
      dsimp only
      generalize host.accept l = result at accepted waits ⊢
      generalize other.accept l = result' at accepted ⊢
      cases accepted with
      | @intro taken _ _ alike =>
        cases taken with
        | none => exact ⟨.intro alike, keeps⟩
        | some s =>
          refine ⟨.intro alike, keeps.channel, fun t attaching => ?_⟩
          cases attaching
          exact waits s rfl

theorem attach_alike {s : SocketId} (keeps : session.channel.KeepsTo ground) (inside : ground.connection s.connection) :
    ground.Same (session.attach s host) (session.attach s other) ∧ (session.attach s host).1.KeepsTo ground := by
  have attached := Connection.attach_alike alike keeps.control inside session.channel.config
  have socket {c after} (taken : Connection.attach host s session.channel.config session.channel.control = (.ok c, after)) :
      c.socket = s := Connection.attach_socket taken
  unfold attach
  dsimp only
  generalize Connection.attach host s session.channel.config session.channel.control = result at attached socket ⊢
  generalize Connection.attach other s session.channel.config session.channel.control = result' at attached ⊢
  cases attached with
  | @intro result after after' alike =>
    cases result with
    | error error => exact ⟨.intro alike, keeps, nofun⟩
    | ok c => exact ⟨.intro alike, keeps.setConnection (socket rfl ▸ inside), nofun⟩

theorem readNext_alike (keeps : session.channel.KeepsTo ground) (phase : session.phase = .reading)
    (connected : session.channel.connection? = some c)
    (active : (host.control session.channel.control).active = some c.socket) :
    ground.Agrees (session.readNext handler c host) (session.readNext handler c other) ∧
      (session.readNext handler c host).2.1.KeepsTo ground := by
  have inside := keeps.connection c connected
  have read := c.readMessage_alike alike inside
  have socket : (c.readMessage host).2.1.socket = c.socket := rfl
  have controls := c.readMessage_controls host
  unfold readNext
  generalize c.readMessage host = result at read socket controls ⊢
  generalize c.readMessage other = result' at read ⊢
  cases read with
  | @intro outcome c' after after' alike =>
    have inside : ground.connection c'.socket.connection := by
      rw [show c'.socket = c.socket from socket]
      exact inside
    have keeps := keeps.setConnection inside
    cases outcome with
    | waiting =>
      refine ⟨.intro alike, keeps, fun s attaching => ?_⟩
      cases phase.symm.trans attaching
    | done result =>
      rcases result with error | _ | m
      · exact ⟨.intro alike, keeps, nofun⟩
      · exact ⟨.intro alike, keeps, nofun⟩
      · let reading : Session ρ := { session with channel := session.channel.setConnection c' }
        have active : (after.control reading.channel.control).active = some c.socket := by
          rw [show reading.channel.control = session.channel.control from session.channel.setConnection_control c']
          exact (Host.keeps_of_controls controls).active.trans active
        have served : ground.Same (reading.serve handler c' m after) (reading.serve handler c' m after') :=
          serve_alike alike keeps inside active m
        have own := serve_channel handler reading c' m after
        obtain ⟨-, ends⟩ := serve_keeps handler reading c' m after
        have keepsTo : (reading.serve handler c' m after).1.KeepsTo ground := by
          refine ⟨own ▸ keeps, fun s attaching => ?_⟩
          rcases ends with checking | ⟨error, failing, -⟩
          · cases checking.symm.trans attaching
          · cases failing.symm.trans attaching
        dsimp only
        generalize reading.serve handler c' m after = result at served keepsTo ⊢
        generalize reading.serve handler c' m after' = result' at served ⊢
        cases served with
        | intro alike => exact ⟨.intro alike, keepsTo⟩

theorem step_alike (handler : Handler ρ) (keeps : session.KeepsTo ground) (orderly : session.Orderly role host) :
    ground.Agrees (session.step handler host) (session.step handler other) ∧
      (session.step handler host).2.1.KeepsTo ground := by
  -- The control is on the ground, so a request for shutdown is seen on both hosts or on neither.
  have requested := session.channel.shutdownHandle.isRequested_alike alike keeps.channel.control
  have ending (result : Except ChannelError Unit) {next next' : Channel × Host} (same : ground.Same next next')
      (keeps : next.1.KeepsTo ground) :
      ground.Agrees (Pace.moves, { session with channel := next.1, phase := .finished result }, next.2)
          (Pace.moves, { session with channel := next'.1, phase := .finished result }, next'.2) ∧
        ({ session with channel := next.1, phase := .finished result } : Session ρ).KeepsTo ground := by
    cases same with
    | intro alike => exact ⟨.intro alike, keeps, nofun⟩
  cases phase : session.phase with
  | arriving =>
    simp only [step, phase]
    exact arrive_alike alike keeps
  | attaching s =>
    obtain ⟨same, later⟩ := attach_alike alike keeps.channel (keeps.attaching s phase)
    simp only [step, phase]
    generalize session.attach s host = result at same later ⊢
    generalize session.attach s other = result' at same ⊢
    cases same with
    | intro alike => exact ⟨.intro alike, later⟩
  | checking | leaving =>
    simp only [step, phase, requested]
    refine ⟨.intro alike, keeps.channel, fun s attaching => ?_⟩
    dsimp only at attaching
    split at attaching
    · cases attaching
    · cases attaching
  | reading =>
    rw [Orderly, phase] at orderly
    obtain ⟨-, registered, c, connected⟩ := orderly
    have active := registered.trans (congrArg (Option.map Connection.socket) connected)
    simp only [step, phase, Channel.established_of_connection connected]
    exact readNext_alike alike keeps.channel phase connected active
  | detaching =>
    simp only [step, phase]
    refine ending _ (session.channel.detachPeer_alike alike keeps.channel) ?_
    rw [Channel.detachPeer_state]
    exact keeps.channel.vacated
  | closing =>
    simp only [step, phase]
    refine ending _ (session.channel.close_alike alike keeps.channel) ?_
    exact keeps.channel.proceeds (session.channel.close_proceeds host) (session.channel.close_stands host).control
  | failing error =>
    simp only [step, phase]
    refine ending _ (session.channel.fail_alike alike keeps.channel error) ?_
    exact keeps.channel.proceeds (session.channel.fail_proceeds host error) (session.channel.fail_stands host error).control
  | finished result =>
    simp only [step, phase]
    exact ⟨.intro alike, keeps⟩

theorem asked?_alike (keeps : session.KeepsTo ground) : session.asked? other = session.asked? host := by
  unfold asked?
  split
  · rename_i c _ established
    have read := c.readMessage_alike alike (keeps.channel.connection c (Channel.connection?_of_established established))
    generalize c.readMessage host = result at read ⊢
    generalize c.readMessage other = result' at read ⊢
    cases read with
    | intro => rfl
  · rfl

end
end Session

/-- So is all that the channel uses at its work. -/
def Activity.KeepsTo (ground : Ground) : Activity → Prop
  | idle channel => channel.KeepsTo ground
  | serving _ session => session.KeepsTo ground

namespace Ground

/-- Something done to the ground, or elsewhere, that leaves the control to its channel. It does not depend on what is
elsewhere. -/
structure Admits (ground : Ground) (c : ControlId) (change : Host → Host) : Prop where
  alike : ∀ host other, host.Alike ground other → (change host).Alike ground (change other)
  keeps : ∀ host : Host, host.Keeps c (change host)

/-- What the peer of a connection on the ground does with its socket. -/
theorem admits_onLink {s : SocketId} (inside : ground.connection s.connection) (c : ControlId) (change : Link → Link) :
    ground.Admits c (fun host => host.onLink s change) :=
  ⟨fun _ _ alike => alike.onLink inside change, fun _ => Host.keeps_of_controls rfl⟩

/-- One of the things that others may do: they take part in what goes on there, or keep off the ground. -/
def Acts (ground : Ground) (c : ControlId) (before after : Host) : Prop :=
  (∃ change, ground.Admits c change ∧ after = change before) ∨ before.Alike ground after ∧ before.Keeps c after

theorem Acts.keeps {ground : Ground} {c : ControlId} {before after : Host} (acts : ground.Acts c before after) :
    before.Keeps c after := by
  obtain ⟨change, admits, rfl⟩ | ⟨-, keeps⟩ := acts
  · exact admits.keeps before
  · exact keeps

end Ground

namespace Course
variable {role : ChannelRole} {c : ControlId} {deed : ChannelDeed} {deeds : List ChannelDeed} {o next : Course}

/-- What can happen on one of two hosts that are alike happens on the other with the same answer. -/
theorem Moves.alike (move : Moves (ground.Acts c) deed o next)
    (within : ∀ handle, deed = .shutdown handle → handle.KeepsTo ground o.host) (keeps : o.activity.KeepsTo ground)
    (orderly : o.IsOrderly role c) (alike : o.host.Alike ground other) :
    next.activity.KeepsTo ground ∧ ∃ after, Moves (ground.Acts c) deed ⟨o.activity, other⟩ ⟨next.activity, after⟩ ∧
      next.host.Alike ground after := by
  cases move with
  | @attempt channel host _ _ _ op done =>
    have keeps : channel.KeepsTo ground := keeps
    have agrees := channel.attempt_alike alike keeps op
    have later := keeps.proceeds (channel.attempt_proceeds host op) (channel.attempt_stands host op).control
    rw [done] at agrees later
    refine ⟨later, ?_⟩
    generalize done' : op.attempt channel other = result' at agrees
    cases agrees with
    | intro alike => exact ⟨_, .attempt op done', alike⟩
  | @configure channel host _ _ config done =>
    have keeps : channel.KeepsTo ground := keeps
    have same := channel.withConfig_alike alike keeps config
    have proceeds := channel.withConfig_proceeds host config
    obtain ⟨-, kept⟩ := channel.withConfig_remembers host config
    rw [done] at same proceeds kept
    refine ⟨keeps.proceeds proceeds (kept _ rfl), ?_⟩
    generalize done' : channel.withConfig config other = result' at same
    cases same with
    | intro alike => exact ⟨_, .configure config done', alike⟩
  | @drop channel host _ _ config done =>
    have keeps : channel.KeepsTo ground := keeps
    have same := channel.withConfig_alike alike keeps config
    rw [done] at same
    refine ⟨.of_closed keeps.control rfl, ?_⟩
    generalize done' : channel.withConfig config other = result' at same
    cases same with
    | intro alike => exact ⟨_, .drop config done', alike⟩
  | @close channel host _ _ done =>
    have keeps : channel.KeepsTo ground := keeps
    have same := channel.close_alike alike keeps
    have later := keeps.proceeds (channel.close_proceeds host) (channel.close_stands host).control
    rw [done] at same later
    refine ⟨later, ?_⟩
    generalize done' : channel.close other = result' at same
    cases same with
    | intro alike => exact ⟨_, .close done', alike⟩
  | accept handler memory => exact ⟨⟨keeps, nofun⟩, other, .accept handler memory, alike⟩
  | @serve ρ handler session host _ _ _ stepped =>
    obtain ⟨agrees, later⟩ := Session.step_alike alike handler keeps orderly.orderly
    have asked := Session.asked?_alike alike keeps
    rw [stepped] at agrees later
    refine ⟨later, ?_⟩
    generalize stepped' : session.step handler other = result' at agrees
    cases agrees with
    | intro alike =>
      rw [← asked]
      exact ⟨_, .serve stepped', alike⟩
  | returns finished => exact ⟨Session.KeepsTo.channel keeps, other, .returns finished, alike⟩
  | shutdown handle => exact ⟨keeps, _, .shutdown handle, ShutdownHandle.shutdown_alike alike (within handle rfl)⟩
  | elsewhere acts =>
    obtain ⟨change, admits, rfl⟩ | ⟨apart, -⟩ := acts
    · exact ⟨keeps, change other, .elsewhere (.inl ⟨change, admits, rfl⟩), admits.alike _ _ alike⟩
    -- What leaves one of the hosts alone need not happen on the other.
    · exact ⟨keeps, other, .elsewhere (.inr ⟨alike.symm.trans alike, ⟨Nat.le_refl _, rfl⟩⟩), apart.symm.trans alike⟩

/-- One thing after another happens, and the handles that are used knock at no door. -/
inductive Does (ground : Ground) (c : ControlId) : List ChannelDeed → Course → Course → Prop
  | nothing {o : Course} : Does ground c [] o o
  | next {deed : ChannelDeed} {deeds : List ChannelDeed} {o mid last : Course} (move : Moves (ground.Acts c) deed o mid)
      (within : ∀ handle, deed = .shutdown handle → handle.KeepsTo ground o.host) (rest : Does ground c deeds mid last) :
      Does ground c (deed :: deeds) o last

theorem Does.alike (does : Does ground c deeds o next) (keeps : o.activity.KeepsTo ground) (orderly : o.IsOrderly role c)
    (alike : o.host.Alike ground other) :
    ∃ after, Does ground c deeds ⟨o.activity, other⟩ ⟨next.activity, after⟩ ∧ next.host.Alike ground after := by
  -- On the deeds from the first; the other host is led along, as each deed leaves the two alike.
  induction does generalizing other with
  | nothing => exact ⟨other, .nothing, alike⟩
  | @next deed deeds o mid last move within rest ih =>
    have within' handle (same : deed = .shutdown handle) := (within handle same).alike alike
    obtain ⟨keeps, between, move', alike⟩ := move.alike within keeps orderly alike
    have orderly : mid.IsOrderly role c := Moves.orderly (move.mono fun before after acts => acts.keeps) orderly
    obtain ⟨after, does, alike⟩ := ih keeps orderly alike
    exact ⟨after, .next move' within' does, alike⟩

end Course
end CallWire
