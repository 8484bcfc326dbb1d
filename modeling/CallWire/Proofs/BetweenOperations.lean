import CallWire.Proofs.RegisteredStream

/-! A channel between two operations. One that has connected is connected or closed, and one that listens has no peer,
however the sessions in between have ended; and its handles reach a stream exactly if it is connected. -/

namespace CallWire

namespace Session
variable {ρ : Type} {role : ChannelRole} {session : Session ρ} {host after : Host} {c : Connection}

/-- What holds while a session goes on. A socket that was registered to no use is left to the failure that follows. -/
def Orderly (role : ChannelRole) (session : Session ρ) (host : Host) : Prop :=
  match session.phase with
  | .arriving | .finished _ => role.Rests session.channel.state ∧ session.channel.Registered host
  | .attaching _ => role.Rests session.channel.state ∧ ∃ l, session.channel.state = .listening l none
  | .checking | .reading | .leaving | .detaching | .closing =>
    role.Fits session.channel.state ∧ session.channel.Registered host ∧ ∃ c, session.channel.connection? = some c
  | .failing error =>
    role.Fits session.channel.state ∧
      (session.channel.state = .closed ∧ session.channel.Registered host ∨
        session.channel.state ≠ .closed ∧ Channel.leavesOpen error = false)

/-- While a request is served nothing about the registration changes, and then the session goes on or fails. -/
theorem serve_keeps (handler : Handler ρ) (session : Session ρ) (c : Connection) (m : Message) (host : Host) :
    host.Keeps session.channel.control (session.serve handler c m host).2 ∧
      ((session.serve handler c m host).1.phase = .checking ∨
        ∃ error, (session.serve handler c m host).1.phase = .failing error ∧ Channel.leavesOpen error = false) := by
  have performed :=
    perform_keeps session.channel.shutdownHandle session.channel.control (handler session.memory m).2 .empty host
  unfold serve
  split
  · dsimp only
    split
    · exact ⟨performed, .inr ⟨_, rfl, rfl⟩⟩
    · rename_i reply _
      have sent := performed.trans (Host.keeps_of_controls (c.send_controls _ reply.bytes))
      split
      · rename_i done
        rw [done] at sent
        exact ⟨sent, .inl rfl⟩
      · rename_i done
        rw [done] at sent
        exact ⟨sent, .inr ⟨_, rfl, leavesOpen_send c done⟩⟩
  · exact ⟨Host.keeps_of_controls rfl, .inr ⟨_, rfl, rfl⟩⟩

theorem arrive_orderly (phase : session.phase = .arriving) (orderly : session.Orderly role host) :
    (session.arrive host).2.1.Orderly role (session.arrive host).2.2 := by
  have start := orderly
  rw [Orderly, phase] at orderly
  obtain ⟨rests, registered⟩ := orderly
  unfold arrive
  split
  · rename_i closed
    exact ⟨rests.fits, .inl ⟨closed, registered⟩⟩
  · rename_i c connected
    refine ⟨rests.fits, registered, c, ?_⟩
    rw [Channel.connection?, connected]
  · rename_i l c listening
    refine ⟨rests.fits, registered, c, ?_⟩
    rw [Channel.connection?, listening]
  · rename_i l listening
    unfold Host.accept
    dsimp only
    split
    · rename_i accepted
      split at accepted
      · cases accepted
        exact start
      · cases accepted
    · exact ⟨rests, l, listening⟩

theorem attach_orderly {s : SocketId} (phase : session.phase = .attaching s) (orderly : session.Orderly role host)
    (inRange : session.channel.control < host.controls.length) :
    (session.attach s host).1.Orderly role (session.attach s host).2 := by
  rw [Orderly, phase] at orderly
  obtain ⟨rests, l, listening⟩ := orderly
  have active := Connection.attach_active s session.channel.config inRange
  have fits := rests.fits
  unfold attach
  dsimp only
  split
  · rename_i failed
    refine ⟨fits, .inr ⟨?_, Connection.leavesOpen_attach failed⟩⟩
    rw [listening]
    exact nofun
  · rename_i c after taken
    rw [taken] at active
    have own := Connection.attach_socket taken
    obtain ⟨⟨state, path, config, control⟩, memory, _⟩ := session
    obtain rfl : state = .listening l none := listening
    refine ⟨?_, ?_, c, rfl⟩
    · cases role with
      | connecting => exact fits.elim
      | listening => trivial
    · rw [← own] at active
      exact active

theorem readNext_orderly (handler : Handler ρ) (phase : session.phase = .reading) (orderly : session.Orderly role host)
    (connected : session.channel.connection? = some c) :
    (session.readNext handler c host).2.1.Orderly role (session.readNext handler c host).2.2 := by
  rw [Orderly, phase] at orderly
  obtain ⟨fits, registered, -⟩ := orderly
  obtain ⟨content, -, took⟩ := c.readMessage_took host
  have controls := c.readMessage_controls host
  have same : (c.readMessage host).2.1.socket = c.socket := rfl
  unfold readNext
  generalize c.readMessage host = result at took controls same
  obtain ⟨outcome, c', after⟩ := result
  obtain ⟨_, _, _, present⟩ := Channel.setConnection_of_connection connected c'
  have outline := Channel.setConnection_outline connected same
  have fits : role.Fits (session.channel.setConnection c').state := by
    rwa [← role.fits_outline, outline, role.fits_outline]
  have proceeds : session.channel.Proceeds host (session.channel.setConnection c') after :=
    .stays outline (Host.keeps_of_controls controls)
  have registered := proceeds.registered (session.channel.setConnection_control c') registered
  have opened : (session.channel.setConnection c').state ≠ .closed := by
    intro closed
    rw [Channel.connection?, closed] at present
    cases present
  -- Whatever was read, the socket is the registered one, and a failure is one that closes the channel.
  cases took with
  | nothing =>
    simp only [Orderly, phase]
    exact ⟨fits, registered, c', present⟩
  | ended => exact ⟨fits, registered, c', present⟩
  | failed fatal => exact ⟨fits, .inr ⟨opened, fatal⟩⟩
  | @message m _ _ _ =>
    let reading : Session ρ := { session with channel := session.channel.setConnection c' }
    obtain ⟨keeps, ends⟩ := serve_keeps handler reading c' m after
    have own := serve_channel handler reading c' m after
    show (reading.serve handler c' m after).1.Orderly role (reading.serve handler c' m after).2
    rcases ends with checking | ⟨error, failing, fatal⟩
    · have kept : reading.channel.Proceeds after reading.channel (reading.serve handler c' m after).2 := .stays rfl keeps
      rw [Orderly, checking, own]
      exact ⟨fits, kept.registered rfl registered, c', present⟩
    · rw [Orderly, failing, own]
      exact ⟨fits, .inr ⟨opened, fatal⟩⟩

theorem step_orderly (handler : Handler ρ) (orderly : session.Orderly role host)
    (inRange : session.channel.control < host.controls.length) :
    (session.step handler host).2.1.Orderly role (session.step handler host).2.2 := by
  have start := orderly
  cases phase : session.phase with
  | arriving =>
    simp only [step, phase]
    exact arrive_orderly phase orderly
  | attaching s =>
    simp only [step, phase]
    exact attach_orderly phase orderly inRange
  | checking | leaving =>
    rw [Orderly, phase] at orderly
    simp only [step, phase]
    split
    · exact orderly
    · exact orderly
  | reading =>
    rw [Orderly, phase] at orderly
    obtain ⟨-, -, c, connected⟩ := orderly
    simp only [step, phase, Channel.established_of_connection connected]
    exact readNext_orderly handler phase start connected
  | detaching =>
    rw [Orderly, phase] at orderly
    obtain ⟨fits, -, c, connected⟩ := orderly
    simp only [step, phase]
    refine ⟨?_, ?_⟩
    · rw [Channel.detachPeer_state]
      exact fits.vacated
    · rw [Channel.Registered, (session.channel.detachPeer_stands host).control, Channel.detachPeer_inactive connected host,
        Channel.detachPeer_state, Channel.socket?_vacated]
  | closing =>
    rw [Orderly, phase] at orderly
    obtain ⟨-, registered, -⟩ := orderly
    have proceeds := session.channel.close_proceeds host
    have own := (session.channel.close_stands host).control
    simp only [step, phase]
    refine ⟨?_, proceeds.registered own registered⟩
    rw [Channel.close_state]
    exact role.rests_closed
  | failing error =>
    rw [Orderly, phase] at orderly
    -- A failure on a closed channel leaves it so; any other is fatal, and the stream is given up with the channel.
    obtain ⟨-, ⟨closed, registered⟩ | ⟨opened, fatal⟩⟩ := orderly
    · have proceeds := session.channel.fail_proceeds host error
      have own := (session.channel.fail_stands host error).control
      simp only [step, phase]
      exact ⟨proceeds.rests (closed ▸ role.rests_closed), proceeds.registered own registered⟩
    · simp only [step, phase, Channel.fail_eq_close fatal]
      refine ⟨?_, ?_⟩
      · rw [Channel.close_state]
        exact role.rests_closed
      · rw [Channel.Registered, (session.channel.close_stands host).control, Channel.close_inactive opened host,
          Channel.close_state]
        rfl
  | finished result =>
    simp only [step, phase]
    exact start

theorem Orderly.keeps (orderly : session.Orderly role host) (keeps : host.Keeps session.channel.control after) :
    session.Orderly role after := by
  have kept : session.channel.Proceeds host session.channel after := .stays rfl keeps
  cases phase : session.phase with
  | arriving | finished result =>
    rw [Orderly, phase] at orderly ⊢
    exact ⟨orderly.1, kept.registered rfl orderly.2⟩
  | attaching s =>
    rw [Orderly, phase] at orderly ⊢
    exact orderly
  | checking | reading | leaving | detaching | closing =>
    rw [Orderly, phase] at orderly ⊢
    exact ⟨orderly.1, kept.registered rfl orderly.2.1, orderly.2.2⟩
  | failing error =>
    rw [Orderly, phase] at orderly ⊢
    exact ⟨orderly.1, orderly.2.imp_left fun ended => ⟨ended.1, kept.registered rfl ended.2⟩⟩

end Session

namespace Activity

def Orderly (role : ChannelRole) (host : Host) : Activity → Prop
  | idle channel => role.Rests channel.state ∧ channel.Registered host
  | serving _ session => session.Orderly role host

end Activity

namespace Course

/-- The channel goes by the control that was made for it, and is in order. -/
structure IsOrderly (role : ChannelRole) (c : ControlId) (o : Course) : Prop where
  control : o.activity.channel.control = c
  inRange : c < o.host.controls.length
  orderly : o.activity.Orderly role o.host

variable {role : ChannelRole} {c : ControlId} {deed : ChannelDeed} {o next : Course}

/-- An operation on the channel itself. -/
theorem IsOrderly.proceed {channel later : Channel} {host after : Host} (orderly : IsOrderly role c ⟨.idle channel, host⟩)
    (proceeds : channel.Proceeds host later after) (stands : channel.Stands host later after) :
    IsOrderly role c ⟨.idle later, after⟩ := by
  obtain ⟨own, inRange, rests, registered⟩ := orderly
  exact ⟨stands.control.trans own, Nat.lt_of_lt_of_le inRange stands.remembers.grows, proceeds.rests rests,
    proceeds.registered stands.control registered⟩

/-- Something that happens to the host alone. -/
theorem IsOrderly.keeps {activity : Activity} {host after : Host} (orderly : IsOrderly role c ⟨activity, host⟩)
    (keeps : host.Keeps c after) : IsOrderly role c ⟨activity, after⟩ := by
  obtain ⟨rfl, inRange, orderly⟩ := orderly
  refine ⟨rfl, Nat.lt_of_lt_of_le inRange keeps.grows, ?_⟩
  cases activity with
  | idle channel =>
    have kept : channel.Proceeds host channel after := .stays rfl keeps
    exact ⟨orderly.1, kept.registered rfl orderly.2⟩
  | serving handler session => exact Session.Orderly.keeps orderly keeps

theorem Moves.orderly (move : Moves (Host.Keeps c) deed o next) (orderly : o.IsOrderly role c) :
    next.IsOrderly role c := by
  cases move with
  | @attempt channel host _ _ _ op done =>
    have proceeds := channel.attempt_proceeds host op
    have stands := channel.attempt_stands host op
    rw [done] at proceeds stands
    exact orderly.proceed proceeds stands
  | @configure channel host _ _ config done =>
    have proceeds := channel.withConfig_proceeds host config
    obtain ⟨remembers, kept⟩ := channel.withConfig_remembers host config
    rw [done] at proceeds remembers kept
    exact orderly.proceed proceeds ⟨kept _ rfl, remembers⟩
  | @drop channel host _ _ config done =>
    have proceeds := channel.withConfig_proceeds host config
    obtain ⟨remembers, -⟩ := channel.withConfig_remembers host config
    rw [done] at proceeds remembers
    exact orderly.proceed proceeds ⟨rfl, remembers⟩
  | @close channel host _ _ done =>
    have proceeds := channel.close_proceeds host
    have stands := channel.close_stands host
    rw [done] at proceeds stands
    exact orderly.proceed proceeds stands
  | accept handler memory => exact ⟨orderly.control, orderly.inRange, orderly.orderly⟩
  | @serve ρ handler session host _ _ _ stepped =>
    obtain ⟨rfl, inRange, orderly⟩ := orderly
    have later := Session.step_orderly handler orderly inRange
    have stands := session.step_stands handler host
    rw [stepped] at later stands
    exact ⟨stands.control, Nat.lt_of_lt_of_le inRange stands.remembers.grows, later⟩
  | returns finished =>
    obtain ⟨own, inRange, orderly⟩ := orderly
    rw [Activity.Orderly, Session.Orderly, finished] at orderly
    exact ⟨own, inRange, orderly⟩
  | @shutdown _ host handle => exact orderly.keeps (handle.shutdown_keeps c host)
  | elsewhere keeps => exact orderly.keeps keeps

theorem Run.orderly (run : Run (Host.Keeps c) o next) (orderly : o.IsOrderly role c) : next.IsOrderly role c := by
  induction run with
  | refl => exact orderly
  | tail _ moved ih =>
    obtain ⟨deed, move⟩ := moved
    exact move.orderly ih

end Course

theorem Host.control_newControl (host : Host) (control : Control) :
    (host.newControl control).2.control (host.newControl control).1 = control := by
  show (host.controls ++ [control]).getD host.controls.length {} = control
  rw [List.getD_eq_getElem?_getD, List.getElem?_append_right (Nat.le_refl _), Nat.sub_self]
  rfl

namespace ChannelRole

/-- How a channel of this role is made. -/
def make : ChannelRole → String → Host → Except ChannelError Channel × Host
  | connecting => Channel.connect
  | listening => Channel.bind

variable {role : ChannelRole} {path : String} {before host : Host} {channel : Channel}

theorem made (done : role.make path before = (.ok channel, host)) : channel.Made host := by
  cases role with
  | connecting => exact .connected done
  | listening => exact .bound done

theorem make_orderly (done : role.make path before = (.ok channel, host)) :
    Course.IsOrderly role channel.control ⟨.idle channel, host⟩ := by
  have inRange := (made done).inRange
  cases role with
  | connecting =>
    have done : Channel.connect path before = (.ok channel, host) := done
    unfold Channel.connect at done
    split at done
    · cases done
    · rename_i s joined _
      dsimp only at done
      have active := Connection.attach_active s {} (joined.newControl_inRange {})
      split at done
      · rename_i taken
        rw [taken] at active
        have own := Connection.attach_socket taken
        cases done
        exact ⟨rfl, inRange, trivial, active.trans (congrArg some own.symm)⟩
      · cases done
  | listening =>
    have done : Channel.bind path before = (.ok channel, host) := done
    unfold Channel.bind at done
    split at done
    · cases done
    · rename_i l opened _
      cases done
      exact ⟨rfl, inRange, trivial, congrArg Control.active (opened.control_newControl { listenPath := some path })⟩

end ChannelRole

/-- After each operation a channel that has connected is connected or closed, and one that listens has no peer or is
closed, so that nothing can be sent or received on it; and what its handles would shut down is the stream of its
connection, if it has one. -/
theorem Channel.between_operations {role : ChannelRole} {path : String} {before host after : Host}
    {channel next : Channel} (made : role.make path before = (.ok channel, host))
    (run : Course.Run (Host.Keeps channel.control) ⟨.idle channel, host⟩ ⟨.idle next, after⟩) :
    next.shutdownHandle = channel.shutdownHandle ∧
      (after.control channel.shutdownHandle.control).active = next.connection?.map Connection.socket ∧
      (role = .connecting → (∃ c, next.state = .connected c) ∨ next.state = .closed) ∧
      (role = .listening →
        ((∃ l, next.state = .listening l none) ∨ next.state = .closed) ∧ next.isConnected = false ∧
          ∀ op elsewhere, ∃ error, (error = .notConnected ∨ error = .closed) ∧
            ChannelOperation.attempt op next elsewhere = (.done (.error error), next, elsewhere)) := by
  obtain ⟨own, -, rests, registered⟩ := run.orderly (ChannelRole.make_orderly made)
  have own : next.control = channel.control := own
  refine ⟨congrArg ShutdownHandle.mk own, ?_, ?_, ?_⟩
  · rw [Channel.shutdownHandle, ← own]
    exact registered
  · rintro rfl
    cases state : next.state with
    | connected c => exact .inl ⟨c, rfl⟩
    | listening l peer =>
      rw [state] at rests
      exact rests.elim
    | closed => exact .inr rfl
  · rintro rfl
    obtain ⟨state, path, config, control⟩ := next
    rcases state with c | ⟨l, _ | c⟩ | _
    · exact rests.elim
    · refine ⟨.inl ⟨l, rfl⟩, rfl, ?_⟩
      intro op elsewhere
      refine ⟨.notConnected, .inl rfl, ?_⟩
      cases op with
      | send | sendRaw | recv | call | recvReply => rfl
    · exact rests.elim
    · have refuses : Channel.Refuses ⟨.closed, path, config, control⟩ := Channel.refuses_of_closed rfl
      exact ⟨.inr rfl, refuses.unconnected, fun op elsewhere => ⟨.closed, .inr rfl, refuses.attempt op elsewhere⟩⟩

/-- A listening channel takes timeouts that the socket of the next peer refuses; the stream of that peer has been
registered by then. -/
theorem Channel.between_operations_refused_timeouts :
    let config : FrameConfig := { readTimeout := some 0 }
    let fresh : Channel := ⟨.listening 0 none, "s", {}, 0⟩
    let channel : Channel := { fresh with config }
    let refused : ChannelError := .transport (.io ⟨.invalidInput, "cannot set a 0 duration timeout"⟩)
    let handler : Handler Unit := fun _ m => ((), [.place (Message.response m.callId [])])
    ∃ host taken registered after, ChannelRole.listening.make "s" {} = (.ok fresh, host) ∧
      fresh.withConfig config host = (.ok channel, host) ∧
      Session.step handler ⟨channel, (), .attaching ⟨0, true⟩⟩ taken =
        (.moves, ⟨channel, (), .failing refused⟩, registered) ∧
      (registered.control 0).active = some ⟨0, true⟩ ∧
      Course.Run (Host.Keeps 0) ⟨.idle fresh, host⟩ ⟨.idle { channel with state := .closed }, after⟩ ∧
      (after.control 0).active = none ∧
      ∀ op elsewhere, ∃ error, (error = .notConnected ∨ error = .closed) ∧
        ChannelOperation.attempt op { channel with state := .closed } elsewhere =
          (.done (.error error), { channel with state := .closed }, elsewhere) := by
  intro config fresh channel refused handler
  let bound : Host :=
    { listeners := [{ path := "s", inode := 1 }], files := [⟨["s"], 1, .socket, 0o600⟩],
      controls := [{ listenPath := some "s" }], lastInode := 1 }
  let joined : Host :=
    { bound with links := [⟨{}, {}⟩], listeners := [{ path := "s", inode := 1, backlog := [⟨0, true⟩] }] }
  let taken : Host := { bound with links := [⟨{}, {}⟩] }
  have made : ChannelRole.listening.make "s" {} = (.ok fresh, bound) := by cbv
  have connects : bound.Keeps 0 joined := Host.keeps_of_controls rfl
  have configures : Course.Run (Host.Keeps 0) ⟨.idle fresh, bound⟩ ⟨.idle channel, bound⟩ :=
    .single ⟨_, .configure config rfl⟩
  have accepts : Course.Run (Host.Keeps 0) ⟨.idle fresh, bound⟩ ⟨.serving handler (.start channel ()), joined⟩ :=
    .tail (.tail configures ⟨_, .elsewhere connects⟩) ⟨_, .accept handler ()⟩
  have attaches : Course.Run (Host.Keeps 0) ⟨.idle fresh, bound⟩
      ⟨.serving handler ⟨channel, (), .attaching ⟨0, true⟩⟩, taken⟩ := .tail accepts ⟨_, .serve rfl⟩
  have fails : Course.Run (Host.Keeps 0) ⟨.idle fresh, bound⟩
      ⟨.serving handler ⟨channel, (), .failing refused⟩, _⟩ := .tail attaches ⟨_, .serve rfl⟩
  have ends : Course.Run (Host.Keeps 0) ⟨.idle fresh, bound⟩ ⟨.idle { channel with state := .closed }, _⟩ :=
    .tail (.tail fails ⟨_, .serve rfl⟩) ⟨_, .returns rfl⟩
  obtain ⟨-, inactive, -, unused⟩ := Channel.between_operations made ends
  exact ⟨bound, taken, _, _, made, rfl, rfl, rfl, ends, inactive, (unused rfl).2.2⟩

end CallWire
