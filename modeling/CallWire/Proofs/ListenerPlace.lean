import CallWire.Proofs.BetweenOperations

/-! Where a listening channel is found. As long as it is open it has the listener that it was bound with, and its handles
go on knocking at the same path, whatever its sessions do. -/

namespace CallWire

/-- The handles that go by this control knock where they did. -/
def Host.KeepsPath (c : ControlId) (before after : Host) : Prop :=
  (after.control c).listenPath = (before.control c).listenPath

namespace Host
variable {c : ControlId} {first second third host after : Host}

theorem KeepsPath.trans (left : first.KeepsPath c second) (right : second.KeepsPath c third) : first.KeepsPath c third :=
  Eq.trans right left

theorem keepsPath_of_controls (same : after.controls = host.controls) : host.KeepsPath c after := by
  rw [KeepsPath, control, control, same]

theorem setControl_keepsPath {control : Control} (same : control.listenPath = (host.control c).listenPath) :
    host.KeepsPath c (host.setControl c control) := by
  rw [KeepsPath, control_setControl]
  split
  · exact same
  · rfl

theorem unregister_keepsPath (host : Host) (c : ControlId) : host.KeepsPath c (host.unregister c) := by
  unfold unregister
  split
  · rfl
  · have cleared : host.KeepsPath c (host.setControl c { host.control c with active := none }) := setControl_keepsPath rfl
    exact cleared.trans (keepsPath_of_controls rfl)

theorem register_keepsPath (host : Host) (c : ControlId) (s : SocketId) : host.KeepsPath c (host.register c s) :=
  ((host.unregister_keepsPath c).trans (keepsPath_of_controls rfl)).trans (setControl_keepsPath rfl)

end Host

theorem ShutdownHandle.request_keepsPath (handle : ShutdownHandle) (host : Host) :
    host.KeepsPath handle.control (handle.request host) :=
  Host.setControl_keepsPath rfl

theorem Session.perform_keepsPath (handle : ShutdownHandle) (actions : List HandlerAction) (slot : ReplySlot)
    (host : Host) :
    host.KeepsPath handle.control (perform handle actions slot host).2 := by
  induction actions generalizing slot host with
  | nil => rfl
  | cons action rest ih =>
    cases action with
    | place reply => exact ih _ host
    | withdraw => exact ih _ host
    | shutdown =>
      have told := (handle.request_keepsPath host).trans (Host.keepsPath_of_controls (handle.shutdown_controls host))
      exact told.trans (ih slot _)

theorem Connection.attach_keepsPath (host : Host) (s : SocketId) (config : FrameConfig) (control : ControlId) :
    host.KeepsPath control (attach host s config control).2 := by
  have doubled : host.KeepsPath control (host.duplicate s) := Host.keepsPath_of_controls rfl
  have used := doubled.trans ((host.duplicate s).register_keepsPath control s)
  have timed := Host.setTimeouts_controls ((host.duplicate s).register control s) s config.readTimeout config.writeTimeout
  unfold attach
  dsimp only
  split
  · rename_i set
    rw [set] at timed
    exact used.trans (Host.keepsPath_of_controls timed)
  · rename_i set
    rw [set] at timed
    exact used.trans (Host.keepsPath_of_controls timed)

namespace Channel

/-- The channel has the listener it had, if it has one at all, and its handles knock where they did. -/
structure Abides (channel : Channel) (host : Host) (next : Channel) (after : Host) : Prop where
  control : next.control = channel.control
  listener : ∀ l peer, next.state = .listening l peer → ∃ peer', channel.state = .listening l peer'
  path : host.KeepsPath channel.control after

section
variable {channel next last : Channel} {host after final : Host}

theorem abides_of_host (channel : Channel) (keeps : host.KeepsPath channel.control after) :
    channel.Abides host channel after :=
  ⟨rfl, fun _ peer listening => ⟨peer, listening⟩, keeps⟩

theorem Abides.trans (left : channel.Abides host next after) (right : next.Abides after last final) :
    channel.Abides host last final := by
  refine ⟨right.control.trans left.control, fun l peer listening => ?_, left.path.trans (left.control ▸ right.path)⟩
  obtain ⟨peer, listening⟩ := right.listener l peer listening
  exact left.listener l peer listening

theorem setConnection_abides (channel : Channel) (c : Connection) (keeps : host.KeepsPath channel.control after) :
    channel.Abides host (channel.setConnection c) after := by
  refine ⟨channel.setConnection_control c, fun l peer listening => ?_, keeps⟩
  unfold setConnection at listening
  split at listening
  · cases listening
  · rename_i state
    cases listening
    exact ⟨_, state⟩
  · exact ⟨peer, listening⟩

theorem hangUp_keepsPath (c : Connection) (host : Host) (control : ControlId) : host.KeepsPath control (c.hangUp host) :=
  Host.keepsPath_of_controls rfl

theorem close_abides (channel : Channel) (host : Host) :
    channel.Abides host (channel.close host).1 (channel.close host).2 := by
  have parted := host.unregister_keepsPath channel.control
  have silent l : host.KeepsPath channel.control ((host.unregister channel.control).dropListener l) :=
    parted.trans (Host.keepsPath_of_controls (Host.dropListener_controls _ l))
  refine ⟨(channel.close_stands host).control, fun l peer listening => ?_, ?_⟩
  · rw [close_state] at listening
    cases listening
  · unfold close
    split
    · rfl
    · exact parted.trans (hangUp_keepsPath _ _ _)
    · exact silent _
    · exact (silent _).trans (hangUp_keepsPath _ _ _)

theorem detachPeer_abides (channel : Channel) (host : Host) :
    channel.Abides host (channel.detachPeer host).1 (channel.detachPeer host).2 := by
  have parted := host.unregister_keepsPath channel.control
  refine ⟨(channel.detachPeer_stands host).control, (channel.detachPeer_narrows host).role, ?_⟩
  unfold detachPeer
  split
  · rename_i l peer _
    cases peer with
    | none => exact parted
    | some c => exact parted.trans (hangUp_keepsPath c _ _)
  · exact (channel.close_abides host).path

theorem fail_abides (channel : Channel) (error : ChannelError) (host : Host) :
    channel.Abides host (channel.fail error host).1 (channel.fail error host).2 := by
  unfold fail
  split
  · exact channel.abides_of_host rfl
  · exact channel.close_abides host

end
end Channel

namespace Session
variable {ρ : Type}

theorem serve_abides (handler : Handler ρ) (session : Session ρ) (c : Connection) (m : Message) (host : Host) :
    session.channel.Abides host (session.serve handler c m host).1.channel (session.serve handler c m host).2 := by
  rw [serve_channel]
  apply Channel.abides_of_host
  have performed := perform_keepsPath session.channel.shutdownHandle (handler session.memory m).2 .empty host
  unfold serve
  split
  · dsimp only
    split
    · exact performed
    · rename_i reply _
      have sent := performed.trans (Host.keepsPath_of_controls (c.send_controls _ reply.bytes))
      split
      · rename_i done
        rwa [done] at sent
      · rename_i done
        rwa [done] at sent
  · rfl

theorem arrive_abides (session : Session ρ) (host : Host) :
    session.channel.Abides host (session.arrive host).2.1.channel (session.arrive host).2.2 := by
  rw [arrive]
  split
  · exact session.channel.abides_of_host rfl
  · exact session.channel.abides_of_host rfl
  · exact session.channel.abides_of_host rfl
  · rename_i l _
    have taken := host.accept_controls l
    split
    · rename_i accepted
      rw [accepted] at taken
      exact session.channel.abides_of_host (Host.keepsPath_of_controls taken)
    · rename_i accepted
      rw [accepted] at taken
      exact session.channel.abides_of_host (Host.keepsPath_of_controls taken)

theorem attach_abides (session : Session ρ) (s : SocketId) (host : Host) :
    session.channel.Abides host (session.attach s host).1.channel (session.attach s host).2 := by
  have used := Connection.attach_keepsPath host s session.channel.config session.channel.control
  rw [attach]
  split
  · rename_i done
    rw [done] at used
    exact session.channel.abides_of_host used
  · rename_i done
    rw [done] at used
    exact session.channel.setConnection_abides _ used

theorem readNext_abides (handler : Handler ρ) (session : Session ρ) (c : Connection) (host : Host) :
    session.channel.Abides host (session.readNext handler c host).2.1.channel (session.readNext handler c host).2.2 := by
  have read : session.channel.Abides host (session.channel.setConnection (c.readMessage host).2.1)
      (c.readMessage host).2.2 :=
    session.channel.setConnection_abides _ (Host.keepsPath_of_controls (c.readMessage_controls host))
  rw [readNext]
  dsimp only
  split
  · exact read
  · exact read
  · exact read
  · rename_i m _
    exact read.trans (serve_abides handler { session with channel := session.channel.setConnection _ } _ m _)

theorem step_abides (handler : Handler ρ) (session : Session ρ) (host : Host) :
    session.channel.Abides host (session.step handler host).2.1.channel (session.step handler host).2.2 := by
  cases phase : session.phase with
  | arriving =>
    simp only [step, phase]
    exact session.arrive_abides host
  | attaching s =>
    simp only [step, phase]
    exact session.attach_abides s host
  | reading =>
    simp only [step, phase]
    split
    · exact session.channel.abides_of_host rfl
    · exact readNext_abides handler session _ host
  | checking | leaving | finished result =>
    simp only [step, phase]
    exact session.channel.abides_of_host rfl
  | detaching =>
    simp only [step, phase]
    exact session.channel.detachPeer_abides host
  | closing =>
    simp only [step, phase]
    exact session.channel.close_abides host
  | failing error =>
    simp only [step, phase]
    exact session.channel.fail_abides error host

end Session
end CallWire
