import CallWire.Proofs.ClosedChannel

/-! The stream that the handles of a channel can shut down is that of its connection, if there is one, and none
otherwise. Every operation keeps it so: it leaves connection and registration as they were, or ends both. -/

namespace CallWire

namespace Host

/-- The stream that is registered with the control stays. -/
structure Keeps (c : ControlId) (before after : Host) : Prop where
  grows : before.controls.length ≤ after.controls.length
  active : (after.control c).active = (before.control c).active

variable {c : ControlId} {first second third host after : Host}

theorem Keeps.trans (left : first.Keeps c second) (right : second.Keeps c third) : first.Keeps c third :=
  ⟨Nat.le_trans left.grows right.grows, right.active.trans left.active⟩

theorem keeps_of_controls (same : after.controls = host.controls) : host.Keeps c after := by
  refine ⟨Nat.le_of_eq (congrArg List.length same.symm), ?_⟩
  rw [control, control, same]

end Host

namespace ShutdownHandle

theorem request_keeps (handle : ShutdownHandle) (c : ControlId) (host : Host) : host.Keeps c (handle.request host) := by
  refine ⟨Nat.le_of_eq List.length_set.symm, ?_⟩
  rw [request]
  by_cases own : handle.control = c
  · subst own
    rw [Host.control_setControl]
    split
    · rfl
    · rfl
  · rw [Host.control_setControl_of_ne own]

theorem shutdown_keeps (handle : ShutdownHandle) (c : ControlId) (host : Host) : host.Keeps c (handle.shutdown host) :=
  (handle.request_keeps c host).trans (Host.keeps_of_controls (handle.shutdown_controls host))

/-- Where a stream is registered, it is shut down, and nothing else happens. -/
theorem shutdown_of_active {handle : ShutdownHandle} {host : Host} {s : SocketId}
    (active : (host.control handle.control).active = some s) :
    handle.shutdown host = (handle.request host).shutdown s .both := by
  have registered := (handle.request_keeps handle.control host).active.trans active
  simp only [shutdown, interrupt, registered]

end ShutdownHandle

theorem Session.perform_keeps (handle : ShutdownHandle) (c : ControlId) (actions : List HandlerAction) (slot : ReplySlot)
    (host : Host) : host.Keeps c (perform handle actions slot host).2 := by
  induction actions generalizing slot host with
  | nil => exact Host.keeps_of_controls rfl
  | cons action rest ih =>
    cases action with
    | place reply => exact ih _ host
    | withdraw => exact ih _ host
    | shutdown => exact (handle.shutdown_keeps c host).trans (ih slot _)

theorem Connection.hangUp_keeps (c : Connection) (host : Host) (control : ControlId) :
    host.Keeps control (c.hangUp host) :=
  Host.keeps_of_controls rfl

/-- A socket that is taken into use is registered, even if its timeouts are refused. -/
theorem Connection.attach_active {host : Host} {control : ControlId} (s : SocketId) (config : FrameConfig)
    (inRange : control < host.controls.length) :
    ((attach host s config control).2.control control).active = some s := by
  have room : control < (((host.duplicate s).unregister control).duplicate s).controls.length :=
    Nat.lt_of_lt_of_le inRange ((host.duplicate s).unregister_remembers control).grows
  have entered : (((host.duplicate s).register control s).control control).active = some s := by
    rw [Host.register, Host.control_setControl, if_pos room]
  have timed := ((host.duplicate s).register control s).setTimeouts_controls s config.readTimeout config.writeTimeout
  unfold attach
  dsimp only
  split
  · rename_i set
    rw [set] at timed
    rw [Host.control, timed]
    exact entered
  · rename_i c _ after set
    rw [set] at timed
    show ((Connection.drop _ after).control control).active = some s
    rw [Host.control, show (Connection.drop _ after).controls = after.controls from rfl, timed]
    exact entered

/-- How a channel came about. -/
inductive ChannelRole
  | connecting
  | listening

namespace ChannelRole

/-- What a channel can be at all. -/
def Fits : ChannelRole → ChannelState → Prop
  | connecting, .listening _ _ | listening, .connected _ => False
  | _, _ => True

/-- What a channel can be while nothing is done with it. -/
def Rests : ChannelRole → ChannelState → Prop
  | connecting, .connected _ | listening, .listening _ none | _, .closed => True
  | _, _ => False

theorem Rests.fits {role : ChannelRole} {state : ChannelState} (rests : role.Rests state) : role.Fits state := by
  rcases role with _ | _ <;> rcases state with c | ⟨l, _ | c⟩ | _
  all_goals trivial

theorem rests_closed (role : ChannelRole) : role.Rests .closed := by
  cases role with
  | connecting | listening => trivial

theorem Fits.vacated {role : ChannelRole} {state : ChannelState} (fits : role.Fits state) : role.Rests state.vacated := by
  rcases role with _ | _ <;> rcases state with c | ⟨l, peer⟩ | _
  all_goals trivial

end ChannelRole

/-- The state up to what a connection has buffered and how it is configured. -/
def ChannelState.outline : ChannelState → ChannelState
  | connected c => connected ⟨c.socket, {}, {}⟩
  | listening l peer => listening l (peer.map fun c => ⟨c.socket, {}, {}⟩)
  | closed => closed

theorem ChannelRole.rests_outline (role : ChannelRole) (state : ChannelState) :
    role.Rests state.outline ↔ role.Rests state := by
  rcases role with _ | _ <;> rcases state with c | ⟨l, _ | c⟩ | _
  all_goals exact Iff.rfl

theorem ChannelRole.fits_outline (role : ChannelRole) (state : ChannelState) :
    role.Fits state.outline ↔ role.Fits state := by
  rcases role with _ | _ <;> rcases state with c | ⟨l, _ | c⟩ | _
  all_goals exact Iff.rfl

namespace Channel

def socket? (channel : Channel) : Option SocketId := channel.connection?.map Connection.socket

/-- A handle of the channel reaches the connection that there is, and nothing else. -/
def Registered (channel : Channel) (host : Host) : Prop := (host.control channel.control).active = channel.socket?

/-- The channel goes on as it was, or it is closed and no stream is registered for it any more. -/
inductive Proceeds (channel : Channel) (host : Host) (next : Channel) (after : Host) : Prop
  | stays (outline : next.state.outline = channel.state.outline) (keeps : host.Keeps channel.control after)
  | ends (closed : next.state = .closed) (inactive : (after.control channel.control).active = none)

section
variable {channel next last : Channel} {host after final : Host} {role : ChannelRole} {c : Connection}

theorem socket?_of_outline (same : next.state.outline = channel.state.outline) : next.socket? = channel.socket? := by
  obtain ⟨state, _, _, _⟩ := channel
  obtain ⟨state', _, _, _⟩ := next
  have told (state : ChannelState) (path : String) (config : FrameConfig) (control : ControlId) :
      (⟨state, path, config, control⟩ : Channel).socket? = (⟨state.outline, path, config, control⟩ : Channel).socket? := by
    rcases state with c | ⟨l, _ | c⟩ | _
    all_goals rfl
  rw [told state', told state]
  exact congrArg (fun state => (⟨state, "", {}, 0⟩ : Channel).socket?) same

theorem socket?_vacated (channel : Channel) :
    ({ channel with state := channel.state.vacated } : Channel).socket? = none := by
  obtain ⟨state, path, config, control⟩ := channel
  cases state with
  | connected | listening | closed => rfl

theorem Proceeds.refl (channel : Channel) (host : Host) : channel.Proceeds host channel host :=
  .stays rfl (Host.keeps_of_controls rfl)

theorem Proceeds.trans (left : channel.Proceeds host next after) (right : next.Proceeds after last final)
    (own : next.control = channel.control) : channel.Proceeds host last final := by
  cases right with
  | ends closed inactive => exact .ends closed (own ▸ inactive)
  | stays outline keeps =>
    rw [own] at keeps
    cases left with
    | stays before kept => exact .stays (outline.trans before) (kept.trans keeps)
    | ends closed inactive =>
      refine .ends ?_ (keeps.active.trans inactive)
      rw [closed] at outline
      cases state : last.state with
      | closed => rfl
      | connected | listening =>
        rw [state] at outline
        cases outline

theorem Proceeds.registered (proceeds : channel.Proceeds host next after) (own : next.control = channel.control)
    (registered : channel.Registered host) : next.Registered after := by
  unfold Registered
  rw [own]
  cases proceeds with
  | stays outline keeps => rw [keeps.active, socket?_of_outline outline, registered]
  | ends closed inactive => rw [inactive, socket?, connection?, closed, Option.map_none]

theorem Proceeds.rests (proceeds : channel.Proceeds host next after) (rests : role.Rests channel.state) :
    role.Rests next.state := by
  cases proceeds with
  | stays outline => rwa [← role.rests_outline, outline, role.rests_outline]
  | ends closed =>
    rw [closed]
    exact role.rests_closed

theorem setConnection_outline (connected : channel.connection? = some c) {c' : Connection}
    (same : c'.socket = c.socket) : (channel.setConnection c').state.outline = channel.state.outline := by
  unfold setConnection
  rcases state_of_connection connected with state | ⟨l, state⟩
  · rw [state]
    simp only [ChannelState.outline, same]
  · rw [state]
    simp only [ChannelState.outline, Option.map_some, same]

theorem close_inactive (opened : channel.state ≠ .closed) (host : Host) :
    ((channel.close host).2.control channel.control).active = none := by
  have parted := host.unregister_inactive channel.control
  have silent l : (((host.unregister channel.control).dropListener l).control channel.control).active = none := by
    rw [Host.control, Host.dropListener_controls]
    exact parted
  cases state : channel.state with
  | closed => exact absurd state opened
  | connected c =>
    simp only [close, state]
    exact ((c.hangUp_keeps _ channel.control).active).trans parted
  | listening l peer =>
    cases peer with
    | none =>
      simp only [close, state]
      exact silent l
    | some c =>
      simp only [close, state]
      exact ((c.hangUp_keeps _ channel.control).active).trans (silent l)

end

section
variable (channel : Channel) (host : Host)

theorem close_proceeds : channel.Proceeds host (channel.close host).1 (channel.close host).2 := by
  by_cases closed : channel.state = .closed
  · have same : channel.close host = (channel, host) := by
      rw [close, closed]
    rw [same]
    exact .refl channel host
  · exact .ends (by rw [close_state]) (close_inactive closed host)

theorem fail_proceeds (error : ChannelError) :
    channel.Proceeds host (channel.fail error host).1 (channel.fail error host).2 := by
  unfold fail
  split
  · exact .refl channel host
  · exact channel.close_proceeds host

theorem sendRaw_proceeds (content : Bytes) :
    channel.Proceeds host (channel.sendRaw content host).2.1 (channel.sendRaw content host).2.2 := by
  unfold sendRaw
  split
  · exact channel.fail_proceeds host _
  · rename_i c _
    have sent : channel.Proceeds host channel (c.send content host).2 := .stays rfl (Host.keeps_of_controls rfl)
    split
    · rename_i done
      rwa [done] at sent
    · rename_i done
      rwa [done] at sent
    · rename_i done
      rw [done] at sent
      exact sent.trans (channel.fail_proceeds _ _) rfl

theorem recv_proceeds : channel.Proceeds host (channel.recv host).2.1 (channel.recv host).2.2 := by
  unfold recv
  split
  · exact channel.fail_proceeds host _
  · rename_i c established
    have read : channel.Proceeds host (channel.setConnection (c.readMessage host).2.1) (c.readMessage host).2.2 := by
      refine .stays ?_ (Host.keeps_of_controls (c.readMessage_controls host))
      exact setConnection_outline (connection?_of_established established) rfl
    dsimp only
    split
    · exact read.trans (fail_proceeds _ _ _) (channel.setConnection_control _)
    · exact read

theorem recvReply_proceeds (request : Message) :
    channel.Proceeds host (channel.recvReply request host).2.1 (channel.recvReply request host).2.2 := by
  have same : (channel.recvReply request host).2 = (channel.recv host).2 :=
    (Prod.mk.inj (ChannelOperation.forget_recvReply request channel host)).2
  rw [same]
  exact channel.recv_proceeds host

theorem call_proceeds (request : Message) :
    channel.Proceeds host (channel.call request host).2.1 (channel.call request host).2.2 := by
  have sent : channel.Proceeds host (channel.send request host).2.1 (channel.send request host).2.2 :=
    channel.sendRaw_proceeds host request.bytes
  have own : (channel.send request host).2.1.control = channel.control :=
    (channel.sendRaw_stands host request.bytes).control
  unfold call
  split
  · rename_i done
    rw [done] at sent own
    exact sent.trans (recvReply_proceeds _ _ request) own
  · rename_i done
    rwa [done] at sent

theorem attempt_proceeds (op : ChannelOperation) :
    channel.Proceeds host (op.attempt channel host).2.1 (op.attempt channel host).2.2 := by
  cases op with
  | send m => exact channel.sendRaw_proceeds host m.bytes
  | sendRaw content => exact channel.sendRaw_proceeds host content
  | recv => exact channel.recv_proceeds host
  | call request => exact channel.call_proceeds host request
  | recvReply request => exact channel.recvReply_proceeds host request

/-- A channel that refuses a configuration is dropped, and closed by that. -/
theorem withConfig_proceeds (config : FrameConfig) :
    channel.Proceeds host (((channel.withConfig config host).1.toOption).getD { channel with state := .closed })
      (channel.withConfig config host).2 := by
  unfold withConfig
  split
  · rename_i refused
    refine .stays ?_ (Host.keeps_of_controls rfl)
    obtain ⟨state, path, config, control⟩ := channel
    rcases state with c | ⟨l, _ | c⟩ | _
    all_goals first | rfl | cases refused
  · exact .stays rfl (Host.keeps_of_controls rfl)
  · rename_i c established
    have connected := connection?_of_established established
    have set := c.reconfigure_controls host config
    split
    · rename_i c' after done
      rw [done] at set
      exact .stays (setConnection_outline connected (c.reconfigure_socket done)) (Host.keeps_of_controls set)
    · rename_i error after done
      have opened : channel.state ≠ .closed := by
        intro closed
        rw [connection?, closed] at connected
        cases connected
      exact .ends rfl (close_inactive opened after)

end
end Channel
end CallWire
