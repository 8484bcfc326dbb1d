import CallWire.Proofs.ChannelFailure

/-! A host remembers every request to shut a channel down: nothing that a program does takes one back, and a channel
keeps the control by which it finds the request. -/

namespace CallWire

namespace Host

/-- No control is gone, and none has forgotten a request. -/
structure Remembers (before after : Host) : Prop where
  grows : before.controls.length ≤ after.controls.length
  requested : ∀ c, (before.control c).isRequested = true → (after.control c).isRequested = true

section
variable {first second third host after : Host}

theorem Remembers.trans (left : first.Remembers second) (right : second.Remembers third) : first.Remembers third :=
  ⟨Nat.le_trans left.grows right.grows, fun c requested => right.requested c (left.requested c requested)⟩

theorem remembers_of_controls (same : after.controls = host.controls) : host.Remembers after := by
  refine ⟨Nat.le_of_eq (congrArg List.length same.symm), fun c requested => ?_⟩
  rwa [control, same]

theorem remembers_refl (host : Host) : host.Remembers host := remembers_of_controls rfl

theorem control_setControl_of_ne {c other : ControlId} (apart : c ≠ other) (control : Control) :
    (host.setControl c control).control other = host.control other := by
  unfold setControl Host.control
  rw [List.getD_eq_getElem?_getD, List.getElem?_set_ne apart, List.getD_eq_getElem?_getD]

theorem setControl_remembers (c : ControlId) {control : Control}
    (kept : (host.control c).isRequested = true → control.isRequested = true) : host.Remembers (host.setControl c control) := by
  refine ⟨Nat.le_of_eq (List.length_set ..).symm, fun c' requested => ?_⟩
  by_cases own : c = c'
  · subst own
    rw [control_setControl]
    split
    · exact kept requested
    · exact requested
  · rwa [control_setControl_of_ne own]

end

section
variable (host : Host)

theorem newControl_inRange (control : Control) :
    (host.newControl control).1 < (host.newControl control).2.controls.length := by
  show host.controls.length < (host.controls ++ [control]).length
  rw [List.length_append]
  exact Nat.lt_succ_self _

theorem setTimeouts_controls (s : SocketId) (reading writing : Option Nat) :
    (host.setTimeouts s reading writing).2.controls = host.controls := by
  unfold setTimeouts
  split
  · rfl
  · split
    · rfl
    · rfl

theorem accept_controls (l : ListenerId) : (host.accept l).2.controls = host.controls := by
  unfold accept
  dsimp only
  split
  · rfl
  · rfl

theorem connect_controls (path : String) : (host.connect path).2.controls = host.controls := by
  have reached : (host.connectTo path).2.controls = host.controls := by
    rcases host.connectTo_cases path with ⟨error, refused⟩ | ⟨l, joined⟩
    · rw [refused]
    · rw [joined]
      rfl
  exact reached

theorem closeListener_controls (l : ListenerId) : (host.closeListener l).controls = host.controls := by
  have reset (waiting : List SocketId) (host : Host) :
      (waiting.foldl (fun host s => host.onLink s (Link.close true)) host).controls = host.controls := by
    induction waiting generalizing host with
    | nil => rfl
    | cons s rest ih => exact ih _
  exact reset _ host

theorem dropListener_controls (l : ListenerId) : (host.dropListener l).controls = host.controls := by
  unfold dropListener
  dsimp only
  rw [closeListener_controls]
  split
  · split
    · rfl
    · rfl
  · rfl

theorem unregister_remembers (c : ControlId) : host.Remembers (host.unregister c) := by
  unfold unregister
  split
  · exact host.remembers_refl
  · have noted : host.Remembers (host.setControl c { host.control c with active := none }) := setControl_remembers c id
    exact noted.trans (remembers_of_controls rfl)

theorem register_remembers (c : ControlId) (s : SocketId) : host.Remembers (host.register c s) := by
  have alone : (host.unregister c).Remembers ((host.unregister c).duplicate s) := remembers_of_controls rfl
  exact ((host.unregister_remembers c).trans alone).trans (setControl_remembers c id)

end
end Host

namespace ShutdownHandle
variable (handle : ShutdownHandle) (host : Host)

theorem interrupt_controls : (handle.interrupt host).2.controls = host.controls := by
  unfold interrupt
  split
  · rfl
  · rfl

theorem knock_controls : (handle.knock host).controls = host.controls := by
  unfold knock
  split
  · rfl
  · rename_i path _
    have reached := host.connect_controls path
    split
    · rename_i connected
      rw [connected] at reached
      exact reached
    · rename_i refused
      rwa [refused] at reached

/-- Besides the note nothing changes about the controls. -/
theorem shutdown_controls : (handle.shutdown host).controls = (handle.request host).controls := by
  have interrupted := handle.interrupt_controls (handle.request host)
  unfold shutdown
  split
  · rename_i found
    rwa [found] at interrupted
  · rename_i found
    rw [found] at interrupted
    exact (handle.knock_controls _).trans interrupted

theorem shutdown_remembers : host.Remembers (handle.shutdown host) := by
  have noted : host.Remembers (handle.request host) := Host.setControl_remembers handle.control fun _ => rfl
  exact noted.trans (Host.remembers_of_controls (handle.shutdown_controls host))

variable {host} in
/-- The request is noted. -/
theorem isRequested_shutdown (inRange : handle.control < host.controls.length) :
    handle.isRequested (handle.shutdown host) = true := by
  rw [isRequested, Host.control, handle.shutdown_controls host]
  show ((handle.request host).control handle.control).isRequested = true
  rw [request, Host.control_setControl, if_pos inRange]

end ShutdownHandle

namespace Session
variable {handle : ShutdownHandle} {host : Host}

theorem perform_remembers (handle : ShutdownHandle) (actions : List HandlerAction) (slot : ReplySlot) (host : Host) :
    host.Remembers (perform handle actions slot host).2 := by
  induction actions generalizing slot host with
  | nil => exact host.remembers_refl
  | cons action rest ih =>
    cases action with
    | place reply => exact ih _ host
    | withdraw => exact ih _ host
    | shutdown => exact (handle.shutdown_remembers host).trans (ih slot _)

theorem isRequested_perform {actions : List HandlerAction} (calls : .shutdown ∈ actions)
    (inRange : handle.control < host.controls.length) (slot : ReplySlot) :
    handle.isRequested (perform handle actions slot host).2 = true := by
  induction actions generalizing slot with
  | nil => cases calls
  | cons action rest ih =>
    cases action with
    | place reply => exact ih (by simpa using calls) (slot.set reply)
    | withdraw => exact ih (by simpa using calls) slot.take.2
    | shutdown =>
      exact (perform_remembers handle rest slot _).requested _ (handle.isRequested_shutdown inRange)

end Session

namespace Connection
variable (host : Host)

theorem attach_remembers (s : SocketId) (config : FrameConfig) (control : ControlId) :
    host.Remembers (attach host s config control).2 := by
  have doubled : host.Remembers (host.duplicate s) := Host.remembers_of_controls rfl
  have used := doubled.trans ((host.duplicate s).register_remembers control s)
  have timed := Host.setTimeouts_controls ((host.duplicate s).register control s) s config.readTimeout config.writeTimeout
  unfold attach
  dsimp only
  split
  · rename_i set
    rw [set] at timed
    exact used.trans (Host.remembers_of_controls timed)
  · rename_i set
    rw [set] at timed
    exact used.trans (Host.remembers_of_controls timed)

theorem reconfigure_controls (c : Connection) (config : FrameConfig) : (c.reconfigure config host).2.controls = host.controls := by
  have timed := host.setTimeouts_controls c.socket config.readTimeout config.writeTimeout
  unfold reconfigure
  split
  · rename_i set
    rwa [set] at timed
  · rename_i set
    rwa [set] at timed

theorem hangUp_remembers (c : Connection) : host.Remembers (c.hangUp host) := Host.remembers_of_controls rfl

theorem send_controls (c : Connection) (content : Bytes) : (c.send content host).2.controls = host.controls := rfl

theorem readMessage_controls (c : Connection) : (c.readMessage host).2.2.controls = host.controls := by
  unfold readMessage
  rfl

end Connection

namespace Channel

/-- The channel goes by the same control, and the host remembers what it did. -/
structure Stands (channel : Channel) (host : Host) (next : Channel) (after : Host) : Prop where
  control : next.control = channel.control
  remembers : host.Remembers after

section
variable {channel next last : Channel} {host after final : Host}

theorem stands_refl (channel : Channel) (host : Host) : channel.Stands host channel host := ⟨rfl, host.remembers_refl⟩

theorem Stands.trans (left : channel.Stands host next after) (right : next.Stands after last final) :
    channel.Stands host last final :=
  ⟨right.control.trans left.control, left.remembers.trans right.remembers⟩

theorem setConnection_control (channel : Channel) (c : Connection) : (channel.setConnection c).control = channel.control := by
  unfold setConnection
  split
  · rfl
  · rfl
  · rfl

end

section
variable (channel : Channel) (host : Host)

theorem close_stands : channel.Stands host (channel.close host).1 (channel.close host).2 := by
  refine ⟨by rw [close_state], ?_⟩
  have parted := host.unregister_remembers channel.control
  have silent l : host.Remembers ((host.unregister channel.control).dropListener l) :=
    parted.trans (Host.remembers_of_controls (Host.dropListener_controls _ l))
  unfold close
  split
  · exact host.remembers_refl
  · exact parted.trans (Connection.hangUp_remembers _ _)
  · exact silent _
  · exact (silent _).trans (Connection.hangUp_remembers _ _)

theorem detachPeer_stands : channel.Stands host (channel.detachPeer host).1 (channel.detachPeer host).2 := by
  have parted := host.unregister_remembers channel.control
  unfold detachPeer
  split
  · rename_i l peer _
    cases peer with
    | none => exact ⟨rfl, parted⟩
    | some c => exact ⟨rfl, parted.trans (c.hangUp_remembers _)⟩
  · exact channel.close_stands host

theorem fail_stands (error : ChannelError) : channel.Stands host (channel.fail error host).1 (channel.fail error host).2 := by
  unfold fail
  split
  · exact channel.stands_refl host
  · exact channel.close_stands host

theorem sendRaw_stands (content : Bytes) :
    channel.Stands host (channel.sendRaw content host).2.1 (channel.sendRaw content host).2.2 := by
  unfold sendRaw
  split
  · exact channel.fail_stands host _
  · rename_i c _
    have quiet : channel.Stands host channel (c.send content host).2 :=
      ⟨rfl, Host.remembers_of_controls (c.send_controls host content)⟩
    split
    · rename_i done
      rwa [done] at quiet
    · rename_i done
      rwa [done] at quiet
    · rename_i done
      rw [done] at quiet
      exact quiet.trans (channel.fail_stands _ _)

theorem recv_stands : channel.Stands host (channel.recv host).2.1 (channel.recv host).2.2 := by
  unfold recv
  split
  · exact channel.fail_stands host _
  · rename_i c _
    have quiet : channel.Stands host (channel.setConnection (c.readMessage host).2.1) (c.readMessage host).2.2 :=
      ⟨channel.setConnection_control _, Host.remembers_of_controls (c.readMessage_controls host)⟩
    dsimp only
    split
    · exact quiet.trans (fail_stands _ _ _)
    · exact quiet

theorem recvReply_stands (request : Message) :
    channel.Stands host (channel.recvReply request host).2.1 (channel.recvReply request host).2.2 := by
  have same : (channel.recvReply request host).2 = (channel.recv host).2 :=
    (Prod.mk.inj (ChannelOperation.forget_recvReply request channel host)).2
  rw [same]
  exact channel.recv_stands host

theorem call_stands (request : Message) :
    channel.Stands host (channel.call request host).2.1 (channel.call request host).2.2 := by
  have sent : channel.Stands host (channel.send request host).2.1 (channel.send request host).2.2 :=
    channel.sendRaw_stands host request.bytes
  unfold call
  split
  · rename_i done
    rw [done] at sent
    exact sent.trans (recvReply_stands _ _ request)
  · rename_i done
    rwa [done] at sent

theorem attempt_stands (op : ChannelOperation) :
    channel.Stands host (op.attempt channel host).2.1 (op.attempt channel host).2.2 := by
  cases op with
  | send m => exact channel.sendRaw_stands host m.bytes
  | sendRaw content => exact channel.sendRaw_stands host content
  | recv => exact channel.recv_stands host
  | call request => exact channel.call_stands host request
  | recvReply request => exact channel.recvReply_stands host request

theorem withConfig_remembers (config : FrameConfig) :
    host.Remembers (channel.withConfig config host).2 ∧
      ∀ next, (channel.withConfig config host).1 = .ok next → next.control = channel.control := by
  unfold withConfig
  split
  · refine ⟨host.remembers_refl, ?_⟩
    intro next made
    cases made
  · refine ⟨host.remembers_refl, ?_⟩
    intro next made
    cases made
    rfl
  · rename_i c _
    have set := c.reconfigure_controls host config
    split
    · rename_i done
      rw [done] at set
      refine ⟨Host.remembers_of_controls set, ?_⟩
      intro next made
      cases made
      exact channel.setConnection_control _
    · rename_i done
      rw [done] at set
      refine ⟨(Host.remembers_of_controls set).trans (channel.close_stands _).remembers, ?_⟩
      intro next made
      cases made

end
end Channel
end CallWire
