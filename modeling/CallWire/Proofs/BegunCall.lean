import CallWire.Proofs.EchoedArguments
import CallWire.Proofs.ExchangeProgress
import CallWire.Proofs.ServerTurnover

/-! How a call begins. Where somebody listens it gets a connection of its own, and what the channels of others share with
their handles stays; then its request is on its way. -/

namespace CallWire

namespace Connection
variable {host : Host} {s : SocketId} {config : FrameConfig} {control other : ControlId}

theorem attach_control_of_ne (inactive : (host.control control).active = none) (apart : control ≠ other) :
    (attach host s config control).2.control other = host.control other := by
  let ready := (host.duplicate s).register control s
  have alone : (host.duplicate s).unregister control = host.duplicate s := by
    unfold Host.unregister
    rw [show (host.duplicate s).control control = host.control control from rfl, inactive]
  have registered : ready.control other = host.control other := by
    simp only [ready, Host.register, alone]
    exact Host.control_setControl_of_ne apart _
  have timed := ready.setTimeouts_controls s config.readTimeout config.writeTimeout
  rw [← registered]
  unfold attach
  dsimp only
  generalize ready.setTimeouts s config.readTimeout config.writeTimeout = result at timed ⊢
  obtain ⟨_ | _, after⟩ := result
  · show (Connection.drop _ after).control other = _
    rw [Host.control, show (Connection.drop _ after).controls = after.controls from rfl, timed]
    rfl
  · rw [Host.control, timed]
    rfl

end Connection

/-- Nothing was sent yet, and calls go without disturbance. -/
structure Link.IsFresh (l : Link) : Prop where
  calm : l.Calm
  near : l.near.inbox = []
  far : l.far.inbox = []

namespace Channel
variable {channel : Channel} {path : String} {l : ListenerId} {waiting : List SocketId} {before host : Host}

/-- A client has connected to a listener and sent nothing yet. -/
structure HasJoined (channel : Channel) (path : String) (l : ListenerId) (waiting : List SocketId) (before host : Host) :
    Prop where
  listens : host.Listens path l (waiting ++ [⟨before.links.length, true⟩])
  length : host.links.length = before.links.length + 1
  fresh : (host.link ⟨before.links.length, false⟩).IsFresh
  client : ∃ c, channel.Talks ⟨before.links.length, false⟩ defaultMaxFrameSize defaultMaxFrameSize c ∧ c.reader.buffer = []
  others : ∀ control < before.controls.length, host.control control = before.control control

theorem connect_joins (listens : before.Listens path l waiting) :
    ∃ channel host, connect path before = (.ok channel, host) ∧ channel.HasJoined path l waiting before host := by
  let s : SocketId := ⟨before.links.length, false⟩
  let control := before.controls.length
  let ready : Host := ((before.enqueue l).2.newControl {}).2
  have length : ready.links.length = before.links.length + 1 := List.length_append
  have inRange : s.connection < ready.links.length := length ▸ Nat.lt_succ_self _
  have own : ready.control control = {} := before.control_newControl {}
  have inactive : (ready.control control).active = none := by rw [own]
  have link : ready.link s = {} := by
    show (before.links ++ [({} : Link)]).getD before.links.length {} = {}
    simp
  obtain ⟨after, descriptors, attached, same, fresh, -⟩ := @Connection.attach_ok ready s {} control inRange inactive rfl rfl
  have paths := Connection.attach_samePaths ready s {} control
  have others {other : ControlId} (apart : control ≠ other) := @Connection.attach_control_of_ne ready s {} control other inactive apart
  rw [attached] at paths others
  have joined : ready.Listens path l (waiting ++ [s.peer]) := listens.enqueue.of_same ⟨rfl, rfl, rfl⟩
  refine ⟨⟨.connected ⟨s, { config := {} }, { config := {} }⟩, path, {}, control⟩, after, ?_, joined.of_same paths, same.trans length,
    ?_, ⟨_, ⟨rfl, rfl, rfl, rfl⟩, rfl⟩, fun other known => ?_⟩
  · unfold connect
    rw [listens.connect]
    dsimp only
    rw [show Connection.attach ((before.enqueue l).2.newControl {}).2 s {} ((before.enqueue l).2.newControl {}).1 = _ from attached]
    rfl
  · rw [fresh, link]
    exact ⟨⟨⟨rfl, rfl, nofun, nofun⟩, ⟨rfl, rfl, nofun, nofun⟩⟩, rfl, rfl⟩
  · rw [others (Nat.ne_of_gt known)]
    exact List.getD_append before.controls [{}] {} other known

theorem HasJoined.withTimeout (joined : channel.HasJoined path l waiting before host) {t : Nat} (positive : 0 < t) :
    ∃ timed after, channel.withConfig { readTimeout := some t, writeTimeout := some t } host = (.ok timed, after) ∧
      timed.HasJoined path l waiting before after := by
  obtain ⟨listens, length, fresh, ⟨c, talks, buffer⟩, others⟩ := joined
  obtain ⟨connected, socket, -, -⟩ := talks
  have checked : Endpoint.checkTimeout (some t) = .ok () := by
    obtain ⟨more, rfl⟩ := Nat.exists_eq_succ_of_ne_zero (Nat.ne_of_gt positive)
    rfl
  let c' : Connection := ⟨c.socket, { c.reader with config := { readTimeout := some t, writeTimeout := some t } },
    { config := { readTimeout := some t, writeTimeout := some t } }⟩
  let after := host.setEndpoint c.socket { host.endpoint c.socket with readTimeout := some t, writeTimeout := some t }
  have timed : channel.withConfig { readTimeout := some t, writeTimeout := some t } host =
      (.ok { channel.setConnection c' with config := { readTimeout := some t, writeTimeout := some t } }, after) := by
    simp only [withConfig, established_of_connection connected, Connection.reconfigure, Host.setTimeouts_ok checked checked]
    rfl
  refine ⟨_, after, timed, listens.of_same ⟨rfl, rfl, rfl⟩, (Host.setLink_length ..).trans length, ?_,
    ⟨c', ⟨?_, socket, rfl, rfl⟩, buffer⟩, others⟩
  · rw [← socket] at fresh ⊢
    have inRange : c.socket.connection < host.links.length := by
      rw [socket, length]
      exact Nat.lt_succ_self _
    rw [show after.link c.socket = _ from Host.link_setEndpoint inRange _]
    obtain ⟨⟨near, far⟩, nothing, none⟩ := fresh
    exact ⟨⟨⟨near.unreset, near.unended, near.reads, near.writes⟩, far⟩, nothing, none⟩
  · obtain ⟨_, -, -, connected'⟩ := setConnection_of_connection connected c'
    exact connected'

end Channel

/-- A duration is not zero. -/
theorem readDuration_pos {text : String} {t : Nat} (read : readDuration text = .ok t) : 0 < t := by
  unfold readDuration at read
  dsimp only at read
  split at read
  · cases read
  · have unit : 0 < (splitUnit (trimBlanks text.toList)).2 := by
      unfold splitUnit
      split
      all_goals exact Nat.zero_lt_succ _
    split at read
    · cases read
    · cases read
    · rename_i n some _
      cases read
      exact Nat.mul_pos (Nat.pos_of_ne_zero some) unit

namespace CallOptions
variable {o : CallOptions} {l : ListenerId} {waiting : List SocketId} {before : Host}

theorem asked_passes {limit : Nat} (small : o.asked.length ≤ limit) (announced : limit ≤ maxFrameLength) :
    o.asked.isRequest ∧ o.asked.Passes limit limit :=
  ⟨rfl, rfl, small, small, Nat.le_trans small announced⟩

/-- A call to a path where somebody listens sends its request at once. -/
theorem begin_sends (listens : before.Listens o.path l waiting) {t : Nat} (timed : readDuration o.timeout = .ok t)
    (short : ∀ a ∈ o.args, a.IsShort) (small : o.asked.length ≤ defaultMaxFrameSize) :
    ∃ channel host after, o.begin before = (.ok ⟨channel, o.asked⟩, after) ∧
      channel.send o.asked host = (.ok (), channel, after) ∧ channel.HasJoined o.path l waiting before host := by
  obtain ⟨first, between, connected, joined⟩ := Channel.connect_joins listens
  obtain ⟨channel, host, configured, joined⟩ := joined.withTimeout (readDuration_pos timed)
  obtain ⟨c, talks, -⟩ := joined.client
  obtain ⟨turns, -, sent⟩ := talks.send joined.fresh.calm (asked_passes small (by decide)).2
  refine ⟨channel, host, _, ?_, sent, joined⟩
  unfold CallOptions.begin
  simp only [timed, request_eq short, connected, configured, sent]

end CallOptions
end CallWire
