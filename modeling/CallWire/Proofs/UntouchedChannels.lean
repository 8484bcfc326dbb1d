import CallWire.Proofs.AlikeHosts
import CallWire.Proofs.BetweenOperations

/-! Channels that keep to some ground. On hosts that are alike there a channel does the same with the same answers, whatever
else is different about the hosts, and whatever the peers of its connections do meanwhile. -/

namespace CallWire

namespace Channel
variable {ground : Ground} {channel next : Channel} {host other after : Host}

/-- All that the channel uses is on the ground. -/
structure KeepsTo (channel : Channel) (ground : Ground) : Prop where
  control : ground.control channel.control
  connection : ∀ c, channel.connection? = some c → ground.connection c.socket.connection
  listener : ∀ l peer, channel.state = .listening l peer → ground.listener l

theorem KeepsTo.of_outline (keeps : channel.KeepsTo ground) (outline : next.state.outline = channel.state.outline)
    (own : next.control = channel.control) : next.KeepsTo ground := by
  refine ⟨own ▸ keeps.control, fun c connected => ?_, fun l peer listening => ?_⟩
  · have same := socket?_of_outline outline
    rw [socket?, socket?, connected, Option.map_some] at same
    obtain ⟨c', connected', socket⟩ := Option.map_eq_some_iff.mp same.symm
    exact socket ▸ keeps.connection c' connected'
  · rw [listening, ChannelState.outline] at outline
    cases state : channel.state with
    | listening l' peer' =>
      rw [state] at outline
      obtain ⟨rfl, -⟩ := ChannelState.listening.inj outline
      exact keeps.listener l peer' state
    | connected | closed =>
      rw [state] at outline
      cases outline

theorem KeepsTo.of_closed (known : ground.control next.control) (closed : next.state = .closed) : next.KeepsTo ground := by
  refine ⟨known, fun c connected => ?_, fun l peer listening => ?_⟩
  · rw [connection?, closed] at connected
    cases connected
  · cases closed.symm.trans listening

theorem KeepsTo.vacated (keeps : channel.KeepsTo ground) :
    ({ channel with state := channel.state.vacated } : Channel).KeepsTo ground := by
  cases state : channel.state with
  | connected | closed => exact .of_closed keeps.control rfl
  | listening l peer =>
    refine ⟨keeps.control, nofun, fun l' peer' listening => ?_⟩
    cases listening
    exact keeps.listener l peer state

theorem KeepsTo.proceeds (keeps : channel.KeepsTo ground) (proceeds : channel.Proceeds host next after)
    (own : next.control = channel.control) : next.KeepsTo ground := by
  cases proceeds with
  | stays outline => exact keeps.of_outline outline own
  | ends closed => exact .of_closed (own ▸ keeps.control) closed

theorem KeepsTo.setConnection {c : Connection} (keeps : channel.KeepsTo ground) (inside : ground.connection c.socket.connection) :
    (channel.setConnection c).KeepsTo ground := by
  refine ⟨channel.setConnection_control c ▸ keeps.control, fun c' connected => ?_, fun l peer listening => ?_⟩
  · unfold Channel.setConnection connection? at connected
    cases state : channel.state with
    | connected | listening =>
      simp only [state, Option.some.injEq] at connected
      exact connected ▸ inside
    | closed => simp [state] at connected
  · unfold Channel.setConnection at listening
    cases state : channel.state with
    | connected => simp [state] at listening
    | closed => simp [state] at listening
    | listening l' peer' =>
      simp only [state, ChannelState.listening.injEq] at listening
      exact listening.1 ▸ keeps.listener l' peer' state

section
variable (alike : host.Alike ground other) (keeps : channel.KeepsTo ground)
include alike keeps

theorem close_alike : ground.Same (channel.close host) (channel.close other) := by
  have silent := alike.unregister keeps.control
  unfold close
  cases state : channel.state with
  | closed => exact .intro alike
  | connected c =>
    have inside := keeps.connection c (by rw [connection?, state])
    exact .intro (Connection.hangUp_alike silent inside)
  | listening l peer =>
    have dropped := silent.dropListener (keeps.listener l peer state)
    cases peer with
    | none => exact .intro dropped
    | some c =>
      have inside := keeps.connection c (by rw [connection?, state])
      exact .intro (Connection.hangUp_alike dropped inside)

theorem detachPeer_alike : ground.Same (channel.detachPeer host) (channel.detachPeer other) := by
  have silent := alike.unregister keeps.control
  have closing := close_alike alike keeps
  unfold detachPeer
  cases state : channel.state with
  | closed | connected => exact closing
  | listening l peer =>
    cases peer with
    | none => exact .intro silent
    | some c =>
      have inside := keeps.connection c (by rw [connection?, state])
      exact .intro (Connection.hangUp_alike silent inside)

theorem fail_alike (error : ChannelError) : ground.Same (channel.fail error host) (channel.fail error other) := by
  unfold fail
  split
  · exact .intro alike
  · exact close_alike alike keeps

/-- A result of the channel, and what failing makes of it. -/
theorem fail_agrees {α : Type} (a : α) (error : ChannelError) :
    ground.Agrees (a, channel.fail error host) (a, channel.fail error other) := by
  have failing := fail_alike alike keeps error
  generalize channel.fail error host = result at failing ⊢
  generalize channel.fail error other = result' at failing ⊢
  cases failing with
  | intro alike => exact .intro alike

theorem sendRaw_alike (content : Bytes) : ground.Agrees (channel.sendRaw content host) (channel.sendRaw content other) := by
  unfold sendRaw
  split
  · exact fail_agrees alike keeps _ _
  · rename_i c established
    have sent := c.send_alike alike (keeps.connection c (connection?_of_established established)) content
    generalize c.send content host = result at sent ⊢
    generalize c.send content other = result' at sent ⊢
    cases sent with
    | @intro result after after' alike =>
      cases result with
      | ok => exact .intro alike
      | error error =>
        cases error with
        | frameTooLarge => exact .intro alike
        | _ => exact fail_agrees alike keeps _ _

theorem recv_alike : ground.Agrees (channel.recv host) (channel.recv other) := by
  unfold recv
  split
  · exact fail_agrees alike keeps _ _
  · rename_i c established
    have inside := keeps.connection c (connection?_of_established established)
    have read := c.readMessage_alike alike inside
    have socket : (c.readMessage host).2.1.socket = c.socket := rfl
    generalize c.readMessage host = result at read socket ⊢
    generalize c.readMessage other = result' at read ⊢
    cases read with
    | @intro outcome c' _ _ alike =>
      have keeps : (channel.setConnection c').KeepsTo ground := keeps.setConnection (by rw [show c'.socket = _ from socket]; exact inside)
      dsimp only
      split
      · exact fail_agrees alike keeps _ _
      · exact .intro alike

theorem recvReply_alike (request : Message) :
    ground.Agrees (channel.recvReply request host) (channel.recvReply request other) := by
  have received := recv_alike alike keeps
  unfold recvReply
  generalize channel.recv host = result at received ⊢
  generalize channel.recv other = result' at received ⊢
  cases received with
  | @intro outcome next after after' alike =>
    cases outcome with
    | waiting => exact .intro alike
    | done result =>
      cases result with
      | error error => exact .intro alike
      | ok reply => exact .intro alike

theorem call_alike (request : Message) : ground.Agrees (channel.call request host) (channel.call request other) := by
  have sent := sendRaw_alike alike keeps request.bytes
  have proceeds := channel.sendRaw_proceeds host request.bytes
  have stands := channel.sendRaw_stands host request.bytes
  unfold call send
  generalize channel.sendRaw request.bytes host = result at sent proceeds stands ⊢
  generalize channel.sendRaw request.bytes other = result' at sent ⊢
  cases sent with
  | @intro result next after after' alike =>
    cases result with
    | error error => exact .intro alike
    | ok => exact recvReply_alike alike (keeps.proceeds proceeds stands.control) request

theorem withConfig_alike (config : FrameConfig) :
    ground.Same (channel.withConfig config host) (channel.withConfig config other) := by
  unfold withConfig
  split
  · exact .intro alike
  · exact .intro alike
  · rename_i c established
    have set := c.reconfigure_alike alike (keeps.connection c (connection?_of_established established)) config
    generalize c.reconfigure config host = result at set ⊢
    generalize c.reconfigure config other = result' at set ⊢
    cases set with
    | @intro result after after' alike =>
      cases result with
      | ok => exact .intro alike
      | error error =>
        have closing := close_alike alike keeps
        dsimp only
        generalize channel.close after = result at closing ⊢
        generalize channel.close after' = result' at closing ⊢
        cases closing with
        | intro alike => exact .intro alike

theorem attempt_alike (op : ChannelOperation) : ground.Agrees (op.attempt channel host) (op.attempt channel other) := by
  cases op with
  | send m => exact (sendRaw_alike alike keeps m.bytes).map _
  | sendRaw content => exact (sendRaw_alike alike keeps content).map _
  | recv => exact (recv_alike alike keeps).map _
  | call request => exact (call_alike alike keeps request).map _
  | recvReply request => exact (recvReply_alike alike keeps request).map _

end
end Channel
end CallWire
