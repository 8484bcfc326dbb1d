import CallWire.Channel.Room
import CallWire.Proofs.LateBytes

/-! Calls to write that wait for room. On a connection where nothing is amiss such a call does not fail: whoever made it
stands still until the other side has read enough, and goes on as if it had never waited. -/

namespace CallWire

theorem Link.resume_of_calm {l : Link} (calm : l.Calm) (room : Nat) :
    l.resume room = (if l.isHeld room then .waiting else .done (.ok ()), l) := by
  unfold resume
  split
  · split
    · rename_i error rest turns
      have interrupted : error.isInterruption = true := calm.near.writes (.fails error) (by simp [turns])
      rw [if_pos interrupted]
    · rw [calm.far.unended]
      rfl
  · rfl

theorem Channel.resume_of_calm {channel : Channel} {c : Connection} {host : Host}
    (connected : channel.connection? = some c) (calm : (host.link c.socket).Calm) (room : Nat) :
    channel.resume room host = (if channel.isHeld room host then .waiting else .done (.ok ()), channel, host) := by
  have held : channel.isHeld room host = (host.link c.socket).isHeld room := by
    rw [isHeld, connected]
    rfl
  rw [resume, connected, held]
  simp only [Link.resume_of_calm calm]
  cases (host.link c.socket).isHeld room
  all_goals rfl

/-- A call to send is held by what the other side has not read. -/
theorem Channel.Talks.isHeld_iff {channel : Channel} {s : SocketId} {sending receiving : Nat} {c : Connection}
    {host : Host} (talks : channel.Talks s.peer sending receiving c) {room : Nat} :
    channel.isHeld room host = true ↔ room < (host.endpoint s).inbox.length := by
  rw [isHeld, talks.connected, Option.any_some, talks.socket, Host.link_peer]
  exact decide_eq_true_iff

/-- An action that does nothing does nothing while bytes are late. -/
theorem Host.lagging_of_idle {α β : Type} {host : Host} {s : SocketId} (inRange : s.connection < host.links.length)
    (late : Nat) {act : Host → α × β × Host} {a : α} {b : β} (idle : ∀ before, act before = (a, b, before)) :
    host.lagging s late act = (a, b, host) := by
  obtain ⟨there, held, whole, -, lags⟩ := host.lagging_cases s late act
  rw [lags a b _ (idle _), Host.endpoint_setEndpoint inRange, Host.setEndpoint_setEndpoint inRange, whole]
  exact congrArg (fun host => (a, b, host)) (Host.setLink_link inRange)

namespace Session
variable {ρ : Type} {session : Session ρ} {host : Host} {s : SocketId} {receiving sending : Nat} {behind : Bytes}
  {queue : List Message}

theorem proceed_of_calm (calm : ∀ c, session.channel.connection? = some c → (host.link c.socket).Calm) (room : Nat)
    (handler : Handler ρ) : session.proceed room handler host =
      if session.channel.isHeld room host then (.waits, session, host) else session.step handler host := by
  unfold proceed Channel.isHeld
  cases connected : session.channel.connection? with
  | none => rfl
  | some c =>
    simp only [Link.resume_of_calm (calm c connected), Option.any_some]
    by_cases held : (host.link c.socket).isHeld room = true
    · simp only [if_pos held]
    · simp only [if_neg held]

/-- A session that awaits requests has no connection but to their sender. -/
theorem Awaits.socket (awaits : session.Awaits s receiving sending host behind queue) {c : Connection}
    (connected : session.channel.connection? = some c) : c.socket = s := by
  obtain ⟨buffer, stage, -⟩ := awaits.stage
  cases stage with
  | arriving _ vacant | attaching _ vacant =>
    rw [Channel.connection?, vacant.state] at connected
    cases connected
  | engaged _ connected' socket =>
    cases connected.symm.trans connected'
    exact socket

/-- A session that has passed its first steps has a connection. -/
theorem Awaits.connected (awaits : session.Awaits s receiving sending host behind queue)
    (near : 2 ≤ session.phase.nearness) : ∃ c, session.channel.connection? = some c := by
  obtain ⟨buffer, stage, -⟩ := awaits.stage
  cases stage with
  | arriving phase | attaching phase =>
    simp [phase, Phase.nearness] at near
  | engaged _ connected => exact ⟨_, connected⟩

theorem Awaits.isHeld_iff (awaits : session.Awaits s receiving sending host behind queue) {room : Nat} :
    session.channel.isHeld room host = true ↔
      (∃ c, session.channel.connection? = some c) ∧ room < (host.endpoint s.peer).inbox.length := by
  unfold Channel.isHeld
  cases connected : session.channel.connection? with
  | none => simp
  | some c =>
    rw [Option.any_some, awaits.socket connected, Host.endpoint_peer]
    simp [Link.isHeld]

theorem Awaits.proceed_late (awaits : session.Awaits s receiving sending host behind queue) (room late : Nat)
    (handler : Handler ρ) : host.lagging s late (session.proceed room handler) =
      if session.channel.isHeld room host then (.waits, session, host)
      else host.lagging s late (session.step handler) := by
  -- The bytes that are late go to the session's own end; whether it is held is told by the other.
  let e := host.endpoint s
  let there : Endpoint := { e with inbox := e.inbox.take (e.inbox.length - late) }
  let before := host.setEndpoint s there
  have link : before.link s = { host.link s with near := there } := Host.link_setEndpoint awaits.inRange there
  have calm c (connected : session.channel.connection? = some c) : (before.link c.socket).Calm := by
    rw [awaits.socket connected, link]
    exact awaits.calm.emptied awaits.calm.near.reads _
  have same : session.channel.isHeld room before = session.channel.isHeld room host := by
    unfold Channel.isHeld
    cases connected : session.channel.connection? with
    | none => rfl
    | some c =>
      rw [Option.any_some, Option.any_some, awaits.socket connected, link]
      rfl
  have proceeds := proceed_of_calm calm room handler
  rw [same] at proceeds
  have congr {act act' : Host → Pace × Session ρ × Host} (agree : act before = act' before) :
      host.lagging s late act = host.lagging s late act' := by
    unfold Host.lagging
    simp only
    rw [show act (host.setEndpoint s _) = _ from agree]
  cases held : session.channel.isHeld room host with
  | true =>
    rw [held, if_pos rfl] at proceeds
    have waits : host.lagging s late (session.proceed room handler) =
        host.lagging s late (fun before => (.waits, session, before)) := congr proceeds
    rw [if_pos rfl, waits]
    exact Host.lagging_of_idle awaits.inRange late fun _ => rfl
  | false =>
    rw [held, if_neg Bool.false_ne_true] at proceeds
    rw [if_neg Bool.false_ne_true, congr proceeds]

end Session
end CallWire
