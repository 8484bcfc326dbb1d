import CallWire.Proofs.ChannelOutput
import CallWire.Proofs.ServedQueue

/-! Bytes that are late. While an operation goes on, the last bytes on their way to its socket may not have arrived; they
are there afterwards. What is received or served is a message at the front of the queue, and all of it has come. -/

namespace CallWire

/-- What is done while the last bytes on their way to a socket are late. -/
def Host.lagging {α β : Type} (host : Host) (s : SocketId) (late : Nat) (act : Host → α × β × Host) : α × β × Host :=
  let e := host.endpoint s
  let there := e.inbox.take (e.inbox.length - late)
  let (a, b, after) := act (host.setEndpoint s { e with inbox := there })
  let e' := after.endpoint s
  (a, b, after.setEndpoint s { e' with inbox := e'.inbox ++ e.inbox.drop there.length })

/-- The bytes that are late are the last, and if none are, none are missing. -/
theorem Host.lagging_cases {α β : Type} (host : Host) (s : SocketId) (late : Nat) (act : Host → α × β × Host) :
    ∃ there held, there ++ held = (host.endpoint s).inbox ∧ (late = 0 → held = []) ∧
      ∀ a b after, act (host.setEndpoint s { host.endpoint s with inbox := there }) = (a, b, after) →
        host.lagging s late act =
          (a, b, after.setEndpoint s { after.endpoint s with inbox := (after.endpoint s).inbox ++ held }) := by
  let inbox := (host.endpoint s).inbox
  let there := inbox.take (inbox.length - late)
  refine ⟨there, inbox.drop there.length, List.prefix_iff_eq_append.mp (List.take_prefix ..), ?_, ?_⟩
  · intro none
    have all : there = inbox := List.take_of_length_le (Nat.le_of_eq (by rw [none, Nat.sub_zero]))
    rw [all, List.drop_length]
  · intro a b after acted
    unfold lagging
    simp only
    rw [show act (host.setEndpoint s { host.endpoint s with inbox := there }) = (a, b, after) from acted]

namespace Channel

/-- The channel is connected at a socket, with these limits. -/
structure Talks (channel : Channel) (s : SocketId) (sending receiving : Nat) (c : Connection) : Prop where
  connected : channel.connection? = some c
  socket : c.socket = s
  sends : c.writer.config.maxSize = sending
  receives : c.reader.config.maxSize = receiving

/-- What a call to receive returns, by the queue before it and after it. -/
inductive Receives (late : Nat) : List Message → Outcome Message → List Message → Prop
  | waits {queue} (all : late = 0 → queue = []) : Receives late queue .waiting queue
  | message {m rest} : Receives late (m :: rest) (.done (.ok m)) rest

section
variable {channel : Channel} {s : SocketId} {sending receiving : Nat} {c : Connection} {host : Host}

theorem Talks.send {m : Message} {other : Nat} (talks : channel.Talks s sending receiving c) (calm : (host.link s).Calm)
    (passes : m.Passes sending other) :
    ∃ turns, (∀ turn ∈ turns, WriteTurn.IsBenign turn) ∧
      channel.send m host = (.ok (), channel, host.setLink s ((host.link s).written turns (frameOf m.bytes))) := by
  obtain ⟨connected, rfl, rfl, rfl⟩ := talks
  obtain ⟨turns, benign, sent⟩ := c.send_passes calm passes
  exact ⟨turns, benign, sendRaw_of_clean (established_of_connection connected) sent trivial⟩

theorem Talks.recv {other : Nat} {queue : List Message} {behind : Bytes} (talks : channel.Talks s sending receiving c)
    (calm : (host.link s).Calm) (passes : ∀ m ∈ queue, m.Passes other receiving)
    (split : c.reader.buffer ++ (host.endpoint s).inbox ++ behind = streamOf queue) :
    ∃ outcome next content turns, channel.recv host =
        (FrameReader.required outcome, channel.setConnection next,
          host.setEndpoint s { host.endpoint s with inbox := content, readTurns := turns }) ∧
      (∀ turn ∈ turns, ReadTurn.IsBenign turn) ∧
      (channel.setConnection next).Talks s sending receiving next ∧
      content.length ≤ (host.endpoint s).inbox.length ∧
      Connection.Reads behind queue (next.reader.buffer ++ content) outcome := by
  obtain ⟨connected, rfl, rfl, rfl⟩ := talks
  obtain ⟨outcome, reader, content, turns, read, benign, config, shrinks, reads⟩ :=
    c.readMessage_queued calm passes split
  obtain ⟨_, _, _, present⟩ := setConnection_of_connection connected { c with reader }
  refine ⟨outcome, { c with reader }, content, turns, ?_, benign, ⟨present, rfl, rfl, by rw [config]⟩, shrinks, reads⟩
  unfold Channel.recv
  simp only [established_of_connection connected, read]
  cases reads with
  | waits => rfl
  | message => rfl

theorem Talks.recv_late {other : Nat} {queue : List Message} (talks : channel.Talks s sending receiving c)
    (inRange : s.connection < host.links.length) (calm : (host.link s).Calm)
    (passes : ∀ m ∈ queue, m.Passes other receiving)
    (split : c.reader.buffer ++ (host.endpoint s).inbox = streamOf queue) (late : Nat) :
    ∃ outcome next content turns rest, host.lagging s late channel.recv =
        (outcome, channel.setConnection next,
          host.setEndpoint s { host.endpoint s with inbox := content, readTurns := turns }) ∧
      (∀ turn ∈ turns, ReadTurn.IsBenign turn) ∧
      (channel.setConnection next).Talks s sending receiving next ∧
      content.length ≤ (host.endpoint s).inbox.length ∧
      next.reader.buffer ++ content = streamOf rest ∧ Receives late queue outcome rest := by
  obtain ⟨there, held, whole, onTime, lags⟩ := host.lagging_cases s late channel.recv
  let before := host.setEndpoint s { host.endpoint s with inbox := there }
  have near : before.endpoint s = { host.endpoint s with inbox := there } := Host.endpoint_setEndpoint inRange _
  have calm' : (before.link s).Calm := by
    rw [show before.link s = _ from Host.link_setEndpoint inRange _]
    exact calm.emptied calm.near.reads there
  have split' : c.reader.buffer ++ (before.endpoint s).inbox ++ held = streamOf queue := by
    rw [near, List.append_assoc, whole]
    exact split
  obtain ⟨outcome, next, content, turns, received, benign, talks', shrinks, reads⟩ := talks.recv calm' passes split'
  rw [near, Host.setEndpoint_setEndpoint inRange] at received
  have fewer : (content ++ held).length ≤ (host.endpoint s).inbox.length := by
    rw [near] at shrinks
    rw [← whole, List.length_append, List.length_append]
    exact Nat.add_le_add_right shrinks _
  have lagged := lags _ _ _ received
  rw [Host.endpoint_setEndpoint inRange, Host.setEndpoint_setEndpoint inRange] at lagged
  -- The bytes held back join what was left, so the two together are again the messages to come.
  cases reads with
  | waits left all =>
    rw [List.append_assoc] at left
    exact ⟨_, next, content ++ held, turns, queue, lagged, benign, talks', fewer, left,
      .waits fun none => all (onTime none)⟩
  | @message m rest _ left =>
    rw [List.append_assoc] at left
    exact ⟨_, next, content ++ held, turns, rest, lagged, benign, talks', fewer, left, .message⟩

end
end Channel

namespace Session
variable {ρ : Type} {handler : Handler ρ} {session : Session (ρ × List Message)} {s : SocketId} {receiving sending : Nat}
  {host : Host} {queue : List Message}

theorem step_late {clientReads clientSends : Nat} (answers : handler.Answers sending clientReads)
    (awaits : session.Awaits s receiving sending host [] queue)
    (requests : ∀ m ∈ queue, m.isRequest ∧ m.Passes clientSends receiving) (late : Nat) :
    ∃ kind next after served, host.lagging s late (session.step handler.recording) = (kind, next, after) ∧
      session.Advances handler s receiving sending host (late = 0) [] queue next after served := by
  obtain ⟨there, held, whole, onTime, lags⟩ := host.lagging_cases s late (session.step handler.recording)
  let before := host.setEndpoint s { host.endpoint s with inbox := there }
  have awaits' : session.Awaits s receiving sending before held queue := by
    apply awaits.relink (awaits.calm.emptied awaits.calm.near.reads there)
    intro buffer all
    rw [List.append_nil, ← whole, ← List.append_assoc] at all
    exact all
  obtain ⟨served, ⟨rest, queue, next⟩, memory, length, unread, replied, nearer⟩ := step_advances answers awaits' requests
  let stepped := session.step handler.recording before
  refine ⟨_, _, _, served, lags stepped.1 stepped.2.1 stepped.2.2 rfl, ⟨rest, queue, ?_⟩, memory, ?_, ?_, ?_, ?_⟩
  · apply next.relink (next.calm.emptied next.calm.near.reads _)
    intro buffer all
    rw [List.append_nil, ← List.append_assoc]
    exact all
  · exact (Host.setLink_length ..).trans (length.trans (Host.setLink_length ..))
  · rw [Host.endpoint_setEndpoint awaits.inRange] at unread
    rw [Host.endpoint_setEndpoint next.inRange, ← whole, List.length_append, List.length_append]
    exact Nat.add_le_add_right unread _
  · rw [Host.endpoint_peer_setEndpoint next.inRange, replied, Host.endpoint_peer_setEndpoint awaits.inRange]
  · obtain closer | ⟨nothing, same, reading, all⟩ := nearer
    · exact .inl closer
    · exact .inr ⟨nothing, same, reading, fun none => all (onTime none)⟩

end Session
end CallWire
