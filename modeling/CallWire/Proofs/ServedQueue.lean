import CallWire.Proofs.QueuedMessages

/-! A session with a queue of requests before it. As long as its connection is undisturbed it takes them off one by one
and replies to each, and it waits only where the next request has not come whole. -/

namespace CallWire

/-- How near a session is to reading the next message. -/
def Phase.nearness : Phase → Nat
  | attaching _ => 1
  | checking => 2
  | reading => 3
  | _ => 0

theorem Phase.nearness_le (phase : Phase) : phase.nearness ≤ 3 := by
  unfold nearness
  split
  all_goals decide

namespace Session

/-- The channel has no peer yet, and is going to make a connection with these limits. -/
structure Vacant {σ : Type} (receiving sending : Nat) (l : ListenerId) (session : Session σ) (host : Host) : Prop where
  state : session.channel.state = .listening l none
  inactive : (host.control session.channel.control).active = none
  patient : Endpoint.checkTimeout session.channel.config.readTimeout = .ok () ∧
    Endpoint.checkTimeout session.channel.config.writeTimeout = .ok ()
  reads : session.channel.config.maxSize = receiving
  sends : session.channel.config.maxSize = sending

/-- Where a session is that serves at a socket, and what its connection has buffered. -/
inductive Stage {σ : Type} (s : SocketId) (receiving sending : Nat) (session : Session σ) (host : Host) : Bytes → Prop
  | arriving {l rest} (phase : session.phase = .arriving) (vacant : session.Vacant receiving sending l host)
      (backlog : (host.listener l).backlog = s :: rest) : Stage s receiving sending session host []
  | attaching {l} (phase : session.phase = .attaching s) (vacant : session.Vacant receiving sending l host) :
      Stage s receiving sending session host []
  | engaged {c} (phase : session.phase = .arriving ∨ session.phase = .checking ∨ session.phase = .reading)
      (connected : session.channel.connection? = some c) (socket : c.socket = s)
      (reads : c.reader.config.maxSize = receiving) (sends : c.writer.config.maxSize = sending) :
      Stage s receiving sending session host c.reader.buffer

/-- The session serves, and these requests are still to come to it, the last bytes of them late. -/
structure Awaits {σ : Type} (s : SocketId) (receiving sending : Nat) (session : Session σ) (host : Host) (behind : Bytes)
    (queue : List Message) : Prop where
  inRange : s.connection < host.links.length
  calm : (host.link s).Calm
  unrequested : session.channel.shutdownHandle.isRequested host = false
  stage : ∃ buffer, session.Stage s receiving sending host buffer ∧
    buffer ++ (host.endpoint s).inbox ++ behind = streamOf queue

variable {ρ : Type} {s : SocketId} {receiving sending : Nat}

section
variable {σ : Type} {session : Session σ} {host : Host} {behind : Bytes} {queue : List Message}

/-- The bytes of the connection may move on while the session does nothing. -/
theorem Awaits.relink (awaits : session.Awaits s receiving sending host behind queue) {link : Link} {behind' : Bytes}
    {queue' : List Message} (calm : link.Calm)
    (moved : ∀ buffer : Bytes, buffer ++ (host.endpoint s).inbox ++ behind = streamOf queue →
      buffer ++ link.near.inbox ++ behind' = streamOf queue') :
    session.Awaits s receiving sending (host.setLink s link) behind' queue' := by
  have own : (host.setLink s link).link s = link := Host.link_setLink awaits.inRange
  obtain ⟨buffer, stage, split⟩ := awaits.stage
  constructor
  · rw [Host.setLink_length]
    exact awaits.inRange
  · rwa [own]
  · exact awaits.unrequested
  · refine ⟨buffer, ?_, ?_⟩
    · cases stage with
      | arriving phase vacant backlog => exact .arriving phase { vacant with } backlog
      | attaching phase vacant => exact .attaching phase { vacant with }
      | engaged phase connected socket reads sends => exact .engaged phase connected socket reads sends
    · rw [Host.endpoint, own]
      exact moved buffer split

/-- What was read is in the buffer, or was a message taken off the queue. -/
theorem Awaits.took {c : Connection}
    (awaits : session.Awaits c.socket c.reader.config.maxSize c.writer.config.maxSize host behind queue)
    (connected : session.channel.connection? = some c) {reader : FrameReader} {content : Bytes} {turns : List ReadTurn}
    {queue' : List Message} (benign : ∀ turn ∈ turns, turn.IsBenign) (config : reader.config = c.reader.config)
    (split : reader.buffer ++ content ++ behind = streamOf queue') (memory : σ) {phase : Phase}
    (serving : phase = .arriving ∨ phase = .checking ∨ phase = .reading) :
    Awaits c.socket c.reader.config.maxSize c.writer.config.maxSize
      { session with channel := session.channel.setConnection { c with reader }, memory, phase }
      (host.setEndpoint c.socket { host.endpoint c.socket with inbox := content, readTurns := turns }) behind queue' := by
  let next : Connection := { c with reader }
  obtain ⟨state, channel, -, present⟩ := Channel.setConnection_of_connection connected next
  have limit : reader.config.maxSize = c.reader.config.maxSize := by rw [config]
  refine ⟨(Host.setLink_length ..).symm ▸ awaits.inRange, ?_, ?_, next.reader.buffer,
    .engaged serving present rfl limit rfl, ?_⟩
  · rw [Host.link_setEndpoint awaits.inRange]
    exact awaits.calm.emptied benign content
  · rw [show session.channel.setConnection { c with reader } = _ from channel]
    exact awaits.unrequested
  · rw [Host.endpoint_setEndpoint awaits.inRange]
    exact split

end

/-- What a step made of the queue: it served some of the requests, one at most, and came nearer to the next; or it has to
wait, for bytes that had not arrived or for another request. -/
structure Advances (handler : Handler ρ) (s : SocketId) (receiving sending : Nat) (session : Session (ρ × List Message))
    (host : Host) (arrived : Prop) (behind : Bytes) (queue : List Message) (next : Session (ρ × List Message)) (after : Host)
    (served : List Message) : Prop where
  rest : ∃ rest, queue = served ++ rest ∧ next.Awaits s receiving sending after behind rest
  memory : next.memory = (handler.after session.memory.1 served, session.memory.2 ++ served)
  length : after.links.length = host.links.length
  unread : (after.endpoint s).inbox.length ≤ (host.endpoint s).inbox.length
  replied : (after.endpoint s.peer).inbox =
    (host.endpoint s.peer).inbox ++ streamOf (handler.replies session.memory.1 served)
  nearer : session.phase.nearness < 2 * served.length + next.phase.nearness ∨
    served = [] ∧ next.phase = session.phase ∧ session.phase = .reading ∧ (arrived → queue = [])

variable {handler : Handler ρ} {session : Session (ρ × List Message)} {host : Host} {arrived : Prop} {behind : Bytes}
  {queue : List Message}

/-- A step that serves nothing. -/
theorem Advances.of_quiet {next : Session (ρ × List Message)} {after : Host}
    (awaits : next.Awaits s receiving sending after behind queue) (memory : next.memory = session.memory)
    (length : after.links.length = host.links.length)
    (unread : (after.endpoint s).inbox.length ≤ (host.endpoint s).inbox.length)
    (quiet : (after.endpoint s.peer).inbox = (host.endpoint s.peer).inbox)
    (nearer : session.phase.nearness < next.phase.nearness ∨
      next.phase = session.phase ∧ session.phase = .reading ∧ (arrived → queue = [])) :
    session.Advances handler s receiving sending host arrived behind queue next after [] := by
  refine ⟨⟨queue, rfl, awaits⟩, ?_, length, unread, ?_, ?_⟩
  · rw [memory, List.append_nil]
    rfl
  · rw [quiet]
    exact (List.append_nil _).symm
  · obtain closer | waits := nearer
    · left
      rwa [List.length_nil, Nat.mul_zero, Nat.zero_add]
    · exact .inr ⟨rfl, waits⟩

theorem arriving_advances {l rest} (awaits : session.Awaits s receiving sending host behind queue)
    (split : (host.endpoint s).inbox ++ behind = streamOf queue) (phase : session.phase = .arriving)
    (vacant : session.Vacant receiving sending l host) (backlog : (host.listener l).backlog = s :: rest) :
    session.Advances handler s receiving sending host arrived behind queue (session.step handler.recording host).2.1
      (session.step handler.recording host).2.2 [] := by
  have stepped : session.step handler.recording host = (.moves, { session with phase := .attaching s },
      host.setListener l { host.listener l with backlog := rest }) := by
    simp only [step, phase, arrive, vacant.state, Host.accept, backlog]
  rw [stepped]
  apply Advances.of_quiet
  · exact ⟨awaits.inRange, awaits.calm, awaits.unrequested, [], .attaching rfl { vacant with }, split⟩
  · rfl
  · rfl
  · exact Nat.le_refl _
  · rfl
  · rw [phase]
    exact .inl Nat.zero_lt_one

theorem attaching_advances {l} (awaits : session.Awaits s receiving sending host behind queue)
    (split : (host.endpoint s).inbox ++ behind = streamOf queue) (phase : session.phase = .attaching s)
    (vacant : session.Vacant receiving sending l host) :
    session.Advances handler s receiving sending host arrived behind queue (session.step handler.recording host).2.1
      (session.step handler.recording host).2.2 [] := by
  obtain ⟨after, descriptors, attached, length, link, requested⟩ :=
    Connection.attach_ok awaits.inRange vacant.inactive vacant.patient.1 vacant.patient.2
  let c : Connection := ⟨s, { config := session.channel.config }, { config := session.channel.config }⟩
  have own : session.channel.setConnection c = { session.channel with state := .listening l (some c) } := by
    simp only [Channel.setConnection, vacant.state]
  have stepped : session.step handler.recording host = (.moves,
      { session with channel := { session.channel with state := .listening l (some c) }, phase := .checking }, after) := by
    rw [← own]
    simp only [step, phase, attach, attached]
    rfl
  rw [stepped]
  have calm : (after.link s).Calm := by
    rw [link]
    exact ⟨⟨awaits.calm.near.unreset, awaits.calm.near.unended, awaits.calm.near.reads, awaits.calm.near.writes⟩,
      awaits.calm.far⟩
  have stage : Stage s receiving sending
      { session with channel := { session.channel with state := .listening l (some c) }, phase := .checking } after
      c.reader.buffer := .engaged (.inr (.inl rfl)) rfl rfl vacant.reads vacant.sends
  apply Advances.of_quiet
  · refine ⟨length ▸ awaits.inRange, calm, requested.trans awaits.unrequested, c.reader.buffer, stage, ?_⟩
    rw [Host.endpoint, link]
    exact split
  · rfl
  · exact length
  · rw [Host.endpoint, link]
    exact Nat.le_refl _
  · rw [Host.endpoint_peer, Host.endpoint_peer, link]
  · rw [phase]
    exact .inl (Nat.lt_succ_self 1)

theorem checking_advances {c : Connection} (awaits : session.Awaits s receiving sending host behind queue)
    (split : c.reader.buffer ++ (host.endpoint s).inbox ++ behind = streamOf queue)
    (phase : session.phase = .arriving ∨ session.phase = .checking) (connected : session.channel.connection? = some c)
    (socket : c.socket = s) (reads : c.reader.config.maxSize = receiving) (sends : c.writer.config.maxSize = sending) :
    session.Advances handler s receiving sending host arrived behind queue (session.step handler.recording host).2.1
      (session.step handler.recording host).2.2 [] := by
  have moves {phase : Phase} (serving : phase = .checking ∨ phase = .reading)
      (closer : session.phase.nearness < phase.nearness)
      (stepped : session.step handler.recording host = (.moves, { session with phase }, host)) :
      session.Advances handler s receiving sending host arrived behind queue (session.step handler.recording host).2.1
        (session.step handler.recording host).2.2 [] := by
    rw [stepped]
    apply Advances.of_quiet
    · exact ⟨awaits.inRange, awaits.calm, awaits.unrequested, c.reader.buffer,
        .engaged (.inr serving) connected socket reads sends, split⟩
    · rfl
    · rfl
    · exact Nat.le_refl _
    · rfl
    · exact .inl closer
  obtain phase | phase := phase
  · apply moves (.inl rfl)
    · rw [phase]
      decide
    · obtain state | ⟨l, state⟩ := Channel.state_of_connection connected
      · simp only [step, phase, arrive, state]
      · simp only [step, phase, arrive, state]
  · apply moves (.inr rfl)
    · rw [phase]
      decide
    · simp only [step, phase, awaits.unrequested, Bool.false_eq_true, if_false]

/-- A request is answered with what the handler leaves in the slot. -/
theorem serve_answered (session : Session (ρ × List Message)) (c : Connection) {m : Message} {clientReads : Nat}
    (answers : handler.Answers c.writer.config.maxSize clientReads) (calm : (host.link c.socket).Calm)
    (request : m.isRequest) :
    ∃ turns, (∀ turn ∈ turns, WriteTurn.IsBenign turn) ∧
      session.serve handler.recording c m host =
        ({ session with
            memory := (handler.after session.memory.1 [m], session.memory.2 ++ [m])
            phase := .checking },
          host.setLink c.socket
            ((host.link c.socket).written turns (streamOf (handler.replies session.memory.1 [m])))) := by
  obtain ⟨reply, fits, replies, -⟩ := answers.replyTo session.memory.1 m
  have recorded : handler.recording session.memory m =
      ((handler.after session.memory.1 [m], session.memory.2 ++ [m]), (handler session.memory.1 m).2) := rfl
  obtain ⟨turns, benign, served⟩ :=
    serve_of_ok calm.steady request recorded (answers session.memory.1 m).1 fits
  refine ⟨turns, benign, ?_⟩
  rw [served, replies]
  simp [streamOf]

/-- The next request is served if it has come whole. -/
theorem reading_advances {c : Connection} {clientReads clientSends : Nat}
    (answers : handler.Answers sending clientReads) (awaits : session.Awaits s receiving sending host behind queue)
    (requests : ∀ m ∈ queue, m.isRequest ∧ m.Passes clientSends receiving)
    (split : c.reader.buffer ++ (host.endpoint s).inbox ++ behind = streamOf queue) (phase : session.phase = .reading)
    (connected : session.channel.connection? = some c) (socket : c.socket = s)
    (reads : c.reader.config.maxSize = receiving) (sends : c.writer.config.maxSize = sending) :
    ∃ served, session.Advances handler s receiving sending host (behind = []) behind queue
      (session.step handler.recording host).2.1 (session.step handler.recording host).2.2 served := by
  subst socket reads sends
  obtain ⟨outcome, reader, content, turns, read, benign, config, shrinks, fromQueue⟩ :=
    c.readMessage_queued awaits.calm (fun m member => (requests m member).2) split
  let next : Connection := { c with reader }
  let after := host.setEndpoint c.socket { host.endpoint c.socket with inbox := content, readTurns := turns }
  let took : Session (ρ × List Message) := { session with channel := session.channel.setConnection next }
  have peer : after.endpoint c.socket.peer = host.endpoint c.socket.peer :=
    Host.endpoint_peer_setEndpoint awaits.inRange _
  have unread : (after.endpoint c.socket).inbox.length ≤ (host.endpoint c.socket).inbox.length := by
    rwa [Host.endpoint_setEndpoint awaits.inRange]
  have stepped : session.step handler.recording host = session.readNext handler.recording c host := by
    simp only [step, phase, Channel.established_of_connection connected]
  rw [stepped, readNext, read]
  -- Either the first of the queue has not come whole, or it is taken and answered in the same step.
  cases fromQueue with
  | waits split all =>
    have awaits' := awaits.took connected benign config split session.memory (.inr (.inr phase))
    exact ⟨[], .of_quiet awaits' rfl (Host.setLink_length ..) unread (by rw [peer]) (.inr ⟨rfl, phase, all⟩)⟩
  | @message m rest _ split =>
    let memory := (handler.after session.memory.1 [m], session.memory.2 ++ [m])
    have awaits' := awaits.took connected benign config split memory (.inr (.inl rfl))
    obtain ⟨turns', benign', served⟩ := took.serve_answered next answers awaits'.calm (requests m (by simp)).1
    show ∃ served, session.Advances handler c.socket _ _ host (behind = []) behind (m :: rest)
      (took.serve handler.recording next m after).1 (took.serve handler.recording next m after).2 served
    rw [served]
    let replies := streamOf (handler.replies session.memory.1 [m])
    have replied := awaits'.relink (awaits'.calm.written benign' replies) fun buffer whole => whole
    refine ⟨[m], ⟨rest, rfl, replied⟩, rfl, ?_, ?_, ?_, ?_⟩
    · rw [Host.setLink_length]
      exact Host.setLink_length ..
    · rw [Host.endpoint, Host.link_setLink awaits'.inRange]
      exact unread
    · rw [← peer, Host.endpoint_peer, Host.endpoint_peer, Host.link_setLink awaits'.inRange]
      rfl
    · rw [phase]
      exact .inl (Nat.lt_succ_self 3)

/-- The session serves the front of the queue, or the rest of its first message is late. -/
theorem step_advances {clientReads clientSends : Nat} (answers : handler.Answers sending clientReads)
    (awaits : session.Awaits s receiving sending host behind queue)
    (requests : ∀ m ∈ queue, m.isRequest ∧ m.Passes clientSends receiving) :
    ∃ served, session.Advances handler s receiving sending host (behind = []) behind queue
      (session.step handler.recording host).2.1 (session.step handler.recording host).2.2 served := by
  obtain ⟨buffer, stage, split⟩ := awaits.stage
  cases stage with
  | arriving phase vacant backlog => exact ⟨[], arriving_advances awaits split phase vacant backlog⟩
  | attaching phase vacant => exact ⟨[], attaching_advances awaits split phase vacant⟩
  | engaged phase connected socket reads sends =>
    obtain phase | phase | phase := phase
    · exact ⟨[], checking_advances awaits split (.inl phase) connected socket reads sends⟩
    · exact ⟨[], checking_advances awaits split (.inr phase) connected socket reads sends⟩
    · exact reading_advances answers awaits requests split phase connected socket reads sends

end Session
end CallWire
