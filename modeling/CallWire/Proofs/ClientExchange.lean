import CallWire.Proofs.WaitingWrites

/-! A client and a server at the two ends of one connection. The client sends its requests one after the other without
waiting for replies, which it takes when it likes; the last bytes on their way to either end may be late, and who writes
more than there is room for is held until the other side has read it. No request and no reply is lost, repeated or
merged with another. -/

namespace CallWire

/-- How many bytes the connection holds in either direction. -/
structure Rooms where
  toServer : Nat
  toClient : Nat

/-- A client with the requests that it has yet to send, the session that serves it, and what its calls return. -/
structure Exchange (ρ : Type) where
  client : Channel
  session : Session (ρ × List Message)
  host : Host
  unsent : List Message
  /-- The last of the calls to send may still be held; it returns this unless it fails. -/
  sends : List (Except ChannelError Unit) := []
  receives : List (Except ChannelError Message) := []

inductive ExchangeMove
  /-- The client sends the next request, if there is one. -/
  | send
  /-- The client receives while so many bytes on their way to it are late. -/
  | receive (late : Nat)
  /-- The session makes a step while so many bytes on their way to it are late. -/
  | serve (late : Nat)

namespace Exchange
variable {ρ : Type}

def start (client server : Channel) (memory : ρ) (host : Host) (requests : List Message) : Exchange ρ :=
  { client, session := .start server (memory, []), host, unsent := requests }

/-- What a call to receive has returned, unless it waits. -/
def returned : Outcome Message → List (Except ChannelError Message)
  | .done result => [result]
  | .waiting => []

def sendNext (e : Exchange ρ) : Exchange ρ :=
  match e.unsent with
  | [] => e
  | m :: rest =>
    let (result, client, host) := e.client.send m e.host
    { e with client, host, unsent := rest, sends := e.sends ++ [result] }

def receiveNext (s : SocketId) (late : Nat) (e : Exchange ρ) : Exchange ρ :=
  let (outcome, client, host) := e.host.lagging s.peer late e.client.recv
  { e with client, host, receives := e.receives ++ returned outcome }

/-- The client goes on with this as soon as its last call to send has returned. -/
def byClient (room : Nat) (next : Exchange ρ → Exchange ρ) (e : Exchange ρ) : Exchange ρ :=
  match e.client.resume room e.host with
  | (.waiting, _) => e
  | (.done (.ok _), _) => next e
  | (.done (.error error), client, host) => { e with client, host, sends := e.sends.dropLast ++ [.error error] }

def bySession (s : SocketId) (late : Nat)
    (step : Session (ρ × List Message) → Host → Pace × Session (ρ × List Message) × Host) (e : Exchange ρ) : Exchange ρ :=
  let (_, session, host) := e.host.lagging s late (step e.session)
  { e with session, host }

def move (handler : Handler ρ) (s : SocketId) (rooms : Rooms) (e : Exchange ρ) : ExchangeMove → Exchange ρ
  | .send => e.byClient rooms.toServer sendNext
  | .receive late => e.byClient rooms.toServer (receiveNext s late)
  | .serve late => e.bySession s late (Session.proceed rooms.toClient handler.recording)

def run (handler : Handler ρ) (s : SocketId) (rooms : Rooms) (e : Exchange ρ) (moves : List ExchangeMove) : Exchange ρ :=
  moves.foldl (move handler s rooms) e

/-- What a move does where there is room for everything. -/
def unhindered (handler : Handler ρ) (s : SocketId) (e : Exchange ρ) : ExchangeMove → Exchange ρ
  | .send => e.sendNext
  | .receive late => e.receiveNext s late
  | .serve late => e.bySession s late (Session.step handler.recording)

/-- Whoever would make the move is held by a call to write. -/
def isHeld (rooms : Rooms) (e : Exchange ρ) : ExchangeMove → Bool
  | .send | .receive _ => e.client.isHeld rooms.toServer e.host
  | .serve _ => e.session.channel.isHeld rooms.toClient e.host

end Exchange

/-- The frame limits of the two sides, for what they send and what they receive. -/
structure Limits where
  clientSends : Nat
  clientReceives : Nat
  serverSends : Nat
  serverReceives : Nat

/-- The requests are valid and pass from the client to the server. -/
def Limits.Admit (limits : Limits) (requests : List Message) : Prop :=
  ∀ m ∈ requests, m.isRequest ∧ m.Passes limits.clientSends limits.serverReceives

namespace Exchange
variable {ρ : Type}

/-- How far each side of an exchange has come. -/
structure Progress where
  sent : Nat
  answered : Nat
  /-- How near the session is to reading the next request. -/
  nearness : Nat
  received : Nat

def progress (e : Exchange ρ) : Progress where
  sent := e.sends.length
  answered := e.session.memory.2.length
  nearness := e.session.phase.nearness
  received := e.receives.length

/-- A request that was answered counts for more than coming near to the next. -/
def Progress.total (p : Progress) : Nat := p.sent + 2 * p.answered + p.nearness + p.received

/-- The requests are those answered, those on their way and those not sent yet; of the replies some were received and
the others are on their way. -/
structure Accounts (handler : Handler ρ) (limits : Limits) (memory : ρ) (requests : List Message) (s : SocketId)
    (e : Exchange ρ) (answered queued taken coming : List Message) : Prop where
  requests : requests = answered ++ queued ++ e.unsent
  remembered : e.session.memory = (handler.after memory answered, answered)
  replies : handler.replies memory answered = taken ++ coming
  sends : e.sends = List.replicate (answered.length + queued.length) (.ok ())
  receives : e.receives = taken.map .ok
  server : e.session.Awaits s limits.serverReceives limits.serverSends e.host [] queued
  client : ∃ c, e.client.Talks s.peer limits.clientSends limits.clientReceives c ∧
    c.reader.buffer ++ (e.host.endpoint s.peer).inbox = streamOf coming

def Orderly (handler : Handler ρ) (limits : Limits) (memory : ρ) (requests : List Message) (s : SocketId)
    (e : Exchange ρ) : Prop :=
  ∃ answered queued taken coming, e.Accounts handler limits memory requests s answered queued taken coming

/-- A move has nothing left to do. A session that has answered all it was sent goes on to read. -/
def Progress.Exhausts (total : Nat) (p : Progress) : ExchangeMove → Prop
  | .send => p.sent = total
  | .serve late => late = 0 → p.answered = p.sent ∧ p.nearness = 3
  | .receive late => late = 0 → p.received = p.answered

/-- All requests were sent, and the calls have returned. -/
def HasSent (rooms : Rooms) (e : Exchange ρ) : Prop :=
  e.unsent = [] ∧ e.client.isHeld rooms.toServer e.host = false

/-- A move was held or had nothing left to do. It left no more bytes on their way. -/
structure Idle (rooms : Rooms) (total : Nat) (m : ExchangeMove) (e next : Exchange ρ) : Prop where
  same : next.progress = e.progress
  eased : ∀ m, next.isHeld rooms m = true → e.isHeld rooms m = true
  nothing : e.isHeld rooms m = true ∨ e.progress.Exhausts total m

/-- A move is a step ahead for one side, or idle. -/
structure Moves (rooms : Rooms) (total : Nat) (m : ExchangeMove) (e next : Exchange ρ) : Prop where
  sent : e.HasSent rooms → next.HasSent rooms
  onward : e.progress.total < next.progress.total ∨ Idle rooms total m e next

section
variable {handler : Handler ρ} {limits : Limits} {memory : ρ} {requests : List Message} {s : SocketId} {e : Exchange ρ}
  {answered queued taken coming : List Message}

/-- The next request is written behind those that the session has not read. -/
theorem Accounts.sendNext_eq (accounts : e.Accounts handler limits memory requests s answered queued taken coming)
    (admitted : limits.Admit requests) {m : Message} {rest : List Message} (unsent : e.unsent = m :: rest) :
    ∃ turns, (∀ turn ∈ turns, WriteTurn.IsBenign turn) ∧ e.sendNext = { e with
      host := e.host.setLink s (((e.host.link s.peer).written turns (frameOf m.bytes)).swap)
      unsent := rest
      sends := e.sends ++ [.ok ()] } := by
  obtain ⟨split, -, -, -, -, server, c, talks, -⟩ := accounts
  have member : m ∈ requests := by simp [split, unsent]
  have calm : (e.host.link s.peer).Calm := by
    rw [Host.link_peer]
    exact server.calm.swap
  obtain ⟨turns, benign, sent⟩ := talks.send calm (admitted m member).2
  exact ⟨turns, benign, by simp only [sendNext, unsent, sent, Host.setLink_peer]⟩

theorem Accounts.send (accounts : e.Accounts handler limits memory requests s answered queued taken coming)
    (admitted : limits.Admit requests) (rooms : Rooms) :
    (e.unhindered handler s .send).Orderly handler limits memory requests s ∧
      e.Moves rooms requests.length .send (e.unhindered handler s .send) := by
  have ⟨split, own, replies, sends, receives, server, c, talks, toClient⟩ := accounts
  cases unsent : e.unsent with
  | nil =>
    have same : e.unhindered handler s .send = e := by simp only [unhindered, sendNext, unsent]
    rw [same]
    refine ⟨⟨answered, queued, taken, coming, split, own, replies, sends, receives, server, c, talks, toClient⟩, ?_⟩
    refine ⟨id, .inr ⟨rfl, fun _ held => held, .inr ?_⟩⟩
    show e.sends.length = requests.length
    rw [sends, split, unsent]
    simp
  | cons m rest =>
    obtain ⟨turns, benign, moved⟩ := accounts.sendNext_eq admitted unsent
    have calm : (e.host.link s.peer).Calm := by
      rw [Host.link_peer]
      exact server.calm.swap
    have unfinished : ¬ e.HasSent rooms := fun sent => by simp [sent.1] at unsent
    rw [unhindered, moved]
    -- A request that was sent waits behind those queued until the session takes it.
    refine ⟨⟨answered, queued ++ [m], taken, coming, ?_, own, replies, ?_, receives, ?_, c, talks, ?_⟩, ?_⟩
    · rw [split, unsent, List.append_assoc, List.append_assoc, List.append_assoc, List.singleton_append]
    · rw [sends, List.length_append, ← Nat.add_assoc]
      exact List.replicate_succ'.symm
    · apply server.relink (calm.written benign _).swap
      intro buffer whole
      rw [List.append_nil] at whole
      rw [streamOf_append, ← whole, List.append_nil, List.append_assoc, Host.link_peer]
      simp [Link.written, Link.swap, streamOf, Host.endpoint]
    · rw [Host.endpoint_peer, Host.link_setLink server.inRange, Host.link_peer]
      rw [Host.endpoint_peer] at toClient
      exact toClient
    · refine ⟨fun sent => absurd sent unfinished, .inl ?_⟩
      simp only [Progress.total, progress, List.length_append, List.length_singleton]
      omega

/-- How far the sides have come, in numbers of requests and replies. -/
theorem Accounts.counts (accounts : e.Accounts handler limits memory requests s answered queued taken coming)
    (answers : handler.Answers limits.serverSends limits.clientReceives) :
    requests.length = answered.length + queued.length + e.unsent.length ∧
      answered.length = taken.length + coming.length ∧
      e.progress = ⟨answered.length + queued.length, answered.length, e.session.phase.nearness, taken.length⟩ := by
  refine ⟨?_, ?_, ?_⟩
  · rw [accounts.requests, List.length_append, List.length_append]
  · rw [← answers.length_replies memory answered, accounts.replies, List.length_append]
  · rw [progress, accounts.remembered, accounts.sends, accounts.receives, List.length_map, List.length_replicate]

/-- The client has read at its own end: the session awaits what it did before, and neither side is held that was not. -/
structure Reads (handler : Handler ρ) (limits : Limits) (s : SocketId) (queued coming : List Message) (late : Nat)
    (e : Exchange ρ) (outcome : Outcome Message) (rest : List Message) (next : Connection) (after : Host) : Prop where
  moved : e.unhindered handler s (.receive late) =
    { e with client := e.client.setConnection next, host := after, receives := e.receives ++ returned outcome }
  server : e.session.Awaits s limits.serverReceives limits.serverSends after [] queued
  talks : (e.client.setConnection next).Talks s.peer limits.clientSends limits.clientReceives next
  left : next.reader.buffer ++ (after.endpoint s.peer).inbox = streamOf rest
  shrinks : (after.endpoint s.peer).inbox.length ≤ (e.host.endpoint s.peer).inbox.length
  held : ∀ room, (e.client.setConnection next).isHeld room after = e.client.isHeld room e.host
  received : Channel.Receives late coming outcome rest

theorem Accounts.reads (accounts : e.Accounts handler limits memory requests s answered queued taken coming)
    (answers : handler.Answers limits.serverSends limits.clientReceives) (late : Nat) :
    ∃ outcome rest next after, e.Reads handler limits s queued coming late outcome rest next after := by
  obtain ⟨-, -, replies, -, -, server, c, talks, toClient⟩ := accounts
  have inRange : s.peer.connection < e.host.links.length := server.inRange
  have calm : (e.host.link s.peer).Calm := by
    rw [Host.link_peer]
    exact server.calm.swap
  have passes : ∀ reply ∈ coming, reply.Passes limits.serverSends limits.clientReceives := by
    intro reply member
    apply answers.replies_pass memory answered
    rw [replies]
    exact List.mem_append_right _ member
  obtain ⟨outcome, next, content, turns, rest, lagged, benign, talks', shrinks, left, received⟩ :=
    talks.recv_late inRange calm passes toClient late
  let last : Endpoint := { e.host.endpoint s.peer with inbox := content, readTurns := turns }
  let after := e.host.setEndpoint s.peer last
  have near : (after.endpoint s.peer).inbox = content := by rw [Host.endpoint_setEndpoint inRange]
  have relinked : after = e.host.setLink s { e.host.link s with far := last } := Host.setEndpoint_peer ..
  have far : after.endpoint s = e.host.endpoint s := by
    rw [relinked, Host.endpoint, Host.link_setLink server.inRange]
    rfl
  rw [← near] at left shrinks
  refine ⟨outcome, rest, next, after, ?_, ?_, talks', left, shrinks, fun room => ?_, received⟩
  · simp only [unhindered, receiveNext, lagged]
    rfl
  · rw [relinked]
    exact server.relink ⟨server.calm.near, (calm.emptied benign content).near⟩ fun buffer whole => whole
  · rw [Bool.eq_iff_iff, talks'.isHeld_iff, talks.isHeld_iff, far]

/-- Reading takes a reply, or finds that the rest of the next is late. -/
theorem Accounts.receive (accounts : e.Accounts handler limits memory requests s answered queued taken coming)
    (answers : handler.Answers limits.serverSends limits.clientReceives) (rooms : Rooms) (late : Nat) :
    (e.unhindered handler s (.receive late)).Orderly handler limits memory requests s ∧
      e.Moves rooms requests.length (.receive late) (e.unhindered handler s (.receive late)) := by
  obtain ⟨outcome, rest, next, after, moved, server, talks, left, shrinks, held, received⟩ := accounts.reads answers late
  have counts := accounts.counts answers
  obtain ⟨split, own, replies, sends, receives, waits, -⟩ := accounts
  have sent (sent : e.HasSent rooms) : (e.unhindered handler s (.receive late)).HasSent rooms := by
    rw [moved]
    exact ⟨sent.1, (held _).trans sent.2⟩
  refine ⟨?_, sent, ?_⟩
  · rw [moved]
    cases received with
    | waits all =>
      rw [show e.receives ++ returned .waiting = e.receives from List.append_nil _]
      exact ⟨answered, queued, taken, coming, split, own, replies, sends, receives, server, next, talks, left⟩
    | @message m rest =>
      refine ⟨answered, queued, taken ++ [m], rest, split, own, ?_, sends, ?_, server, next, talks, left⟩
      · rw [replies, List.append_assoc]
        rfl
      · rw [receives, List.map_append]
        rfl
  · rw [moved]
    cases received with
    -- Without late bytes reading is in vain only if no reply is to come.
    | waits all =>
      refine .inr ⟨?_, fun m stuck => ?_, .inr fun none => ?_⟩
      · simp only [progress, returned, List.append_nil]
      · cases m with
        | send | receive => exact (held _).symm.trans stuck
        | serve =>
          obtain ⟨connected, full⟩ := server.isHeld_iff.mp stuck
          exact waits.isHeld_iff.mpr ⟨connected, Nat.lt_of_lt_of_le full shrinks⟩
      · obtain rfl := all none
        rw [counts.2.2]
        exact counts.2.1.symm
    | message =>
      left
      simp only [Progress.total, progress, returned, List.length_append, List.length_singleton]
      omega

/-- The session answers a request, comes nearer to reading the next, or finds that the rest of the next is late. -/
theorem Accounts.serve (accounts : e.Accounts handler limits memory requests s answered queued taken coming)
    (admitted : limits.Admit requests) (answers : handler.Answers limits.serverSends limits.clientReceives) (rooms : Rooms)
    (late : Nat) :
    (e.unhindered handler s (.serve late)).Orderly handler limits memory requests s ∧
      e.Moves rooms requests.length (.serve late) (e.unhindered handler s (.serve late)) := by
  have ⟨split, own, replies, sends, receives, server, c, talks, toClient⟩ := accounts
  have queuedAdmitted : ∀ m ∈ queued, m.isRequest ∧ m.Passes limits.clientSends limits.serverReceives := by
    intro m member
    apply admitted
    rw [split]
    exact List.mem_append_left _ (List.mem_append_right _ member)
  obtain ⟨kind, session, host, served, lagged, ⟨rest, queue, next⟩, memory', length, unread, replied, nearer⟩ :=
    Session.step_late answers server queuedAdmitted late
  have moved : e.unhindered handler s (.serve late) = { e with session, host } := by
    simp only [unhindered, bySession, lagged]
  rw [own] at memory' replied
  have remembered : session.memory = (handler.after memory (answered ++ served), answered ++ served) := by
    rw [Handler.after_append]
    exact memory'
  have allReplies : handler.replies memory (answered ++ served) =
      taken ++ (coming ++ handler.replies (handler.after memory answered) served) := by
    rw [Handler.replies_append, replies, List.append_assoc]
  have eased {room : Nat} (held : e.client.isHeld room host = true) : e.client.isHeld room e.host = true :=
    talks.isHeld_iff.mpr (Nat.lt_of_lt_of_le (talks.isHeld_iff.mp held) unread)
  rw [moved]
  refine ⟨⟨answered ++ served, rest, taken, _, ?_, remembered, allReplies, ?_, receives, next, c, talks, ?_⟩,
    fun sent => ⟨sent.1, Bool.eq_false_iff.mpr fun held => Bool.eq_false_iff.mp sent.2 (eased held)⟩, ?_⟩
  · rw [split, queue]
    simp only [List.append_assoc]
  · rw [sends, queue, List.length_append, List.length_append, Nat.add_assoc]
  · rw [replied, streamOf_append, ← toClient, List.append_assoc]
  -- Without late bytes a step that gets no nearer has found the queue empty.
  · obtain closer | ⟨rfl, same, reading, all⟩ := nearer
    · left
      simp only [Progress.total, progress, own, remembered, List.length_append]
      omega
    · have near : e.session.phase.nearness = 3 := by rw [reading]; rfl
      have still : (host.endpoint s.peer).inbox = (e.host.endpoint s.peer).inbox := by
        rw [replied]
        exact List.append_nil _
      refine .inr ⟨?_, ?_, .inr fun none => ?_⟩
      · simp only [progress, own, remembered, List.append_nil, same]
      · intro m held
        cases m with
        | send | receive => exact eased held
        | serve =>
          obtain ⟨-, full⟩ := next.isHeld_iff.mp held
          rw [still] at full
          exact server.isHeld_iff.mpr ⟨server.connected (by omega), full⟩
      · obtain rfl := all none
        obtain ⟨-, -, here⟩ := accounts.counts answers
        rw [here]
        exact ⟨rfl, near⟩

/-- A side that is held does nothing, and one that is not goes on as if there were room for everything. -/
theorem Accounts.move_eq (accounts : e.Accounts handler limits memory requests s answered queued taken coming)
    (rooms : Rooms) (m : ExchangeMove) :
    e.move handler s rooms m = if e.isHeld rooms m then e else e.unhindered handler s m := by
  obtain ⟨-, -, -, -, -, server, c, talks, -⟩ := accounts
  have byClient (next : Exchange ρ → Exchange ρ) :
      e.byClient rooms.toServer next = if e.client.isHeld rooms.toServer e.host then e else next e := by
    have calm : (e.host.link c.socket).Calm := by
      rw [talks.socket, Host.link_peer]
      exact server.calm.swap
    unfold Exchange.byClient
    simp only [Channel.resume_of_calm talks.connected calm]
    by_cases held : e.client.isHeld rooms.toServer e.host = true
    · simp only [if_pos held]
    · simp only [if_neg held]
  cases m with
  | send => exact byClient _
  | receive late => exact byClient _
  | serve late =>
    have proceeds := server.proceed_late rooms.toClient late handler.recording
    change e.bySession s late (Session.proceed rooms.toClient handler.recording) =
      if e.session.channel.isHeld rooms.toClient e.host then e else e.bySession s late (Session.step handler.recording)
    by_cases held : e.session.channel.isHeld rooms.toClient e.host = true
    · rw [if_pos held] at proceeds ⊢
      simp only [bySession, proceeds]
    · rw [if_neg held] at proceeds ⊢
      simp only [bySession, proceeds]

end
end Exchange
end CallWire
