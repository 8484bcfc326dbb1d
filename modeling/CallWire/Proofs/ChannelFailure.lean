import CallWire.Proofs.ChannelAttempts

/-! Failures. A channel that was open is closed after an operation failed on it, unless it had no peer, the message was
too large to be sent, or a whole reply came that does not answer the call. -/

namespace CallWire

/-- What became of an operation, whatever it answers. -/
def Outcome.forget {α : Type} : Outcome α → Outcome Unit
  | .done result => .done (result.map fun _ => ())
  | .waiting => .waiting

/-- What a channel can be asked to do, apart from serving a peer. -/
inductive ChannelOperation
  | send (m : Message)
  | sendRaw (content : Bytes)
  | recv
  | call (request : Message)
  | recvReply (request : Message)

namespace ChannelOperation

def attempt (op : ChannelOperation) (channel : Channel) (host : Host) : Outcome Unit × Channel × Host :=
  match op with
  | send m =>
    let (result, rest) := channel.send m host
    (.done result, rest)
  | sendRaw content =>
    let (result, rest) := channel.sendRaw content host
    (.done result, rest)
  | recv =>
    let (outcome, rest) := channel.recv host
    (outcome.forget, rest)
  | call request =>
    let (outcome, rest) := channel.call request host
    (outcome.forget, rest)
  | recvReply request =>
    let (outcome, rest) := channel.recvReply request host
    (outcome.forget, rest)

/-- What is left to do once the operation waits. -/
def resumed : ChannelOperation → ChannelOperation
  | call request => recvReply request
  | op => op

/-- What the operation sends. -/
def content? : ChannelOperation → Option Bytes
  | send m | call m => some m.bytes
  | sendRaw content => some content
  | recv | recvReply _ => none

/-- What the reply has to answer. -/
def request? : ChannelOperation → Option Message
  | call request | recvReply request => some request
  | _ => none

end ChannelOperation

namespace Channel

/-- The bytes that were taken off the channel's socket in between. -/
def taken (channel : Channel) (before after : Host) : Bytes :=
  channel.connection?.elim [] fun c =>
    let inbox := (before.endpoint c.socket).inbox
    inbox.take (inbox.length - (after.endpoint c.socket).inbox.length)

/-- The bytes that came to the peer's socket in between. -/
def given (channel : Channel) (before after : Host) : Bytes :=
  channel.connection?.elim [] fun c =>
    (after.endpoint c.socket.peer).inbox.drop (before.endpoint c.socket.peer).inbox.length

end Channel

/-- An operation returned, after any number of times that it had to wait while others did what they wanted. With the
bytes that it wrote and read. -/
inductive ChannelOperation.Ends :
    ChannelOperation → Channel → Host → Bytes → Bytes → Except ChannelError Unit → Channel → Host → Prop
  | returns {op channel host result last final} (done : attempt op channel host = (.done result, last, final)) :
      Ends op channel host (channel.given host final) (channel.taken host final) result last final
  | waits {op channel host next between other written read result last final}
      (waiting : attempt op channel host = (.waiting, next, between)) (grows : between.links.length ≤ other.links.length)
      (later : Ends op.resumed next other written read result last final) :
      Ends op channel host (channel.given host between ++ written) (channel.taken host between ++ read) result last final

/-- What an operation that failed leaves of a channel that was open. -/
inductive Aftermath (op : ChannelOperation) (channel : Channel) (host : Host) :
    Bytes → Bytes → ChannelError → Channel → Host → Prop
  | closed {written read error last final} (fatal : Channel.leavesOpen error = false)
      (within : ∀ c content, channel.connection? = some c → op.content? = some content → c.writer.exceeded? content = none)
      (closed : last.isClosed = true) : Aftermath op channel host written read error last final
  | unconnected (absent : channel.connection? = none) : Aftermath op channel host [] [] .notConnected channel host
  | oversized {c content limit} (connected : channel.connection? = some c) (own : op.content? = some content)
      (large : c.writer.exceeded? content = some limit) :
      Aftermath op channel host [] [] (.frameTooLarge content.length limit) channel host
  | rejected {c next request reply written read error last final} (connected : channel.connection? = some c)
      (still : last.connection? = some next) (asked : op.request? = some request)
      (sent : written = op.content?.elim [] frameOf)
      (consumed : c.reader.buffer ++ read = frameOf reply.bytes ++ next.reader.buffer)
      (refused : checkReply request reply = .error error)
      (kind : error = .unexpectedType .response .request ∨ error = .callIdMismatch request.callId reply.callId) :
      Aftermath op channel host written read error last final

/-- What one attempt leaves: it is over, or the operation goes on waiting on the same connection. -/
inductive Attempted (op : ChannelOperation) (channel : Channel) (host : Host) (written read : Bytes) :
    Outcome Unit → Channel → Host → Prop
  | succeeded {last final} (opened : last.isClosed = false) : Attempted op channel host written read (.done (.ok ())) last final
  | failed {error last final} (aftermath : Aftermath op channel host written read error last final) :
      Attempted op channel host written read (.done (.error error)) last final
  | waits {c last next final} (connected : channel.connection? = some c) (still : last.connection? = some next)
      (socket : next.socket = c.socket)
      (within : ∀ content, op.content? = some content → c.writer.exceeded? content = none)
      (sent : written = op.content?.elim [] frameOf) (kept : c.reader.buffer ++ read = next.reader.buffer)
      (grows : host.links.length ≤ final.links.length) : Attempted op channel host written read .waiting last final

namespace Channel
variable {channel : Channel} {host after : Host} {c : Connection} {content : Bytes}

theorem taken_eq (connected : channel.connection? = some c)
    (split : (host.endpoint c.socket).inbox = content ++ (after.endpoint c.socket).inbox) :
    channel.taken host after = content := by
  simp only [taken, connected, Option.elim, split, List.length_append, Nat.add_sub_cancel, List.take_left]

theorem given_eq (connected : channel.connection? = some c)
    (came : (after.endpoint c.socket.peer).inbox = (host.endpoint c.socket.peer).inbox ++ content) :
    channel.given host after = content := by
  rw [given, connected, Option.elim, came, List.drop_left]

theorem taken_self (channel : Channel) (host : Host) : channel.taken host host = [] := by
  cases connected : channel.connection? with
  | none => rw [taken, connected, Option.elim]
  | some c => exact taken_eq connected (List.nil_append _).symm

theorem given_self (channel : Channel) (host : Host) : channel.given host host = [] := by
  cases connected : channel.connection? with
  | none => rw [given, connected, Option.elim]
  | some c => exact given_eq connected (List.append_nil _).symm

end Channel

namespace ChannelOperation
variable {op : ChannelOperation} {channel : Channel} {host : Host}

theorem attempted_of_sent {content : Bytes} {result : Except ChannelError Unit} {last : Channel} {final : Host}
    (own : op.content? = some content) (sent : channel.Sent host content result last final) :
    Attempted op channel host (channel.given host final) (channel.taken host final) (.done result) last final := by
  cases sent with
  | unconnected absent =>
    rw [Channel.given_self, Channel.taken_self]
    exact .failed (.unconnected absent)
  | oversized connected large =>
    rw [Channel.given_self, Channel.taken_self]
    exact .failed (.oversized connected own large)
  | sent connected => exact .succeeded (Channel.isClosed_of_connection connected)
  | broken connected within fatal closed =>
    refine .failed (.closed fatal ?_ closed)
    intro c content' connected' own'
    cases connected.symm.trans connected'
    cases own.symm.trans own'
    exact within

/-- The answer that an operation makes of a message that came. -/
def answer (op : ChannelOperation) : Outcome Message → Outcome Unit
  | .done (.ok reply) => .done (op.request?.elim (.ok ()) fun request => checkReply request reply)
  | .done (.error error) => .done (.error error)
  | .waiting => .waiting

theorem forget_recvReply (request : Message) (channel : Channel) (host : Host) :
    ((channel.recvReply request host).1.forget, (channel.recvReply request host).2) =
      ((recvReply request).answer (channel.recv host).1, (channel.recv host).2) := by
  unfold Channel.recvReply
  generalize channel.recv host = result
  obtain ⟨outcome, last, final⟩ := result
  cases outcome with
  | waiting => rfl
  | done result =>
    cases result with
    | error error => rfl
    | ok reply =>
      simp only [Outcome.forget, answer, request?, Option.elim]
      cases checkReply request reply with
      | error error => rfl
      | ok => rfl

theorem forget_recv (channel : Channel) (host : Host) :
    ((channel.recv host).1.forget, (channel.recv host).2) = (recv.answer (channel.recv host).1, (channel.recv host).2) := by
  generalize channel.recv host = result
  obtain ⟨outcome, last, final⟩ := result
  cases outcome with
  | waiting => rfl
  | done result =>
    cases result with
    | error error => rfl
    | ok reply => rfl

theorem attempted_of_received {c : Connection} {written content : Bytes} {outcome : Outcome Message} {last : Channel}
    {final : Host} (connected : channel.connection? = some c)
    (within : ∀ content, op.content? = some content → c.writer.exceeded? content = none)
    (sent : written = op.content?.elim [] frameOf) (grows : host.links.length ≤ final.links.length)
    (received : Channel.Received c content outcome last) :
    Attempted op channel host written content (op.answer outcome) last final := by
  cases received with
  | nothing still socket kept => exact .waits connected still socket within sent kept grows
  | @message m _ next still valid whole =>
    cases asked : op.request? with
    | none =>
      simp only [answer, asked, Option.elim]
      exact .succeeded (Channel.isClosed_of_connection still)
    | some request =>
      simp only [answer, asked, Option.elim]
      cases checked : checkReply request m with
      | ok => exact .succeeded (Channel.isClosed_of_connection still)
      | error error =>
        exact .failed (.rejected connected still asked sent whole checked (Channel.checkReply_error valid checked))
  | failed fatal closed =>
    refine .failed (.closed fatal ?_ closed)
    intro c' content' connected'
    cases connected.symm.trans connected'
    exact within content'

/-- Waiting for a message writes nothing. -/
theorem attempted_of_recv (silent : op.content? = none) (opened : channel.isClosed = false)
    (inRange : ∀ c, channel.connection? = some c → c.socket.connection < host.links.length) :
    Attempted op channel host (channel.given host (channel.recv host).2.2) (channel.taken host (channel.recv host).2.2)
      (op.answer (channel.recv host).1) (channel.recv host).2.1 (channel.recv host).2.2 := by
  cases connected : channel.connection? with
  | none =>
    rw [Channel.recv, Channel.established_of_open opened connected]
    show Attempted op channel host (channel.given host host) (channel.taken host host) (.done (.error .notConnected))
      channel host
    rw [Channel.given_self, Channel.taken_self]
    exact .failed (.unconnected connected)
  | some c =>
    obtain ⟨quiet, content, split, received⟩ := Channel.recv_received connected (inRange c connected)
    rw [Channel.taken_eq connected split, Channel.given_eq connected quiet.inbox]
    refine attempted_of_received connected ?_ ?_ quiet.grows received
    · rw [silent]
      exact fun content => nofun
    · rw [silent]
      rfl

theorem attempt_call (request : Message) (channel : Channel) (host : Host) :
    attempt (call request) channel host =
      match channel.send request host with
      | (.ok _, next, after) => ((call request).answer (next.recv after).1, (next.recv after).2)
      | (.error error, next, after) => (.done (.error error), next, after) := by
  simp only [attempt, Channel.call]
  generalize channel.send request host = result
  obtain ⟨result, next, after⟩ := result
  cases result with
  | error error => rfl
  | ok => exact forget_recvReply request next after

/-- Sending and waiting for the reply, with what both moved. -/
theorem attempted_of_call (opened : channel.isClosed = false)
    (inRange : ∀ c, channel.connection? = some c → c.socket.connection < host.links.length) (request : Message)
    {outcome : Outcome Unit} {last : Channel} {final : Host}
    (tried : attempt (call request) channel host = (outcome, last, final)) :
    Attempted (call request) channel host (channel.given host final) (channel.taken host final) outcome last final := by
  have sent := Channel.sendRaw_sent opened inRange request.bytes
  change channel.Sent host request.bytes (channel.send request host).1 (channel.send request host).2.1
    (channel.send request host).2.2 at sent
  rw [attempt_call] at tried
  generalize channel.send request host = result at tried sent
  obtain ⟨result, next, after⟩ := result
  cases result with
  | error error =>
    cases tried
    exact attempted_of_sent rfl sent
  | ok =>
    cases sent with
    | @sent c _ connected within length same came =>
      have inRange : c.socket.connection < after.links.length := length ▸ inRange c connected
      obtain ⟨quiet, content, split, received⟩ := Channel.recv_received connected inRange
      simp only at tried
      generalize next.recv after = result at tried quiet split received
      obtain ⟨message, last', final'⟩ := result
      cases tried
      have grown := quiet.inbox
      rw [came, List.append_nil] at grown
      rw [same] at split
      rw [Channel.taken_eq connected split, Channel.given_eq connected grown]
      refine attempted_of_received connected ?_ rfl (length ▸ quiet.grows) received
      intro content' own
      cases own
      exact within

theorem attempt_attempted (opened : channel.isClosed = false)
    (inRange : ∀ c, channel.connection? = some c → c.socket.connection < host.links.length) {outcome : Outcome Unit}
    {last : Channel} {final : Host} (tried : op.attempt channel host = (outcome, last, final)) :
    Attempted op channel host (channel.given host final) (channel.taken host final) outcome last final := by
  have received (silent : op.content? = none)
      (same : op.attempt channel host = (op.answer (channel.recv host).1, (channel.recv host).2)) :
      Attempted op channel host (channel.given host final) (channel.taken host final) outcome last final := by
    have attempted := attempted_of_recv silent opened inRange
    rw [tried] at same
    generalize channel.recv host = result at same attempted
    obtain ⟨message, last', final'⟩ := result
    cases same
    exact attempted
  have sent (content : Bytes) (own : op.content? = some content)
      (same : op.attempt channel host = (.done (channel.sendRaw content host).1, (channel.sendRaw content host).2)) :
      Attempted op channel host (channel.given host final) (channel.taken host final) outcome last final := by
    have attempted := attempted_of_sent own (Channel.sendRaw_sent opened inRange content)
    rw [tried] at same
    generalize channel.sendRaw content host = result at same attempted
    obtain ⟨result, last', final'⟩ := result
    cases same
    exact attempted
  cases op with
  | send m => exact sent m.bytes rfl rfl
  | sendRaw content => exact sent content rfl rfl
  | recv => exact received rfl (forget_recv channel host)
  | call request => exact attempted_of_call opened inRange request tried
  | recvReply request => exact received rfl (forget_recvReply request channel host)

/-- What the rest of an operation leaves, the whole leaves. -/
theorem aftermath_of_later {c next : Connection} {middle last : Channel} {between final : Host}
    {written read written' read' : Bytes} {error : ChannelError} (connected : channel.connection? = some c)
    (still : middle.connection? = some next)
    (within : ∀ content, op.content? = some content → c.writer.exceeded? content = none)
    (sent : written = op.content?.elim [] frameOf) (kept : c.reader.buffer ++ read = next.reader.buffer)
    (waits : op.resumed.content? = none) (same : op.resumed.request? = op.request?)
    (aftermath : Aftermath op.resumed middle between written' read' error last final) :
    Aftermath op channel host (written ++ written') (read ++ read') error last final := by
  cases aftermath with
  | closed fatal _ closed =>
    refine .closed fatal ?_ closed
    intro c' content connected'
    cases connected.symm.trans connected'
    exact within content
  | unconnected absent => cases still.symm.trans absent
  | oversized _ own => cases waits.symm.trans own
  | rejected connected' still' asked sent' consumed refused kind =>
    cases still.symm.trans connected'
    rw [waits, Option.elim] at sent'
    refine .rejected connected still' (same ▸ asked) ?_ ?_ refused kind
    · rw [sent', List.append_nil, sent]
    · rw [← List.append_assoc, kept]
      exact consumed

/-- An operation that has to wait is one that reads. -/
theorem resumed_of_waiting {last : Channel} {final : Host} (waiting : op.attempt channel host = (.waiting, last, final)) :
    op.resumed.content? = none ∧ op.resumed.request? = op.request? := by
  cases op with
  | send m => cases waiting
  | sendRaw content => cases waiting
  | recv => exact ⟨rfl, rfl⟩
  | call request => exact ⟨rfl, rfl⟩
  | recvReply request => exact ⟨rfl, rfl⟩

/-- The induction is on the attempts; the channel keeps its connection as long as it waits. -/
theorem ends_aftermath {written read : Bytes} {result : Except ChannelError Unit} {last : Channel} {final : Host}
    (opened : channel.isClosed = false)
    (inRange : ∀ c, channel.connection? = some c → c.socket.connection < host.links.length) :
    Ends op channel host written read result last final →
      match result with
      | .ok _ => last.isClosed = false
      | .error error => Aftermath op channel host written read error last final := by
  intro ends
  induction ends with
  | returns done =>
    have attempted := attempt_attempted opened inRange done
    cases attempted with
    | succeeded opened => exact opened
    | failed aftermath => exact aftermath
  | @waits op channel host middle between other written read result last final waiting grows later ih =>
    obtain ⟨silent, same⟩ := resumed_of_waiting waiting
    cases attempt_attempted opened inRange waiting with
    | @waits c _ next _ connected still socket within sent kept grows' =>
      have stays : ∀ c, middle.connection? = some c → c.socket.connection < other.links.length := by
        intro c' present
        cases still.symm.trans present
        rw [socket]
        exact Nat.lt_of_lt_of_le (inRange c connected) (Nat.le_trans grows' grows)
      have rest := ih (Channel.isClosed_of_connection still) stays
      cases result with
      | ok => exact rest
      | error error => exact aftermath_of_later connected still within sent kept silent same rest

end ChannelOperation

theorem Connection.leavesOpen_attach {host after : Host} {s : SocketId} {config : FrameConfig} {control : ControlId}
    {error : ChannelError} (failed : attach host s config control = (.error error, after)) :
    Channel.leavesOpen error = false := by
  unfold attach at failed
  dsimp only at failed
  split at failed
  · cases failed
  · cases failed
    rfl

namespace Session
variable {ρ : Type}

/-- A session came to its end, step by step, while others did what they wanted between the steps. -/
inductive Ends (handler : Handler ρ) : Session ρ → Host → Except ChannelError Unit → Session ρ → Host → Prop
  | finished {session host result} (phase : session.phase = .finished result) :
      Ends handler session host result session host
  | step {session host pace next between other result last final}
      (stepped : session.step handler host = (pace, next, between)) (later : Ends handler next other result last final) :
      Ends handler session host result last final

/-- While a session goes on its channel is open, and it fails with what closes it. -/
def Holds (session : Session ρ) : Prop :=
  match session.phase with
  | .arriving | .attaching _ => session.channel.isClosed = false
  | .reading | .checking => ∃ c, session.channel.connection? = some c
  | .failing error => Channel.leavesOpen error = false
  | .finished (.error _) => session.channel.isClosed = true
  | .leaving | .detaching | .closing | .finished (.ok _) => True

variable {handler : Handler ρ} {session next : Session ρ} {host after : Host} {pace : Pace}

theorem leavesOpen_send (c : Connection) {content : Bytes} {error : ChannelError}
    (sent : c.send content host = (.error error, after)) : Channel.leavesOpen error = false := by
  have failed : (c.writer.send content (host.link c.socket)).1 = .error error := congrArg Prod.fst sent
  cases large : c.writer.exceeded? content with
  | some limit =>
    rw [c.writer.send_exceeded large] at failed
    cases failed
    rfl
  | none =>
    obtain done | ⟨other, broken, cause⟩ := c.writer.send_within Link.account large (host.link c.socket)
    · cases done.symm.trans failed
    · cases broken.symm.trans failed
      exact Channel.leavesOpen_of_isOfStream cause

theorem serve_holds {c : Connection} {m : Message} (connected : session.channel.connection? = some c) :
    (session.serve handler c m host).1.Holds := by
  unfold serve
  split
  · dsimp only
    split
    · rfl
    · split
      · exact ⟨c, connected⟩
      · rename_i sent
        exact leavesOpen_send c sent
  · rfl

theorem readNext_holds {c : Connection} (phase : session.phase = .reading)
    (connected : session.channel.connection? = some c) : (session.readNext handler c host).2.1.Holds := by
  obtain ⟨content, -, took⟩ := c.readMessage_took host
  unfold readNext
  generalize c.readMessage host = result at took
  obtain ⟨outcome, c', after⟩ := result
  obtain ⟨_, _, _, present⟩ := Channel.setConnection_of_connection connected c'
  cases took with
  | nothing =>
    simp only [Holds, phase]
    exact ⟨c', present⟩
  | message => exact serve_holds present
  | ended => trivial
  | failed fatal => exact fatal

theorem attach_holds {s : SocketId} (opened : session.channel.isClosed = false) : (session.attach s host).1.Holds := by
  unfold attach
  dsimp only
  split
  · rename_i failed
    exact Connection.leavesOpen_attach failed
  · rename_i c after taken
    obtain ⟨⟨state, path, config, control⟩, memory, phase⟩ := session
    cases state with
    | closed => cases opened
    | connected other => exact ⟨c, rfl⟩
    | listening l peer => exact ⟨c, rfl⟩

theorem arrive_holds (phase : session.phase = .arriving) (opened : session.channel.isClosed = false) :
    (session.arrive host).2.1.Holds := by
  unfold arrive
  split
  · rename_i closed
    rw [Channel.isClosed, closed] at opened
    cases opened
  · rename_i c state
    refine ⟨c, ?_⟩
    rw [Channel.connection?, state]
  · rename_i l c state
    refine ⟨c, ?_⟩
    rw [Channel.connection?, state]
  · split
    · simp only [Holds, phase]
      exact opened
    · exact opened

theorem step_holds (holds : session.Holds) : (session.step handler host).2.1.Holds := by
  cases phase : session.phase with
  | arriving =>
    simp only [Holds, phase] at holds
    simp only [step, phase]
    exact arrive_holds phase holds
  | attaching s =>
    simp only [Holds, phase] at holds
    simp only [step, phase]
    exact attach_holds holds
  | checking =>
    simp only [Holds, phase] at holds
    simp only [step, phase]
    split
    · trivial
    · exact holds
  | reading =>
    simp only [Holds, phase] at holds
    obtain ⟨c, connected⟩ := holds
    simp only [step, phase, Channel.established_of_connection connected]
    exact readNext_holds phase connected
  | leaving =>
    simp only [step, phase]
    split
    · trivial
    · trivial
  | detaching | closing =>
    simp only [step, phase]
    trivial
  | failing error =>
    simp only [Holds, phase] at holds
    simp only [step, phase]
    exact Channel.fail_isClosed holds host
  | finished result =>
    simp only [step, phase]
    exact holds

theorem Ends.holds {last : Session ρ} {final : Host} {result : Except ChannelError Unit}
    (ends : Ends handler session host result last final) (holds : session.Holds) :
    last.Holds ∧ last.phase = .finished result := by
  induction ends with
  | finished phase => exact ⟨holds, phase⟩
  | @step session host _ _ _ _ _ _ _ stepped later ih =>
    have next : (session.step handler host).2.1.Holds := step_holds holds
    rw [stepped] at next
    exact ih next

theorem ends_of_advance {result : Except ChannelError Unit} (steps : Nat)
    (phase : (advance handler steps session host).1.phase = .finished result) :
    Ends handler session host result (advance handler steps session host).1 (advance handler steps session host).2 := by
  induction steps generalizing session host with
  | zero => exact .finished phase
  | succ steps ih =>
    rcases stepped : session.step handler host with ⟨pace, next, after⟩
    simp only [advance, stepped] at phase ⊢
    cases pace with
    | waits => exact .step stepped (.finished phase)
    | moves => exact .step stepped (ih phase)

end Session

/-- Accepting that returns at once is one way for a session to come to its end. -/
theorem Channel.ends_of_accept {ρ : Type} {channel : Channel} {handler : Handler ρ} {memory : ρ} {host final : Host}
    {result : Except ChannelError Unit} {last : Session ρ}
    (done : channel.accept handler memory host = (.done result, last, final)) :
    Session.Ends handler (.start channel memory) host result last final := by
  unfold accept Session.run at done
  dsimp only at done
  split at done
  · rename_i result' phase
    cases done
    exact Session.ends_of_advance _ phase
  · cases done

/-- An operation that succeeds leaves an open channel open, and one that fails closes it. It does not where there is no
peer or the message is over a limit of the sender, and then nothing has happened at all; nor where a call was sent and
the one whole reply that was taken is no answer to it. A session that fails closes the channel always. -/
theorem Channel.failure_closes {channel : Channel} {s : SocketId} {host : Host} (grounded : channel.Grounded s host)
    (opened : channel.isClosed = false) :
    (∀ op written read result last final, ChannelOperation.Ends op channel host written read result last final →
      match result with
      | .ok _ => last.isClosed = false
      | .error error => Aftermath op channel host written read error last final) ∧
    ∀ {ρ : Type} (handler : Handler ρ) memory error last final,
      Session.Ends handler (.start channel memory) host (.error error) last final → last.channel.isClosed = true := by
  constructor
  · intro op written read result last final ends
    exact ChannelOperation.ends_aftermath opened (fun c connected => (grounded.side c connected).2) ends
  · intro ρ handler memory error last final ends
    obtain ⟨holds, phase⟩ := ends.holds opened
    rw [Session.Holds, phase] at holds
    exact holds

/-- A call that gets the reply to another, in two reads, and a session that gets a frame over its limit. -/
theorem Channel.failure_closes_unless_rejected :
    let request := Message.request 7 1 0 []
    let reply := Message.response 8 [5]
    let near : Endpoint := { inbox := frameOf reply.bytes, readTurns := [.upTo 6] }
    let host : Host := { links := [⟨near, {}⟩], controls := [{ active := some ⟨0, false⟩ }] }
    let channel (limit : Nat) : Channel :=
      ⟨.connected ⟨⟨0, false⟩, { config := ⟨limit, none, none⟩ }, {}⟩, "socket", {}, 0⟩
    let called := ChannelOperation.attempt (.call request) (channel 5) host
    let session := (channel 4).accept (fun (_ : Unit) _ => ((), [])) () host
    called.1 = .done (.error (.callIdMismatch 7 8)) ∧ session.1 = .done (.error (.frameTooLarge 5 4)) ∧
      Aftermath (.call request) (channel 5) host (frameOf request.bytes) (frameOf reply.bytes) (.callIdMismatch 7 8)
        called.2.1 called.2.2 ∧ session.2.1.channel.isClosed = true := by
  have grounded (limit : Nat) (inbox : Bytes) (turns : List ReadTurn) (writer : FrameWriter) :
      Channel.Grounded
        ⟨.connected ⟨⟨0, false⟩, { config := ⟨limit, none, none⟩ }, writer⟩, "socket", {}, 0⟩ ⟨0, false⟩
        { links := [⟨{ inbox, readTurns := turns }, {}⟩], controls := [{ active := some ⟨0, false⟩ }] } := by
    refine ⟨?_, ?_, nofun⟩
    · intro l s waits
      cases waits
    · intro c connected
      cases connected
      exact ⟨rfl, Nat.zero_lt_one⟩
  have fails {channel : Channel} {host : Host} (grounded : channel.Grounded ⟨0, false⟩ host)
      (opened : channel.isClosed = false) (op : ChannelOperation) {error : ChannelError}
      (tried : (op.attempt channel host).1 = .done (.error error)) :=
    (failure_closes grounded opened).1 op _ _ (.error error) _ _ (.returns (Prod.ext tried rfl))
  have serves {channel : Channel} {host : Host} (grounded : channel.Grounded ⟨0, false⟩ host)
      (opened : channel.isClosed = false) (handler : Handler Unit) {error : ChannelError}
      (served : (channel.accept handler () host).1 = .done (.error error)) :=
    (failure_closes grounded opened).2 handler () error _ _ (ends_of_accept (Prod.ext served rfl))
  dsimp only
  refine ⟨rfl, rfl, ?_, ?_⟩
  · exact fails (grounded 5 _ _ _) rfl (.call _) rfl
  · exact serves (grounded 4 _ _ _) rfl _ rfl

end CallWire
