import CallWire.Proofs.BegunCall
import CallWire.Proofs.ReceptionSteps

/-! A call to a server that echoes. The two go on in any order, and bytes may be late on their way in both directions; the
call ends with the echo of its request, and with what that tells about its value. -/

namespace CallWire

/-- What there is at a socket before the late bytes come, and with them. -/
def Host.early (host : Host) (s : SocketId) (late : Nat) : Host :=
  host.setEndpoint s { host.endpoint s with inbox := (host.endpoint s).inbox.take ((host.endpoint s).inbox.length - late) }

def Host.caughtUp (host : Host) (s : SocketId) (late : Nat) (after : Host) : Host :=
  let there := (host.endpoint s).inbox.take ((host.endpoint s).inbox.length - late)
  after.setEndpoint s
    { after.endpoint s with inbox := (after.endpoint s).inbox ++ (host.endpoint s).inbox.drop there.length }

theorem Host.lagging_eq {α β : Type} (host : Host) (s : SocketId) (late : Nat) (act : Host → α × β × Host) :
    host.lagging s late act =
      ((act (host.early s late)).1, (act (host.early s late)).2.1, host.caughtUp s late (act (host.early s late)).2.2) := rfl

/-- Echoes the requests of some length at most. Whatever else it is asked it answers with nothing. -/
def echoWithin (limit : Nat) : Handler Unit := fun _ m =>
  ((), [.place (if m.isRequest ∧ m.length ≤ limit then echoOf m else Message.response m.callId [])])

theorem echoWithin_eq {limit : Nat} {m : Message} (request : m.isRequest) (fits : m.length ≤ limit) (memory : Unit) :
    echoWithin limit memory m = echoHandler memory m := by
  simp only [echoWithin, if_pos (And.intro request fits)]
  rfl

theorem echoWithin_answers {limit : Nat} (header : headerSize ≤ limit) (small : limit ≤ maxFrameLength) :
    (echoWithin limit).Answers limit limit := by
  intro memory m
  have passes : (if m.isRequest ∧ m.length ≤ limit then echoOf m else Message.response m.callId []).Passes limit limit := by
    have fits : (if m.isRequest ∧ m.length ≤ limit then echoOf m else Message.response m.callId []).length ≤ limit := by
      split
      · rename_i within
        have shorter := echoOf_length within.1
        have fits := within.2
        unfold Message.length at fits ⊢
        omega
      · exact header
    refine ⟨?_, fits, fits, Nat.le_trans fits small⟩
    split
    · rfl
    · rfl
  exact ⟨fun member => (by cases List.mem_singleton.mp member), _, rfl, passes⟩

namespace Session
variable {session : Session (Unit × List Message)} {s : SocketId} {host : Host} {limit sending : Nat} {queue : List Message}

/-- A session makes no difference between the two as long as requests come that are not too long. -/
theorem step_echoWithin {behind : Bytes} (awaits : session.Awaits s limit limit host behind queue)
    (requests : ∀ m ∈ queue, m.isRequest ∧ m.Passes sending limit) :
    session.step (echoWithin limit).recording host = session.step echoHandler.recording host := by
  obtain ⟨buffer, stage, split⟩ := awaits.stage
  cases stage with
  | arriving phase | attaching phase => simp only [step, phase]
  | @engaged c phase connected socket reads =>
    obtain phase | phase | phase := phase
    · simp only [step, phase]
    · simp only [step, phase]
    · subst socket reads
      obtain ⟨outcome, reader, content, turns, read, -, -, -, fromQueue⟩ :=
        c.readMessage_queued awaits.calm (fun m member => (requests m member).2) split
      simp only [step, phase, Channel.established_of_connection connected, readNext, read]
      cases fromQueue with
      | waits => rfl
      | @message m =>
        obtain ⟨request, passes⟩ := requests m List.mem_cons_self
        have same : (echoWithin c.reader.config.maxSize).recording session.memory m = echoHandler.recording session.memory m := by
          simp only [Handler.recording, echoWithin_eq request passes.received]
        simp only [serve, same]

theorem early_awaits (awaits : session.Awaits s limit limit host [] queue) (late : Nat) :
    ∃ behind, session.Awaits s limit limit (host.early s late) behind queue := by
  let inbox := (host.endpoint s).inbox
  have split : inbox.take (inbox.length - late) ++ inbox.drop (inbox.length - late) = inbox := List.take_append_drop ..
  refine ⟨inbox.drop (inbox.length - late), awaits.relink (awaits.calm.emptied awaits.calm.near.reads _) fun buffer all => ?_⟩
  rw [List.append_nil] at all
  rw [← all, List.append_assoc]
  exact congrArg (buffer ++ ·) split

theorem Awaits.unfinished {behind : Bytes} (awaits : session.Awaits s limit limit host behind queue) (result : Except ChannelError Unit) :
    session.phase ≠ .finished result := by
  obtain ⟨buffer, stage, -⟩ := awaits.stage
  cases stage with
  | arriving phase | attaching phase => simp [phase]
  | engaged phase =>
    obtain phase | phase | phase := phase
    all_goals simp [phase]

end Session

/-- A program that calls and the server that it has called. -/
structure Conversation where
  server : Server
  host : Host
  caller : Running

namespace Conversation

inductive Move
  /-- The server takes a step while so many bytes on their way to it are late. -/
  | serve (late : Nat)
  /-- The caller looks for the reply while so many bytes on their way to it are late. -/
  | look (late : Nat)

/-- The server's end of the connection is at this socket. -/
def move (s : SocketId) (x : Conversation) : Move → Conversation
  | .serve late =>
    let (_, server, host) := x.host.lagging s late fun host => ((), x.server.step host)
    { x with server, host }
  | .look late =>
    let (_, caller, host) := x.host.lagging s.peer late fun host => ((), x.caller.advance host)
    { x with caller, host }

def run (s : SocketId) (x : Conversation) (moves : List Move) : Conversation := moves.foldl (move s) x

/-- Moves among which each side is once given all that was sent to it. -/
structure IsRound (moves : List Move) : Prop where
  serves : .serve 0 ∈ moves
  looks : .look 0 ∈ moves

def Move.exchanged : Move → ExchangeMove
  | .serve late => .serve late
  | .look late => .receive late

/-- Room for the request and its echo. -/
def roomsFor (o : CallOptions) : Rooms := ⟨(streamOf [o.asked]).length, (streamOf [echoOf o.asked]).length⟩

variable {format : Option OutputFormat} {o : CallOptions} {limit : Nat} {s : SocketId} {x : Conversation} {e : Exchange Unit}

/-- The outcome is final. -/
theorem ended_stays {output : Output} (ended : x.caller = .ended output) (moves : List Move) :
    (x.run s moves).caller = .ended output := by
  induction moves generalizing x with
  | nil => exact ended
  | cons m rest ih =>
    refine ih ?_
    cases m with
    | serve late => exact ended
    | look late =>
      simp only [Conversation.move, ended]
      rfl

/-- What the two do is an exchange with one request, which was sent. -/
structure Matches (format : Option OutputFormat) (o : CallOptions) (x : Conversation) (e : Exchange Unit) : Prop where
  calling : x.caller = .calling format o ⟨e.client, o.asked⟩
  going : x.server.ended = none
  session : ∃ asked, e.session = x.server.session.recorded asked
  host : e.host = x.host
  sent : e.unsent = []
  nothing : e.receives = []

/-- The exchange goes as it should, under one limit on all frames. -/
def Runs (limit : Nat) (format : Option OutputFormat) (o : CallOptions) (s : SocketId) (x : Conversation) (e : Exchange Unit) :
    Prop :=
  Matches format o x e ∧ e.Orderly (echoWithin limit) ⟨limit, limit, limit, limit⟩ () [o.asked] s

section
variable (valid : o.asked.isRequest ∧ o.asked.Passes limit limit)
include valid

theorem admits_asked : (⟨limit, limit, limit, limit⟩ : Limits).Admit [o.asked] := by
  intro m member
  rw [List.mem_singleton.mp member]
  exact valid

theorem replies_asked : (echoWithin limit).replies () [o.asked] = [echoOf o.asked] := by
  rw [Handler.replies, echoWithin_eq valid.1 valid.2.received]
  rfl

theorem Runs.unhindered (runs : Runs limit format o s x e) (m : ExchangeMove) :
    e.move (echoWithin limit) s (roomsFor o) m = e.unhindered (echoWithin limit) s m := by
  apply runs.2.move_of_roomy
  · exact Nat.le_refl _
  · rw [replies_asked valid]
    exact Nat.le_refl _

theorem Runs.serve (runs : Runs limit format o s x e) (late : Nat) :
    Matches format o (x.move s (.serve late)) (e.move (echoWithin limit) s (roomsFor o) (.serve late)) := by
  rw [runs.unhindered valid]
  obtain ⟨⟨calling, going, ⟨asked, session⟩, host, sent, nothing⟩, answered, queued, taken, coming, accounts⟩ := runs
  have requests : ∀ m ∈ queued, m.isRequest ∧ m.Passes limit limit := by
    intro m member
    have known : m ∈ [o.asked] := by
      rw [accounts.requests]
      exact List.mem_append_left _ (List.mem_append_right _ member)
    rw [List.mem_singleton.mp known]
    exact valid
  have awaits := accounts.server
  obtain ⟨behind, early⟩ := Session.early_awaits awaits late
  have echoes := Session.step_echoWithin early requests
  have unfinished : ∀ result, x.server.session.phase ≠ .finished result := by
    intro result
    have := awaits.unfinished result
    rwa [session] at this
  have stepped := @Server.step_of_session x.server (x.host.early s late) going unfinished
  obtain ⟨asked', recorded⟩ := x.server.session.step_recorded echoHandler asked (x.host.early s late)
  have served : e.session.step (echoWithin limit).recording (e.host.early s late) =
      ((x.server.session.step echoHandler (x.host.early s late)).1,
        (x.server.session.step echoHandler (x.host.early s late)).2.1.recorded asked',
        (x.server.session.step echoHandler (x.host.early s late)).2.2) := by
    rw [echoes, session, host, recorded]
  simp only [Conversation.move, Exchange.unhindered, Exchange.bySession, Host.lagging_eq, stepped, served]
  exact ⟨calling, going, ⟨asked', rfl⟩, by rw [host], sent, nothing⟩

/-- The caller waits on, or has got the echo. -/
theorem Runs.look (runs : Runs limit format o s x e) (answers : (echoWithin limit).Answers limit limit) (late : Nat) :
    Matches format o (x.move s (.look late)) (e.move (echoWithin limit) s (roomsFor o) (.receive late)) ∨
      (x.move s (.look late)).caller = .ended (.ofSummary format (o.report (echoOf o.asked))) := by
  obtain ⟨later, -⟩ := runs.2.move (admits_asked valid) answers (roomsFor o) (.receive late)
  obtain ⟨-, receives, -⟩ := later.in_order
  rw [runs.unhindered valid] at receives ⊢
  obtain ⟨⟨calling, going, session, host, sent, nothing⟩, orderly⟩ := runs
  have checked : checkReply o.asked (echoOf o.asked) = .ok () := checkReply_of_response rfl rfl
  rw [replies_asked valid] at receives
  simp only [Conversation.move, Exchange.unhindered, Exchange.receiveNext, Host.lagging_eq, calling, nothing,
    List.nil_append, host] at receives ⊢
  rcases received : e.client.recv (x.host.early s.peer late) with ⟨outcome, channel, after⟩
  rw [received] at receives
  cases outcome with
  | waiting =>
    left
    simp only [Running.advance, PendingCall.finish, Channel.recvReply, received]
    exact ⟨rfl, going, session, rfl, sent, rfl⟩
  | done result =>
    right
    obtain ⟨rest, split⟩ := receives
    obtain ⟨rfl, -⟩ : result = .ok (echoOf o.asked) ∧ rest = [] := by simpa [Exchange.returned] using split
    simp only [Running.advance, PendingCall.finish, Channel.recvReply, received, checked]
    rfl

/-- The call ends with the echo or not at all. -/
theorem Runs.move (runs : Runs limit format o s x e) (answers : (echoWithin limit).Answers limit limit) (m : Move) :
    Runs limit format o s (x.move s m) (e.move (echoWithin limit) s (roomsFor o) m.exchanged) ∨
      (x.move s m).caller = .ended (.ofSummary format (o.report (echoOf o.asked))) := by
  obtain ⟨orderly, -⟩ := runs.2.move (admits_asked valid) answers (roomsFor o) m.exchanged
  cases m with
  | serve late => exact .inl ⟨runs.serve valid late, orderly⟩
  | look late =>
    obtain waits | ended := runs.look valid answers late
    · exact .inl ⟨waits, orderly⟩
    · exact .inr ended

theorem Runs.run (runs : Runs limit format o s x e) (answers : (echoWithin limit).Answers limit limit) (moves : List Move) :
    Runs limit format o s (x.run s moves) (e.run (echoWithin limit) s (roomsFor o) (moves.map Move.exchanged)) ∨
      (x.run s moves).caller = .ended (.ofSummary format (o.report (echoOf o.asked))) := by
  induction moves generalizing x e with
  | nil => exact .inl runs
  | cons m rest ih =>
    obtain runs | ended := runs.move valid answers m
    · exact ih runs
    · exact .inr (ended_stays ended rest)

/-- A round brings the exchange a step ahead, unless the call ends in it. -/
theorem Runs.rounds (runs : Runs limit format o s x e) (answers : (echoWithin limit).Answers limit limit)
    {rounds : List (List Move)} (fair : ∀ round ∈ rounds, IsRound round) :
    (∃ e', Runs limit format o s (x.run s rounds.flatten) e' ∧
        min (e.progress.total + rounds.length) 7 ≤ e'.progress.total) ∨
      (x.run s rounds.flatten).caller = .ended (.ofSummary format (o.report (echoOf o.asked))) := by
  induction rounds generalizing x e with
  | nil => exact .inl ⟨e, runs, Nat.min_le_left ..⟩
  | cons first rest ih =>
    obtain ⟨round, others⟩ := List.forall_mem_cons.mp fair
    have split : x.run s (first :: rest).flatten = (x.run s first).run s rest.flatten := by
      rw [List.flatten_cons, Conversation.run, List.foldl_append]
      rfl
    rw [split]
    obtain runs' | ended := runs.run valid answers first
    · have ahead : min (e.progress.total + 1) 7 ≤
          (e.run (echoWithin limit) s (roomsFor o) (first.map Move.exchanged)).progress.total := by
        -- The request was sent, so that sending does nothing more.
        have idle : e.move (echoWithin limit) s (roomsFor o) .send = e := by
          rw [runs.unhindered valid]
          simp only [Exchange.unhindered, Exchange.sendNext, runs.1.sent]
        have whole : Exchange.IsRound (.send :: first.map Move.exchanged) :=
          ⟨List.mem_cons_self, .tail _ (List.mem_map.mpr ⟨_, round.serves, rfl⟩), .tail _ (List.mem_map.mpr ⟨_, round.looks, rfl⟩)⟩
        obtain further | jammed := runs.2.round (admits_asked valid) answers (roomsFor o) whole
        · rwa [Exchange.run, List.foldl_cons, idle] at further
        · exact absurd jammed (runs.2.not_jammed (.inl (Nat.le_refl _)))
      obtain ⟨e', runs', further⟩ | ended := ih runs' others
      · refine .inl ⟨e', runs', ?_⟩
        rw [List.length_cons]
        omega
      · exact .inr ended
    · exact .inr (ended_stays ended rest.flatten)

/-- Seven rounds are enough, as the exchange would be complete without a reply that was received. -/
theorem Runs.ends (runs : Runs limit format o s x e) (answers : (echoWithin limit).Answers limit limit)
    {rounds : List (List Move)} (fair : ∀ round ∈ rounds, IsRound round) (enough : 7 ≤ rounds.length) :
    (x.run s rounds.flatten).caller = .ended (.ofSummary format (o.report (echoOf o.asked))) := by
  obtain ⟨e', ⟨same, orderly⟩, further⟩ | ended := runs.rounds valid answers fair
  -- Seven rounds complete the exchange, so a reply was taken; a caller that still waits has taken none.
  · have complete := (orderly.completes answers (roomsFor o) (by rw [List.length_singleton]; omega)).received
    rw [same.nothing, replies_asked valid] at complete
    cases complete
  · exact ended

end

/-- A call that has begun, to a server with nobody else. -/
theorem begins {server : Server} {host : Host} {l : ListenerId} (listens : server.Listens host l [])
    (phase : server.session.phase = .arriving) {t : Nat} (here : o.path = server.path)
    (timed : readDuration o.timeout = .ok t) (short : ∀ a ∈ o.args, a.IsShort) (small : o.asked.length ≤ defaultMaxFrameSize) :
    ∃ call begun e, o.begin host = (.ok call, begun) ∧
      Runs defaultMaxFrameSize format o ⟨host.links.length, true⟩ ⟨server, begun, .calling format o call⟩ e := by
  let s : SocketId := ⟨host.links.length, true⟩
  have valid := CallOptions.asked_passes small (by decide)
  obtain ⟨channel, between, after, begun, sent, joined⟩ := CallOptions.begin_sends (here ▸ listens.listens) timed short small
  obtain ⟨c, talks, buffer⟩ := joined.client
  -- Connecting adds a control of its own and leaves the server's as it was.
  have own : between.control server.session.channel.control = host.control server.session.channel.control :=
    joined.others _ listens.known
  have link : between.link s = (between.link s.peer).swap := Host.link_peer between s.peer
  have available : server.session.channel.Available between s := by
    refine ⟨joined.length ▸ Nat.lt_succ_self _, ?_, (congrArg Control.isRequested own).trans listens.unrequested, ?_⟩
    · rw [link]
      exact joined.fresh.calm.swap.steady
    · rw [listens.state]
      refine ⟨⟨[], joined.listens.backlog⟩, (congrArg Control.active own).trans listens.inactive, ?_⟩
      rw [listens.config]
      exact ⟨rfl, rfl⟩
  have limits : server.session.channel.writeLimit = defaultMaxFrameSize ∧ server.session.channel.readLimit = defaultMaxFrameSize := by
    rw [Channel.writeLimit, Channel.readLimit, Channel.connection?, listens.state]
    exact ⟨congrArg FrameConfig.maxSize listens.config, congrArg FrameConfig.maxSize listens.config⟩
  have orderly := Exchange.start_orderly (echoWithin defaultMaxFrameSize) () [o.asked] available (link ▸ joined.fresh.calm.swap)
    (by rw [Host.endpoint, link]; exact joined.fresh.far) joined.fresh.near talks.connected talks.socket buffer
  rw [talks.sends, talks.receives, limits.1, limits.2] at orderly
  obtain ⟨_, _, _, _, accounts⟩ := orderly
  obtain ⟨orderly, -⟩ := accounts.send (admits_asked valid) (roomsFor o)
  simp only [Exchange.unhindered, Exchange.sendNext, Exchange.start, sent] at orderly
  refine ⟨_, after, _, begun, ⟨rfl, listens.going, ⟨[], ?_⟩, rfl, rfl, rfl⟩, orderly⟩
  show Session.start server.session.channel ((), []) = _
  rw [Session.start, Session.recorded, phase]

end Conversation

/-- A server was started, and peers have come and gone; now it waits for the next, and that is a call. The request is built
of the encodings of the arguments. Whatever parts of the bytes are late and in whatever order the two go on, the call ends
with what it reports of a response that passes its check and returns the same bytes, or not at all; and it has ended after
seven rounds in which each side is once given all that was sent to it. It tells the bytes and the value of the kind that
was asked for, the first argument if the kind is its own, and fails only if they cannot be read so. -/
theorem Server.echoes_call {path : String} {once : Bool} {host listening : Host} {server : Server} (tidy : host.Tidy)
    (started : Server.start path once host = (.ok server, listening)) {streams : List Bytes} {visits : List Reception.Move}
    {x : Reception} (reached : (⟨server, listening, [], streams⟩ : Reception).run visits = x)
    (dismissed : x.visitors.all (·.isDismissed x.host)) (arriving : x.server.session.phase = .arriving)
    {o : CallOptions} (here : o.path = path) {t : Nat} (timed : readDuration o.timeout = .ok t)
    (short : ∀ a ∈ o.args, a.IsShort) (small : o.asked.length ≤ defaultMaxFrameSize) (format : Option OutputFormat) :
    let reply := Message.response o.callId o.payload
    o.request = .ok o.asked ∧ (∀ a ∈ o.args, a.encodable.toBytes = .ok a.encoding) ∧
      (∃ call begun, o.begin x.host = (.ok call, begun) ∧
        let start : Conversation := ⟨x.server, begun, .calling format o call⟩
        let s : SocketId := ⟨x.host.links.length, true⟩
        (∀ moves output, (start.run s moves).caller = .ended output → output = .ofSummary format (o.report reply)) ∧
          ∀ rounds : List (List Conversation.Move), (∀ round ∈ rounds, Conversation.IsRound round) → 7 ≤ rounds.length →
            (start.run s rounds.flatten).caller = .ended (.ofSummary format (o.report reply))) ∧
      checkReply o.asked reply = .ok () ∧ reply.returnValue = .ok o.payload ∧
      (∀ limit, o.asked.length ≤ limit → reply.length ≤ limit) ∧ o.report reply = o.echoed ∧
      (∀ first rest, o.args = first :: rest → decodeReturn first.kind reply = .ok first) ∧
      (Output.ofSummary format (o.report reply)).status =
        match o.returns with
        | none => successStatus
        | some kind =>
          match Argument.decodeFrom kind o.payload with
          | .ok _ => successStatus
          | .error _ => dataInvalidStatus := by
  intro reply
  have beginning := Reception.sound_start tidy started streams
  have sound := beginning.run visits
  have stays := beginning.run_path visits
  rw [reached] at sound stays
  obtain ⟨own, -⟩ := Server.start_listens tidy started
  have there : o.path = x.server.path := by rw [stays, here, own]
  have reported : o.report reply = o.echoed := o.report_echo
  obtain ⟨l, listens⟩ : ∃ l, x.server.Listens x.host l [] := by
    obtain ⟨idle, -⟩ := sound.idle dismissed
    cases idle with
    | fresh _ listens => exact ⟨_, listens⟩
    | parted phase | failed phase | ended phase => cases arriving.symm.trans phase
  have valid := CallOptions.asked_passes small (by decide)
  have answers : (echoWithin defaultMaxFrameSize).Answers defaultMaxFrameSize defaultMaxFrameSize :=
    echoWithin_answers (by decide) (by decide)
  refine ⟨CallOptions.request_eq short, fun a member => Argument.toBytes_encodable (short a member), ?_,
    checkReply_of_response rfl rfl, rfl, fun limit fits => ?_, reported, fun first rest args => ?_, ?_⟩
  · obtain ⟨call, begun, e, begins, runs⟩ := Conversation.begins listens arriving there timed short small
    refine ⟨call, begun, begins, fun moves output ended => ?_, fun rounds fair enough => runs.ends valid answers fair enough⟩
    obtain ⟨⟨waits, -⟩, -⟩ | echoed := runs.run valid answers moves
    · cases waits.symm.trans ended
    · cases echoed.symm.trans ended
      rfl
  · have shorter : reply.length + 12 = o.asked.length := @echoOf_length o.asked rfl
    omega
  · have decoded := Argument.decodeFrom_encoding (short first (args ▸ List.mem_cons_self)) (rest.flatMap Argument.encoding)
    rw [← List.flatMap_cons, ← args] at decoded
    exact congrArg (Except.mapError (Failure.undecodable "return value" first.kind)) decoded
  · rw [reported]
    exact o.status_echoed format

/-- A number and a text are echoed while bytes are late, and the number is asked for. -/
theorem Server.echoes_call_while_late :
    let o : CallOptions := ⟨"s", 1, 2, 7, [⟨.scalar .u16, 258⟩, ⟨.text, "a"⟩], some (.scalar .u16), "5s"⟩
    let listening : Host :=
      { listeners := [{ path := "s", inode := 1 }], files := [⟨["s"], 1, .socket, defaultSocketMode⟩], lastInode := 1
        controls := [{ listenPath := some "s" }] }
    let server : Server := ⟨"s", false, .start ⟨.listening 0 none, "s", {}, 0⟩ (), false, none⟩
    let rounds : List (List Conversation.Move) := List.replicate 7 [.serve 3, .look 2, .serve 0, .look 0]
    Host.Tidy {} ∧ Server.start "s" false {} = (.ok server, listening) ∧ readDuration o.timeout = .ok 5000 ∧
      (∀ a ∈ o.args, a.IsShort) ∧ o.asked.length ≤ defaultMaxFrameSize ∧
      ∃ call begun, o.begin listening = (.ok call, begun) ∧
        ((⟨server, begun, .calling none o call⟩ : Conversation).run ⟨0, true⟩ rounds.flatten).caller =
          .ended (.ofSummary none (.ok ⟨"response", 7, none, none, 7, "02010100000061", some "258", [2, 1, 1, 0, 0, 0, 97]⟩)) := by
  intro o listening server rounds
  have tidy : Host.Tidy {} := Tenure.isValid_start.tidy
  have started : Server.start "s" false {} = (.ok server, listening) := by cbv
  have timed : readDuration "5s" = .ok 5000 := by rfl
  have short : ∀ a ∈ o.args, a.IsShort := by
    refine List.forall_mem_cons.mpr ⟨?_, List.forall_mem_singleton.mpr ?_⟩
    · intro text same
      cases congrArg Argument.kind same
    · intro text same
      cases same
      decide
  have small : o.asked.length ≤ defaultMaxFrameSize := by cbv
  have fair : ∀ round ∈ rounds, Conversation.IsRound round := by
    intro round member
    obtain rfl := List.eq_of_mem_replicate member
    exact ⟨by simp, by simp⟩
  obtain ⟨-, -, ⟨call, begun, begins, -, ends⟩, -, -, -, reported, -, -⟩ :=
    Server.echoes_call tidy started (rfl : (⟨server, listening, [], []⟩ : Reception).run [] = _) rfl rfl rfl timed short small none
  have echoed : o.echoed = .ok ⟨"response", 7, none, none, 7, "02010100000061", some "258", [2, 1, 1, 0, 0, 0, 97]⟩ := by cbv
  refine ⟨tidy, started, timed, short, small, call, begun, begins, ?_⟩
  rw [← echoed, ← reported]
  exact ends rounds fair (by decide)

end CallWire
