import CallWire.Proofs.SessionEncounter

/-! The steps of a session, one phase after another. Each pays a part of what is owed, so that what was paid and
what is owed stay the same together. -/

namespace CallWire

namespace Encounter
variable {ρ : Type}

section
variable {handler : Handler ρ} {channel : Channel} {s : SocketId} {e : Encounter ρ} {service : Service ρ}

theorem Leads.of_step {pace : Pace} {session : Session (ρ × List Message)} {host : Host}
    (stepped : e.session.step handler.recording e.host = (pace, session, host))
    (leads : e.Leads handler channel s service pace { e with session, host }) :
    e.Leads handler channel s service (e.session.step handler.recording e.host).1 (e.move handler s .serve) := by
  unfold move
  rw [stepped]
  exact leads

theorem due_eq {later : Encounter ρ} (coming : later.coming s = e.coming s)
    (memory : later.session.memory = e.session.memory) (buffer : Bytes) :
    later.due handler channel s buffer = e.due handler channel s buffer := by
  unfold due
  rw [coming, memory]

theorem arriving_leads {l rest} (phase : e.session.phase = .arriving) (vacant : e.Vacant channel s l)
    (backlog : (e.host.listener l).backlog = s :: rest) :
    e.Leads handler channel s (e.due handler channel s []) (e.session.step handler.recording e.host).1
      (e.move handler s .serve) := by
  have stepped : e.session.step handler.recording e.host = (.moves, { e.session with phase := .attaching s },
      e.host.setListener l { e.host.listener l with backlog := rest }) := by
    simp only [Session.step, phase, Session.arrive, vacant.state, Host.accept, backlog]
  refine .of_step stepped ⟨.nothing ?_ rfl rfl rfl rfl, ?_⟩
  · exact .attaching rfl { vacant with }
  · intro ending
    simp only [Ending, phase] at ending
    refine ⟨ending, .inr ⟨rfl, ?_⟩⟩
    simp only [rank, phase]
    exact Nat.lt_succ_self _

theorem attaching_leads {l} (phase : e.session.phase = .attaching s) (vacant : e.Vacant channel s l)
    (inRange : s.connection < e.host.links.length) :
    e.Leads handler channel s (e.due handler channel s []) (e.session.step handler.recording e.host).1
      (e.move handler s .serve) := by
  obtain ⟨after, descriptors, attached, length, link, requested⟩ :=
    Connection.attach_ok inRange vacant.inactive vacant.patient.1 vacant.patient.2
  let c : Connection := ⟨s, { config := e.session.channel.config }, { config := e.session.channel.config }⟩
  have stepped : e.session.step handler.recording e.host =
      (.moves, { e.session with channel := e.session.channel.setConnection c, phase := .checking }, after) := by
    simp only [Session.step, phase, Session.attach, attached]
    rfl
  have own : e.session.channel.setConnection c = { e.session.channel with state := .listening l (some c) } := by
    simp only [Channel.setConnection, vacant.state]
  rw [own] at stepped
  have near : after.endpoint s = { e.host.endpoint s with
      descriptors, readTimeout := c.reader.config.readTimeout, writeTimeout := c.writer.config.writeTimeout } := by
    rw [Host.endpoint, link]
    rfl
  have far : (after.endpoint s.peer).inbox = (e.host.endpoint s.peer).inbox := by
    rw [Host.endpoint_peer, Host.endpoint_peer, link]
  have flows := vacant.toFlows
  -- Attaching sets the timeouts of the socket; no byte moves, so what is due is what it was.
  let later : Encounter ρ := { e with
    session := { e.session with
      channel := { e.session.channel with state := .listening l (some c) }, phase := .checking }
    host := after }
  have engaged : later.Engaged channel s c :=
    { steady := by
        show (after.link s).Steady
        rw [link]
        exact ⟨flows.steady.unreset, flows.steady.reads, flows.steady.writes, flows.steady.taken⟩
      whole := by
        intro ended
        rw [show later.host.endpoint s = _ from near] at ended
        exact flows.whole ended
      unrequested := requested.trans flows.unrequested
      role := by
        rw [← flows.role, vacant.state]
        rfl
      connected := rfl
      socket := rfl
      reading := vacant.reading
      writing := vacant.writing }
  have same : later.coming s = e.coming s := by
    unfold coming
    rw [show later.host.endpoint s = _ from near]
  have owes : later.Owes handler channel s (later.due handler channel s []) := .serving (by simp [later]) engaged
  rw [due_eq same rfl] at owes
  refine .of_step stepped ⟨.nothing owes length rfl rfl ?_, ?_⟩
  · unfold written
    rw [far]
  · intro ending
    simp only [Ending, phase] at ending
    refine ⟨?_, .inr ⟨rfl, ?_⟩⟩
    · show (after.endpoint s).isEnded = true
      rw [near]
      exact ending
    · simp only [rank, held, phase, vacant.state, Channel.connection?, Option.elim, near, c, List.length_nil]
      omega

/-- A phase closer to reading, and nothing else. -/
theorem Engaged.leads {c : Connection} {next : Phase} (engaged : e.Engaged channel s c)
    (serving : next = .checking ∨ next = .reading) (reads : e.Ending s → (e.host.endpoint s).isEnded = true)
    (closer : Encounter.rank s { e with session := { e.session with phase := next } } < e.rank s)
    (stepped : e.session.step handler.recording e.host = (.moves, { e.session with phase := next }, e.host)) :
    e.Leads handler channel s (e.due handler channel s c.reader.buffer) (e.session.step handler.recording e.host).1
      (e.move handler s .serve) := by
  refine .of_step stepped ⟨.nothing (.serving ?_ { engaged with }) rfl rfl rfl rfl, fun ending => ⟨?_, .inr ⟨rfl, closer⟩⟩⟩
  · rcases serving with rfl | rfl
    · simp
    · simp
  · rcases serving with rfl | rfl
    · exact reads ending
    · exact reads ending

theorem checking_leads {c} (phase : e.session.phase = .arriving ∨ e.session.phase = .checking)
    (engaged : e.Engaged channel s c) :
    e.Leads handler channel s (e.due handler channel s c.reader.buffer) (e.session.step handler.recording e.host).1
      (e.move handler s .serve) := by
  rcases phase with phase | phase
  · refine engaged.leads (.inl rfl) (by simp only [Ending, phase, imp_self]) ?_ ?_
    · simp only [rank, phase]
      exact Nat.add_lt_add_left (by decide) (e.held s)
    · rcases Channel.state_of_connection engaged.connected with state | ⟨l, state⟩
      · simp only [Session.step, phase, Session.arrive, state]
      · simp only [Session.step, phase, Session.arrive, state]
  · refine engaged.leads (.inr rfl) (by simp only [Ending, phase, imp_self]) ?_ ?_
    · simp only [rank, phase]
      exact Nat.add_lt_add_left (by decide) (e.held s)
    · simp only [Session.step, phase, engaged.unrequested, Bool.false_eq_true, if_false]

theorem parting_leads {c} (phase : e.session.phase ∈ [.leaving, .detaching])
    (connected : e.session.channel.connection? = some c)
    (unrequested : e.session.channel.shutdownHandle.isRequested e.host = false)
    (role : e.session.channel.state.vacated = channel.state.vacated) :
    e.Leads handler channel s ⟨e.session.memory.1, [], [], .ok ()⟩ (e.session.step handler.recording e.host).1
      (e.move handler s .serve) := by
  simp only [List.mem_cons, List.not_mem_nil, or_false] at phase
  rcases phase with phase | phase
  · have stepped : e.session.step handler.recording e.host =
        (.moves, { e.session with phase := .detaching }, e.host) := by
      simp only [Session.step, phase, unrequested, Bool.false_eq_true, if_false]
    refine .of_step stepped ⟨.nothing (.parting (by simp) connected unrequested role) rfl rfl rfl rfl, ?_⟩
    intro _
    exact ⟨trivial, .inr ⟨rfl, by simp [rank, phase]⟩⟩
  · obtain ⟨parted, after, detached, state, same⟩ : ∃ parted after, e.session.channel.detachPeer e.host = (parted, after) ∧
        parted = { e.session.channel with state := e.session.channel.state.vacated } ∧ e.host.SameInboxes after :=
      ⟨_, _, rfl, Channel.detachPeer_state .., Channel.detachPeer_sameInboxes ..⟩
    have stepped : e.session.step handler.recording e.host =
        (.moves, { e.session with channel := parted, phase := .finished (.ok ()) }, after) := by
      simp only [Session.step, phase, detached]
    have inactive := Channel.detachPeer_inactive connected e.host
    rw [detached] at inactive
    subst state
    refine .of_step stepped ⟨.nothing (.settled rfl role fun _ => inactive) same.length rfl rfl ?_, ?_⟩
    · unfold written
      rw [same.inbox]
    · intro _
      exact ⟨trivial, .inr ⟨rfl, by simp [rank, phase]⟩⟩

theorem failing_leads {error} (phase : e.session.phase = .failing error) (fatal : Channel.leavesOpen error = false) :
    e.Leads handler channel s ⟨e.session.memory.1, [], [], .error error⟩ (e.session.step handler.recording e.host).1
      (e.move handler s .serve) := by
  obtain ⟨closed, after, failed, state, same⟩ : ∃ closed after, e.session.channel.fail error e.host = (closed, after) ∧
      closed = { e.session.channel with state := .closed } ∧ e.host.SameInboxes after := by
    rw [Channel.fail_eq_close fatal]
    exact ⟨_, _, rfl, Channel.close_state .., Channel.close_sameInboxes ..⟩
  have stepped : e.session.step handler.recording e.host =
      (.moves, { e.session with channel := closed, phase := .finished (.error error) }, after) := by
    simp only [Session.step, phase, failed]
  subst state
  refine .of_step stepped ⟨.nothing (.settled rfl rfl nofun) same.length rfl rfl ?_, ?_⟩
  · unfold written
    rw [same.inbox]
  · intro _
    exact ⟨trivial, .inr ⟨rfl, by simp [rank, phase]⟩⟩

theorem settled_leads {result} (phase : e.session.phase = .finished result)
    (owes : e.Owes handler channel s service) :
    e.Leads handler channel s service (e.session.step handler.recording e.host).1 (e.move handler s .serve) := by
  have stepped : e.session.step handler.recording e.host = (.waits, e.session, e.host) := by
    simp only [Session.step, phase]
  refine .of_step stepped ⟨.nothing owes rfl rfl rfl rfl, ?_⟩
  intro ending
  exact ⟨ending, .inl (by simp [rank, phase])⟩

theorem leavesOpen_messageOfFrame {frame : Bytes} {error : ChannelError} (bad : messageOfFrame frame = .error error) :
    Channel.leavesOpen error = false := by
  unfold messageOfFrame at bad
  split at bad
  · cases bad
    rfl
  · split at bad
    · cases bad
      rfl
    · cases bad

theorem leavesOpen_decodeFrame {limit : Nat} {buffer : Bytes} {error : ChannelError}
    (bad : decodeFrame limit buffer = .error error) : Channel.leavesOpen error = false := by
  obtain ⟨n, rest, _, _, ⟨_, rfl⟩ | ⟨_, _, rfl⟩⟩ := decodeFrame_eq_error.mp bad
  · rfl
  · rfl

theorem leavesOpen_replyTo {limit : Nat} {request : Message} {actions : List HandlerAction} {error : ChannelError}
    (refused : replyTo limit request actions = .error error) : Channel.leavesOpen error = false := by
  unfold replyTo encodeMessage encodeFrame at refused
  split at refused
  · cases refused
    rfl
  · split at refused
    · cases refused
      rfl
    · split at refused
      · cases refused
      · cases refused
        rfl

def replied (s : SocketId) (memory : ρ × List Message) (turns : List WriteTurn) (reply : Message) (e : Encounter ρ) :
    Encounter ρ :=
  { e with
    session := { e.session with memory, phase := .checking }
    host := e.host.setLink s ((e.host.link s).written turns (frameOf reply.bytes)) }

section
variable {memory : ρ × List Message} {turns : List WriteTurn} {reply : Message}

theorem replied_endpoint (inRange : s.connection < e.host.links.length) :
    (e.replied s memory turns reply).host.endpoint s = { e.host.endpoint s with writeTurns := turns } := by
  unfold replied
  rw [Host.endpoint, Host.link_setLink inRange]
  rfl

theorem replied_written (inRange : s.connection < e.host.links.length) :
    (e.replied s memory turns reply).written s = e.written s ++ frameOf reply.bytes := by
  unfold written replied
  rw [Host.endpoint_peer, Host.endpoint_peer, Host.link_setLink inRange]
  exact (List.append_assoc ..).symm

theorem Engaged.replied {c : Connection} (engaged : e.Engaged channel s c)
    (inRange : s.connection < e.host.links.length) (benign : ∀ turn ∈ turns, WriteTurn.IsBenign turn) :
    (e.replied s memory turns reply).Engaged channel s c := by
  constructor
  · constructor
    · unfold Encounter.replied
      rw [Host.link_setLink inRange]
      exact engaged.steady.written benign _
    · rw [replied_endpoint inRange]
      exact engaged.whole
    · exact engaged.unrequested
    · exact engaged.role
  · exact engaged.connected
  · exact engaged.socket
  · exact engaged.reading
  · exact engaged.writing

end

/-- The encounter after a message was handed up and its reply, if there is one, was sent. -/
def served (handler : Handler ρ) (c : Connection) (m : Message) (e : Encounter ρ) : Encounter ρ :=
  let (session, host) := e.session.serve handler.recording c m e.host
  { e with session, host }

/-- Handing a message up pays for one frame. -/
theorem serve_pays {c : Connection} (engaged : e.Engaged channel s c) (inRange : s.connection < e.host.links.length)
    (obedient : ∀ memory m, .shutdown ∉ (handler memory m).2) {frame : Bytes} {m : Message}
    (valid : messageOfFrame frame = .ok m) {others : List Bytes × Except ChannelError Unit}
    (rest : framesOf channel.readLimit (c.reader.buffer ++ e.coming s) = others) :
    e.Pays handler channel s (serveFrames channel.writeLimit handler others.2 e.session.memory.1 (frame :: others.1))
      (e.served handler c m) ∧
    ((e.host.endpoint s).isEnded = true →
      (e.served handler c m).Ending s ∧ (e.served handler c m).rank s ≤ e.held s + 4) := by
  by_cases request : m.isRequest
  · have found : requestOf frame = .ok m := by simp only [requestOf, valid, request, if_true]
    cases handled : handler e.session.memory.1 m with
    | mk next actions =>
      have quiet := obedient e.session.memory.1 m
      rw [handled] at quiet
      have recorded : handler.recording e.session.memory m = ((next, e.session.memory.2 ++ [m]), actions) := by
        simp only [Handler.recording, handled]
      obtain rfl := engaged.socket
      simp only [serveFrames, found, handled, ← engaged.writing]
      unfold served
      -- The message is handed up before its reply is framed, so it counts even where the reply is refused.
      cases answer : replyTo c.writer.config.maxSize m actions with
      | error error =>
        have fatal := leavesOpen_replyTo answer
        rw [Session.serve_of_error inRange request recorded quiet answer]
        refine ⟨⟨rfl, rfl, [m], [], _, .failing rfl fatal, rfl, rfl, (List.append_nil _).symm, .inr ⟨rfl, Nat.zero_le _⟩⟩,
          fun _ => ⟨trivial, ?_⟩⟩
        exact Nat.le_add_left 1 (_ + 3)
      | ok reply =>
        obtain ⟨turns, benign, sent⟩ := Session.serve_of_ok engaged.steady request recorded quiet answer
        rw [sent]
        let later := e.replied c.socket (next, e.session.memory.2 ++ [m]) turns reply
        have near : later.host.endpoint c.socket = _ := replied_endpoint inRange
        have owes : later.Owes handler channel c.socket (later.due handler channel c.socket c.reader.buffer) :=
          .serving (by simp [later, replied]) (engaged.replied inRange benign)
        have coming : later.coming c.socket = e.coming c.socket := by
          unfold Encounter.coming
          rw [near]
          rfl
        have held : later.held c.socket = e.held c.socket := by
          unfold Encounter.held
          rw [near]
          rfl
        refine ⟨⟨Host.setLink_length .., rfl, [m], [reply], _, owes, ?_, rfl, ?_, .inl rfl⟩, fun ended => ⟨?_, ?_⟩⟩
        · rw [due, coming, rest, engaged.writing]
          rfl
        · rw [List.flatMap_cons, List.flatMap_nil, List.append_nil]
          exact replied_written inRange
        · show (later.host.endpoint c.socket).isEnded = true
          rw [near]
          exact ended
        · exact Nat.le_of_eq (congrArg (· + 4) held)
  -- No handler is asked about a message that is not a request; the session fails on it.
  · have found : requestOf frame = .error (.unexpectedType .request .response) := by
      simp only [requestOf, valid, request, if_false, Bool.false_eq_true]
    rw [serveFrames, found]
    unfold served
    rw [Session.serve_of_other request]
    refine ⟨.nothing (.failing rfl rfl) rfl rfl rfl rfl, fun _ => ⟨trivial, ?_⟩⟩
    exact Nat.le_add_left 1 (_ + 3)

/-- The encounter after the session read from its socket. -/
def took (s : SocketId) (c : Connection) (content : Bytes) (turns : List ReadTurn) (e : Encounter ρ) : Encounter ρ :=
  { e with
    session := { e.session with channel := e.session.channel.setConnection c }
    host := e.host.setEndpoint s { e.host.endpoint s with inbox := content, readTurns := turns } }

/-- How a session goes on from what it read. -/
def heed (handler : Handler ρ) (c : Connection) (e : Encounter ρ) :
    Outcome (Option Message) → Pace × Session (ρ × List Message) × Host
  | .waiting => (.waits, e.session, e.host)
  | .done (.error error) => (.moves, { e.session with phase := .failing error }, e.host)
  | .done (.ok none) => (.moves, { e.session with phase := .leaving }, e.host)
  | .done (.ok (some m)) => (.moves, e.session.serve handler.recording c m e.host)

section
variable {c next : Connection} {content : Bytes} {turns : List ReadTurn}

theorem took_endpoint (inRange : s.connection < e.host.links.length) :
    (e.took s next content turns).host.endpoint s =
      { e.host.endpoint s with inbox := content, readTurns := turns } := by
  unfold took Host.setEndpoint Host.onLink
  rw [Host.endpoint, Host.link_setLink inRange]

theorem took_written (inRange : s.connection < e.host.links.length) :
    (e.took s next content turns).written s = e.written s := by
  unfold written took Host.setEndpoint Host.onLink
  rw [Host.endpoint_peer, Host.endpoint_peer, Host.link_setLink inRange]

theorem Engaged.took (engaged : e.Engaged channel s c) (inRange : s.connection < e.host.links.length)
    (socket : next.socket = c.socket) (config : next.reader.config = c.reader.config) (writer : next.writer = c.writer)
    (benign : ∀ turn ∈ turns, ReadTurn.IsBenign turn) :
    (e.took s next content turns).Engaged channel s next := by
  obtain ⟨state, own, role, connected⟩ := Channel.setConnection_of_connection engaged.connected next
  constructor
  · constructor
    · unfold Encounter.took Host.setEndpoint Host.onLink
      rw [Host.link_setLink inRange]
      exact ⟨engaged.steady.unreset, benign, engaged.steady.writes, engaged.steady.taken⟩
    · rw [took_endpoint inRange]
      exact engaged.whole
    · show (e.session.channel.setConnection next).shutdownHandle.isRequested e.host = false
      rw [own]
      exact engaged.unrequested
    · show (e.session.channel.setConnection next).state.vacated = channel.state.vacated
      rw [own]
      exact role.trans engaged.role
  · exact connected
  · exact socket.trans engaged.socket
  · rw [config]
    exact engaged.reading
  · rw [writer]
    exact engaged.writing

/-- What is paid after reading is paid. -/
theorem Pays.of_took {later : Encounter ρ} (engaged : e.Engaged channel s c)
    (inRange : s.connection < e.host.links.length)
    (pays : (e.took s next content turns).Pays handler channel s service later) :
    e.Pays handler channel s service later := by
  obtain ⟨state, own, _, _⟩ := Channel.setConnection_of_connection engaged.connected next
  obtain ⟨length, kin, asked, replied, rest, owes, split, memory, written, paired⟩ := pays
  refine ⟨length.trans (Host.setLink_length ..), ?_, asked, replied, rest, owes, split, memory, ?_, paired⟩
  · rw [kin, show (e.took s next content turns).session.channel = _ from own]
  · rw [written, took_written inRange]

theorem reading_step (phase : e.session.phase = .reading) (engaged : e.Engaged channel s c)
    {outcome : Outcome (Option Message)}
    (read : c.readMessage e.host = (outcome, next, (e.took s next content turns).host)) :
    e.session.step handler.recording e.host = (e.took s next content turns).heed handler next outcome := by
  obtain ⟨⟨own, memory, _⟩, host, unsent, received⟩ := e
  cases phase
  have established : own.established = .ok c := Channel.established_of_connection engaged.connected
  simp only [Session.step, established, Session.readNext, read]
  rcases outcome with (_ | _ | _) | _
  all_goals rfl

/-- What the reader holds and what has come are one input, and the session has read it as far as it could: the answer
is that to all of the input, and what the answer leaves over is in the reader or still at the socket. -/
structure Reads (channel : Channel) (s : SocketId) (c : Connection) (input : Bytes) (next : Connection) (content : Bytes)
    (turns : List ReadTurn) (e : Encounter ρ) : Prop where
  phase : e.session.phase = .reading
  engaged : e.Engaged channel s c
  inRange : s.connection < e.host.links.length
  gathered : c.reader.buffer ++ (e.host.endpoint s).inbox = input
  after : (e.took s next content turns).Engaged channel s next
  remains : next.reader.buffer ++ content =
    (FrameReader.answer channel.readLimit (e.host.endpoint s).ending input).2
  answered : c.readMessage e.host =
    (Connection.messageIn (FrameReader.answer channel.readLimit (e.host.endpoint s).ending input).1, next,
      (e.took s next content turns).host)

theorem Engaged.reads (engaged : e.Engaged channel s c) (phase : e.session.phase = .reading)
    (inRange : s.connection < e.host.links.length) :
    ∃ input next content turns, e.Reads channel s c input next content turns := by
  obtain rfl := engaged.socket
  obtain ⟨reader, content, turns, benign, config, remains, -, read⟩ := c.readMessage_answered engaged.steady
  rw [engaged.reading] at remains read
  exact ⟨_, { c with reader }, content, turns, phase, engaged, inRange, rfl, engaged.took inRange rfl config rfl benign,
    remains, read⟩

namespace Reads
variable {input : Bytes} (reads : e.Reads channel s c input next content turns)
include reads

theorem due_eq {frames : List Bytes × Except ChannelError Unit}
    (found : framesOf channel.readLimit (input ++ e.unsent) = frames) :
    e.due handler channel s c.reader.buffer =
      serveFrames channel.writeLimit handler frames.2 e.session.memory.1 frames.1 := by
  unfold due coming
  rw [← List.append_assoc, reads.gathered, found]

theorem coming_eq : next.reader.buffer ++ (e.took s next content turns).coming s =
    (FrameReader.answer channel.readLimit (e.host.endpoint s).ending input).2 ++ e.unsent := by
  unfold coming
  rw [took_endpoint reads.inRange, ← reads.remains, List.append_assoc]
  rfl

theorem held_eq : e.held s = input.length := by
  unfold held
  rw [reads.engaged.connected, ← reads.gathered, List.length_append]
  rfl

theorem took_held : (e.took s next content turns).held s =
    (FrameReader.answer channel.readLimit (e.host.endpoint s).ending input).2.length := by
  unfold held
  rw [reads.after.connected, took_endpoint reads.inRange, ← reads.remains, List.length_append]
  rfl

theorem stepped {expected : Outcome (Option Bytes)}
    (answer : (FrameReader.answer channel.readLimit (e.host.endpoint s).ending input).1 = expected) :
    e.session.step handler.recording e.host =
      (e.took s next content turns).heed handler next (Connection.messageIn expected) := by
  rw [← answer]
  exact reading_step reads.phase reads.engaged reads.answered

/-- A session that reads no more after this answer. -/
theorem stop {last : Phase} (stops : last = .leaving ∨ ∃ error, last = .failing error)
    (stepped : e.session.step handler.recording e.host = (.moves,
      { (e.took s next content turns).session with phase := last }, (e.took s next content turns).host))
    (owes : Owes handler channel s { e.took s next content turns with
      session := { (e.took s next content turns).session with phase := last } } service) :
    e.Leads handler channel s service (e.session.step handler.recording e.host).1 (e.move handler s .serve) := by
  refine .of_step stepped ⟨.of_took reads.engaged reads.inRange (.nothing owes rfl rfl rfl rfl), fun _ => ?_⟩
  rcases stops with rfl | ⟨error, rfl⟩
  · exact ⟨trivial, .inr ⟨rfl, by simp [rank, reads.phase]⟩⟩
  · exact ⟨trivial, .inr ⟨rfl, by simp [rank, reads.phase]⟩⟩

theorem leads_refused {error} (decoded : decodeFrame channel.readLimit input = .error error) :
    e.Leads handler channel s (e.due handler channel s c.reader.buffer) (e.session.step handler.recording e.host).1
      (e.move handler s .serve) := by
  have answer : (FrameReader.answer channel.readLimit (e.host.endpoint s).ending input).1 = .done (.error error) := by
    rw [FrameReader.answer, decoded]
  rw [reads.due_eq (framesOf_error (decodeFrame_append_error decoded _))]
  exact reads.stop (.inr ⟨error, rfl⟩) (reads.stepped answer) (.failing rfl (leavesOpen_decodeFrame decoded))

/-- Nothing more is to come behind the end of the stream. -/
theorem leads_ended (decoded : decodeFrame channel.readLimit input = .ok none)
    (ended : (e.host.endpoint s).isEnded = true) :
    e.Leads handler channel s (e.due handler channel s c.reader.buffer) (e.session.step handler.recording e.host).1
      (e.move handler s .serve) := by
  have atEnd : (e.host.endpoint s).ending = .received [] := if_pos ended
  have answer : (FrameReader.answer channel.readLimit (e.host.endpoint s).ending input).1 =
      if input.isEmpty then .done (.ok none) else .done (.error .connectionClosed) := by
    rw [FrameReader.answer, decoded, atEnd]
    rfl
  have frames : framesOf channel.readLimit (input ++ e.unsent) =
      ([], if input.isEmpty then .ok () else .error .connectionClosed) := by
    rw [reads.engaged.whole ended, List.append_nil, framesOf_none decoded]
  rw [reads.due_eq frames]
  by_cases empty : input.isEmpty = true
  · rw [if_pos empty] at answer ⊢
    refine reads.stop (.inl rfl) (reads.stepped answer) ?_
    exact .parting (by simp) reads.after.connected reads.after.unrequested reads.after.role
  · rw [if_neg empty] at answer ⊢
    exact reads.stop (.inr ⟨.connectionClosed, rfl⟩) (reads.stepped answer)
      (.failing rfl rfl)

theorem leads_waiting (decoded : decodeFrame channel.readLimit input = .ok none)
    (going : ¬ (e.host.endpoint s).isEnded = true) :
    e.Leads handler channel s (e.due handler channel s c.reader.buffer) (e.session.step handler.recording e.host).1
      (e.move handler s .serve) := by
  have atEnd : (e.host.endpoint s).ending = .waiting := if_neg going
  have answer : FrameReader.answer channel.readLimit (e.host.endpoint s).ending input = (.waiting, input) := by
    rw [FrameReader.answer, decoded, atEnd]
    rfl
  have owes : (e.took s next content turns).Owes handler channel s
      ((e.took s next content turns).due handler channel s next.reader.buffer) :=
    .serving (by simp [took, reads.phase]) reads.after
  have same : (e.took s next content turns).due handler channel s next.reader.buffer =
      e.due handler channel s c.reader.buffer := by
    rw [reads.due_eq rfl, due, reads.coming_eq, answer]
    rfl
  rw [same] at owes
  have waits : e.session.step handler.recording e.host = (e.took s next content turns).heed handler next .waiting :=
    reads.stepped (congrArg Prod.fst answer)
  refine .of_step waits ⟨.of_took reads.engaged reads.inRange (.nothing owes rfl rfl rfl rfl), fun ending => ?_⟩
  simp only [Ending, reads.phase] at ending
  exact absurd ending going

theorem leads_handing (obedient : ∀ memory m, .shutdown ∉ (handler memory m).2) {frame rest : Bytes}
    (decoded : decodeFrame channel.readLimit input = .ok (some (frame, rest))) :
    e.Leads handler channel s (e.due handler channel s c.reader.buffer) (e.session.step handler.recording e.host).1
      (e.move handler s .serve) := by
  have answer : FrameReader.answer channel.readLimit (e.host.endpoint s).ending input = (.done (.ok (some frame)), rest) := by
    rw [FrameReader.answer, decoded]
  have hands : e.session.step handler.recording e.host =
      (e.took s next content turns).heed handler next (.done ((messageOfFrame frame).map some)) :=
    reads.stepped (congrArg Prod.fst answer)
  rw [reads.due_eq (framesOf_some (decodeFrame_append_some decoded _))]
  cases parsed : messageOfFrame frame with
  | error error =>
    rw [parsed] at hands
    simp only [serveFrames, requestOf, parsed]
    exact reads.stop (.inr ⟨error, rfl⟩) hands (.failing rfl (leavesOpen_messageOfFrame parsed))
  | ok m =>
    rw [parsed] at hands
    have within : s.connection < (e.took s next content turns).host.links.length := by
      rw [show (e.took s next content turns).host.links.length = _ from Host.setLink_length ..]
      exact reads.inRange
    have others : framesOf channel.readLimit (next.reader.buffer ++ (e.took s next content turns).coming s) =
        framesOf channel.readLimit (rest ++ e.unsent) := by
      rw [reads.coming_eq, answer]
    obtain ⟨pays, near⟩ := serve_pays reads.after within obedient parsed others
    refine .of_step hands ⟨.of_took reads.engaged reads.inRange pays, fun ending => ?_⟩
    simp only [Ending, reads.phase] at ending
    rw [took_endpoint reads.inRange] at near
    obtain ⟨ends, bound⟩ := near ending
    have shorter := decodeFrame_shrinks decoded
    refine ⟨ends, .inr ⟨rfl, Nat.lt_of_le_of_lt bound ?_⟩⟩
    rw [reads.took_held, answer]
    simp only [rank, reads.phase, reads.held_eq]
    omega

end Reads

theorem reading_leads (phase : e.session.phase = .reading) (engaged : e.Engaged channel s c)
    (inRange : s.connection < e.host.links.length) (obedient : ∀ memory m, .shutdown ∉ (handler memory m).2) :
    e.Leads handler channel s (e.due handler channel s c.reader.buffer) (e.session.step handler.recording e.host).1
      (e.move handler s .serve) := by
  obtain ⟨input, next, content, turns, reads⟩ := engaged.reads phase inRange
  cases decoded : decodeFrame channel.readLimit input with
  | error error => exact reads.leads_refused decoded
  | ok found =>
    rcases found with _ | ⟨frame, rest⟩
    -- Without a complete frame only the end of the stream decides.
    · by_cases ended : (e.host.endpoint s).isEnded = true
      · exact reads.leads_ended decoded ended
      · exact reads.leads_waiting decoded ended
    · exact reads.leads_handing obedient decoded

end

end

section
variable {handler : Handler ρ} {channel : Channel} {s : SocketId} {e : Encounter ρ} {service : Service ρ}

theorem Owes.leads (owes : e.Owes handler channel s service) (inRange : s.connection < e.host.links.length)
    (obedient : ∀ memory m, .shutdown ∉ (handler memory m).2) :
    e.Leads handler channel s service (e.session.step handler.recording e.host).1 (e.move handler s .serve) := by
  have owed := owes
  cases owes with
  | arriving phase vacant backlog => exact arriving_leads phase vacant backlog
  | attaching phase vacant => exact attaching_leads phase vacant inRange
  | serving phase engaged =>
    simp only [List.mem_cons, List.not_mem_nil, or_false] at phase
    rcases phase with phase | phase | phase
    · exact checking_leads (.inl phase) engaged
    · exact checking_leads (.inr phase) engaged
    · exact reading_leads phase engaged inRange obedient
  | parting phase connected unrequested role => exact parting_leads phase connected unrequested role
  | failing phase fatal => exact failing_leads phase fatal
  | settled phase => exact settled_leads phase owed

end

end Encounter
end CallWire
