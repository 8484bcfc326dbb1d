import CallWire.Proofs.SessionSteps

/-! The accept loop as a whole. However the moves of session and peer fall, what was paid is the front of the
service due to the stream, and a session whose stream has ended pays the rest and comes to an end. -/

namespace CallWire

namespace Encounter
variable {ρ : Type} {handler : Handler ρ} {channel : Channel} {s : SocketId} {e : Encounter ρ} {service : Service ρ}

/-- The peer did something, which touches neither what the session owes nor what it wrote. -/
structure Aside (s : SocketId) (e later : Encounter ρ) : Prop where
  session : later.session = e.session
  host : ∃ link, later.host = e.host.setLink s link
  steady : (e.host.link s).Steady → (later.host.link s).Steady
  coming : later.coming s = e.coming s
  whole : ((e.host.endpoint s).isEnded = true → e.unsent = []) →
    (later.host.endpoint s).isEnded = true → later.unsent = []
  written : later.written s = e.written s

theorem Aside.of_link {link : Link} {unsent received : Bytes} (inRange : s.connection < e.host.links.length)
    (steady : (e.host.link s).Steady → link.Steady)
    (coming : link.near.inbox ++ unsent = (e.host.link s).near.inbox ++ e.unsent)
    (whole : ((e.host.link s).near.isEnded = true → e.unsent = []) → link.near.isEnded = true → unsent = [])
    (written : received ++ link.far.inbox = e.received ++ (e.host.link s).far.inbox) :
    e.Aside s { e with host := e.host.setLink s link, unsent, received } := by
  have moved : (e.host.setLink s link).link s = link := Host.link_setLink inRange
  constructor
  · rfl
  · exact ⟨link, rfl⟩
  · rwa [moved]
  · unfold Encounter.coming
    rwa [Host.endpoint, moved]
  · show _ → ((e.host.setLink s link).link s).near.isEnded = true → unsent = []
    rwa [moved]
  · unfold Encounter.written
    rwa [Host.endpoint_peer, Host.endpoint_peer, moved]

theorem send_aside (inRange : s.connection < e.host.links.length) (count : Nat) :
    e.Aside s (e.move handler s (.send count)) := by
  simp only [move, Host.setLink_peer, Host.link_peer]
  rcases (e.host.link s).swap.write_cases (e.unsent.take count) with
    ⟨error, turns, _, failed⟩ | ⟨_, failed⟩ | ⟨moved, rest, split, ended, accepted, _⟩
  · rw [failed]
    refine .of_link inRange (fun steady => ?_) ?_ id rfl
    · exact ⟨steady.unreset, steady.reads, steady.writes, steady.taken⟩
    · simp [Link.written, Link.swap]
  · rw [failed]
    exact .of_link inRange id rfl id rfl
  · rw [accepted]
    have front : moved <+: e.unsent := List.IsPrefix.trans ⟨rest, split.symm⟩ (List.take_prefix ..)
    have remains : moved ++ e.unsent.drop moved.length = e.unsent := List.prefix_iff_eq_append.mp front
    refine .of_link inRange (fun steady => ?_) ?_ (fun _ later => ?_) rfl
    · exact ⟨steady.unreset, steady.reads, steady.writes, steady.taken⟩
    · simp [Link.written, Link.swap, remains]
    · exact absurd (later.symm.trans ended) (by decide)

theorem finish_aside (inRange : s.connection < e.host.links.length) : e.Aside s (e.move handler s .finish) := by
  simp only [move, Host.shutdown, Host.onLink, Host.setLink_peer, Host.link_peer]
  split
  · rename_i all
    refine .of_link inRange (fun steady => ?_) rfl (fun _ _ => List.isEmpty_iff.mp all) rfl
    exact ⟨steady.unreset, steady.reads, steady.writes, by simpa [Link.shutdown, Link.swap] using steady.taken⟩
  · exact ⟨rfl, ⟨_, (Host.setLink_link inRange).symm⟩, id, rfl, id, rfl⟩

theorem receive_aside (inRange : s.connection < e.host.links.length) (limit : Nat) :
    e.Aside s (e.move handler s (.receive limit)) := by
  obtain ⟨conserved, ended⟩ := Endpoint.read_conserves limit (e.host.link s).far
  simp only [move, Host.setEndpoint, Host.onLink, Host.setLink_peer, Host.endpoint_peer, Host.link_peer]
  refine .of_link inRange (fun steady => ?_) rfl id ?_
  · exact ⟨steady.unreset, steady.reads, steady.writes, ended.trans steady.taken⟩
  · rw [List.append_assoc]
    exact congrArg _ conserved

theorem Aside.flows {later : Encounter ρ} (aside : e.Aside s later) (flows : e.Flows channel s) :
    later.Flows channel s := by
  obtain ⟨link, host⟩ := aside.host
  constructor
  · exact aside.steady flows.steady
  · exact aside.whole flows.whole
  · rw [aside.session, host]
    exact flows.unrequested
  · rw [aside.session]
    exact flows.role

theorem Aside.vacant {later : Encounter ρ} {l : ListenerId} (aside : e.Aside s later) (vacant : e.Vacant channel s l) :
    later.Vacant channel s l := by
  obtain ⟨link, host⟩ := aside.host
  obtain ⟨flows, state, inactive, patient, reading, writing⟩ := vacant
  have own := aside.session
  exact ⟨aside.flows flows, own ▸ state, by rw [own, host]; exact inactive, own ▸ patient, own ▸ reading, own ▸ writing⟩

theorem Owes.aside {later : Encounter ρ} (owes : e.Owes handler channel s service) (aside : e.Aside s later) :
    later.Owes handler channel s service := by
  have own := aside.session
  obtain ⟨link, host⟩ := aside.host
  have due (buffer : Bytes) : later.due handler channel s buffer = e.due handler channel s buffer :=
    due_eq aside.coming (congrArg _ own) buffer
  cases owes with
  | arriving phase vacant backlog =>
    rw [← due]
    exact .arriving (own ▸ phase) (aside.vacant vacant) (by rw [host]; exact backlog)
  | attaching phase vacant =>
    rw [← due]
    exact .attaching (own ▸ phase) (aside.vacant vacant)
  | serving phase engaged =>
    obtain ⟨flows, connected, socket, reading, writing⟩ := engaged
    rw [← due]
    exact .serving (own ▸ phase) ⟨aside.flows flows, own ▸ connected, socket, reading, writing⟩
  | parting phase connected unrequested role =>
    rw [← own]
    exact .parting (own ▸ phase) (own ▸ connected) (by rw [own, host]; exact unrequested) (own ▸ role)
  | failing phase fatal =>
    rw [← own]
    exact .failing (own ▸ phase) fatal
  | settled phase state inactive =>
    rw [← own]
    exact .settled (own ▸ phase) (own ▸ state) (by rw [own, host]; exact inactive)

/-- What was paid so far and what is still owed make up the service in all. -/
structure Faithful (handler : Handler ρ) (channel : Channel) (s : SocketId) (total : Service ρ) (before : Bytes)
    (e : Encounter ρ) : Prop where
  inRange : s.connection < e.host.links.length
  kin : e.session.channel = { channel with state := e.session.channel.state }
  owed : ∃ replied service, e.Owes handler channel s service ∧ total = service.after e.session.memory.2 replied ∧
    e.written s = before ++ replied.flatMap (fun m => frameOf m.bytes) ∧
    (e.session.memory.2.length = replied.length ∨ service.replies = [] ∧ replied.length ≤ e.session.memory.2.length)

section
variable {total : Service ρ} {before : Bytes}

theorem Faithful.pay {later : Encounter ρ} (faithful : e.Faithful handler channel s total before)
    (pays : ∀ service, e.Owes handler channel s service → e.Pays handler channel s service later) :
    later.Faithful handler channel s total before := by
  obtain ⟨inRange, kin, replied, service, owes, rfl, written, paired⟩ := faithful
  obtain ⟨length, kin', asked, answers, rest, owes', rfl, memory, written', paired'⟩ := pays service owes
  refine ⟨?_, ?_, replied ++ answers, rest, owes', ?_, ?_, ?_⟩
  · rw [length]
    exact inRange
  · rw [kin', kin]
  · rw [memory, Service.after_after]
  · rw [written', written, List.flatMap_append, List.append_assoc]
  · rw [memory, List.length_append, List.length_append]
    rcases paired with same | ⟨none, atMost⟩
    · rcases paired' with same' | ⟨none, atMost⟩
      · left
        omega
      · right
        exact ⟨none, by omega⟩
    · obtain ⟨rfl, none⟩ := List.append_eq_nil_iff.mp none
      right
      refine ⟨none, ?_⟩
      rw [List.length_nil]
      omega

theorem Faithful.move (faithful : e.Faithful handler channel s total before)
    (obedient : ∀ memory m, .shutdown ∉ (handler memory m).2) (m : Move) :
    (e.move handler s m).Faithful handler channel s total before := by
  have aside (peer : e.Aside s (e.move handler s m)) : (e.move handler s m).Faithful handler channel s total before := by
    refine faithful.pay fun service owes => .nothing (owes.aside peer) ?_ ?_ ?_ peer.written
    · obtain ⟨link, host⟩ := peer.host
      rw [host, Host.setLink_length]
    · rw [peer.session]
    · rw [peer.session]
  cases m with
  | serve => exact faithful.pay fun service owes => (owes.leads faithful.inRange obedient).toPays
  | send count => exact aside (send_aside faithful.inRange count)
  | finish => exact aside (finish_aside faithful.inRange)
  | receive limit => exact aside (receive_aside faithful.inRange limit)

theorem Faithful.run (faithful : e.Faithful handler channel s total before)
    (obedient : ∀ memory m, .shutdown ∉ (handler memory m).2) (moves : List Move) :
    (e.run handler s moves).Faithful handler channel s total before := by
  induction moves generalizing e with
  | nil => exact faithful
  | cons m rest ih => exact ih (faithful.move obedient m)

theorem finished_of_rank (zero : e.rank s = 0) : ∃ result, e.session.phase = .finished result := by
  unfold rank at zero
  split at zero
  all_goals first | omega | exact ⟨_, by assumption⟩

/-- The induction is on the steps allowed; each one lowers the rank of an encounter whose stream has ended. -/
theorem Faithful.advance (faithful : e.Faithful handler channel s total before)
    (obedient : ∀ memory m, .shutdown ∉ (handler memory m).2) (ending : e.Ending s) (steps : Nat)
    (enough : e.rank s ≤ steps) :
    ∃ session host, Session.advance handler.recording steps e.session e.host = (session, host) ∧
      Faithful handler channel s total before { e with session, host } ∧ rank s { e with session, host } = 0 := by
  induction steps generalizing e with
  | zero => exact ⟨e.session, e.host, rfl, faithful, Nat.le_zero.mp enough⟩
  | succ steps ih =>
    obtain ⟨replied, service, owes, _⟩ := faithful.owed
    obtain ⟨ends, progress⟩ := (owes.leads faithful.inRange obedient).progress ending
    have kept := faithful.move obedient .serve
    rcases progress with zero | ⟨pace, lower⟩
    · obtain ⟨result, phase⟩ := finished_of_rank zero
      refine ⟨e.session, e.host, ?_, faithful, zero⟩
      simp only [Session.advance, Session.step, phase]
    · obtain ⟨session, host, advanced, rest⟩ := ih kept ends (by omega)
      refine ⟨session, host, ?_, rest⟩
      rw [← advanced, Session.advance]
      generalize stepped : e.session.step handler.recording e.host = after at pace
      obtain ⟨own, session', host'⟩ := after
      obtain rfl : own = .moves := pace
      simp only [Encounter.move, stepped]

theorem rank_le_stepBound (inRange : s.connection < e.host.links.length) :
    e.rank s ≤ e.session.stepBound e.host := by
  have inbox : (e.host.endpoint s).inbox.length ≤ e.host.inFlight := Host.inbox_le_inFlight inRange
  have bound : e.rank s ≤ e.held s + 6 := by
    unfold rank
    split
    all_goals omega
  unfold held at bound
  unfold Session.stepBound
  simp only
  omega

/-- A session that is over has paid all. -/
structure Concluded (channel : Channel) (s : SocketId) (service : Service ρ) (before received : Bytes)
    (result : Outcome Unit × Session (ρ × List Message) × Host) : Prop where
  outcome : result.1 = .done service.result
  memory : result.2.1.memory = (service.memory, service.requests)
  state : result.2.1.channel = { channel with state := channel.state.afterSession service.result }
  inactive : service.result = .ok () → (result.2.2.control channel.control).active = none
  written : received ++ (result.2.2.endpoint s.peer).inbox =
    before ++ service.replies.flatMap fun m => frameOf m.bytes

theorem Owes.of_finished {result : Except ChannelError Unit} (owes : e.Owes handler channel s service)
    (phase : e.session.phase = .finished result) :
    service = ⟨e.session.memory.1, [], [], result⟩ ∧ e.session.channel.state = channel.state.afterSession result ∧
      (result = .ok () → (e.host.control e.session.channel.control).active = none) := by
  cases owes with
  | settled own state inactive =>
    cases phase.symm.trans own
    exact ⟨rfl, state, inactive⟩
  | arriving own | attaching own | failing own => cases phase.symm.trans own
  | serving own | parting own => simp [phase] at own

theorem Faithful.concludes (faithful : e.Faithful handler channel s total before)
    (obedient : ∀ memory m, .shutdown ∉ (handler memory m).2) (ended : (e.host.endpoint s).isEnded = true) :
    Concluded channel s total before e.received (e.session.run handler.recording e.host) := by
  have ending : e.Ending s := by
    unfold Ending
    split
    all_goals first | exact ended | trivial
  obtain ⟨session, host, advanced, kept, zero⟩ :=
    faithful.advance obedient ending _ (rank_le_stepBound faithful.inRange)
  obtain ⟨result, phase⟩ := finished_of_rank zero
  obtain ⟨_, kin, replied, service, owes, rfl, written, _⟩ := kept
  obtain ⟨rfl, state, inactive⟩ := owes.of_finished phase
  have done : e.session.run handler.recording e.host = (.done result, session, host) := by
    unfold Session.run
    rw [advanced]
    simp only
    rw [show session.phase = _ from phase]
  rw [kin] at inactive
  rw [state] at kin
  rw [done]
  constructor
  · rfl
  · simp [Service.after]
  · exact kin
  · exact inactive
  · simp only [Service.after, List.append_nil]
    exact written

theorem Faithful.paid (faithful : e.Faithful handler channel s total before) :
    e.session.memory.2 <+: total.requests ∧ e.written s =
      before ++ (total.replies.take e.session.memory.2.length).flatMap fun m => frameOf m.bytes := by
  obtain ⟨_, _, replied, service, _, rfl, written, paired⟩ := faithful
  refine ⟨List.prefix_append .., ?_⟩
  rw [written]
  rcases paired with same | ⟨none, atMost⟩
  · simp [Service.after, same]
  · simp [Service.after, none, List.take_of_length_le atMost]

theorem faithful_start (handler : Handler ρ) {host : Host} (available : channel.Available host s) (memory : ρ) {unsent : Bytes}
    (whole : (host.endpoint s).isEnded = true → unsent = []) :
    (start channel memory host unsent).Faithful handler channel s
      ((start channel memory host unsent).due handler channel s []) (host.endpoint s.peer).inbox := by
  let e := start channel memory host unsent
  have flows : e.Flows channel s := ⟨available.steady, whole, available.unrequested, rfl⟩
  refine ⟨available.inRange, rfl, [], _, ?_, rfl, (List.append_nil _).symm, .inl rfl⟩
  have peer := available.peer
  have serving {c : Connection} (connected : channel.connection? = some c) (socket : c.socket = s)
      (empty : c.reader.buffer = []) : e.Owes handler channel s (e.due handler channel s []) := by
    have reading : c.reader.config.maxSize = channel.readLimit := by
      rw [Channel.readLimit, connected]
      rfl
    have writing : c.writer.config.maxSize = channel.writeLimit := by
      rw [Channel.writeLimit, connected]
      rfl
    rw [← empty]
    exact .serving (by simp [e, start, Session.start]) ⟨flows, connected, socket, reading, writing⟩
  split at peer
  · rename_i c state
    exact serving (by rw [Channel.connection?, state]) peer.1 peer.2
  · rename_i l c state
    exact serving (by rw [Channel.connection?, state]) peer.1 peer.2
  · rename_i l state
    obtain ⟨⟨rest, backlog⟩, inactive, patient⟩ := peer
    have none : channel.connection? = none := by rw [Channel.connection?, state]
    refine .arriving rfl ⟨flows, state, inactive, patient, ?_, ?_⟩ backlog
    · rw [Channel.readLimit, none]
      rfl
    · rw [Channel.writeLimit, none]
      rfl
  · cases peer

end

end Encounter

/-- Whatever the moves of session and peer, a channel with a peer hands up the requests of the stream one by one
and replies to each before the next, up to the first frame that holds no request or the first request without a
reply that a frame can hold. Once the stream has ended the session ends as the service does. -/
theorem Channel.accept_serves {ρ : Type} (handler : Handler ρ) (memory : ρ) {channel : Channel} {host : Host}
    {s : SocketId} {unsent : Bytes} (available : channel.Available host s)
    (whole : (host.endpoint s).isEnded = true → unsent = [])
    (obedient : ∀ memory m, .shutdown ∉ (handler memory m).2) :
    let frames := framesOf channel.readLimit ((host.endpoint s).inbox ++ unsent)
    let before := (host.endpoint s.peer).inbox
    ∃ service : Service ρ, service.Serves channel.writeLimit handler memory frames.1 frames.2 ∧
      FrameEnd channel.readLimit frames.2 ∧
      (∀ moves, let e := (Encounter.start channel memory host unsent).run handler s moves
        e.session.memory.2 <+: service.requests ∧
          e.written s = before ++
            (service.replies.take e.session.memory.2.length).flatMap (fun m => frameOf m.bytes) ∧
          ((e.host.endpoint s).isEnded = true →
            Encounter.Concluded channel s service before e.received (e.session.run handler.recording e.host))) ∧
      ((host.endpoint s).isEnded = true →
        Encounter.Concluded channel s service before [] (channel.accept handler.recording (memory, []) host)) := by
  intro frames before
  have faithful := Encounter.faithful_start handler available memory whole
  refine ⟨_, serveFrames_serves channel.writeLimit handler frames.2 memory frames.1, framesOf_end .., ?_, ?_⟩
  · intro moves e
    have kept := faithful.run obedient moves
    exact ⟨kept.paid.1, kept.paid.2, kept.concludes obedient⟩
  · intro ended
    exact faithful.concludes obedient ended

/-- A listening channel, and a peer that has sent the front of a request and still has the rest to send. -/
theorem Channel.accept_serves_listening :
    let channel : Channel := ⟨.listening 0 none, "socket", {}, 0⟩
    let accepted : Endpoint := { inbox := [16, 0, 0], readTurns := [.upTo 2, .fails (.ofKind .interrupted)], writeTurns := [.upTo 1] }
    let host : Host :=
      { links := [⟨{}, accepted⟩]
        listeners := [{ path := "socket", inode := 1, backlog := [⟨0, true⟩] }]
        controls := [{ listenPath := some "socket" }] }
    let unsent : Bytes := [0, 67, 1, 5, 0, 1, 0, 0, 0, 2, 0, 0, 0, 0, 0, 0, 0]
    let handler : Handler Nat := fun count m => (count + 1, [.place (Message.response m.callId [7])])
    let frames := framesOf channel.readLimit ((host.endpoint ⟨0, true⟩).inbox ++ unsent)
    channel.Available host ⟨0, true⟩ ∧ ((host.endpoint ⟨0, true⟩).isEnded = true → unsent = []) ∧
      (∀ memory m, .shutdown ∉ (handler memory m).2) ∧
      ∃ service : Service Nat, service.Serves channel.writeLimit handler 0 frames.1 frames.2 ∧
        service.requests = [Message.request 5 1 2 []] ∧ service.replies = [Message.response 5 [7]] ∧
        service.result = .ok () ∧
        ∀ moves, let e := (Encounter.start channel 0 host unsent).run handler ⟨0, true⟩ moves
          e.session.memory.2 <+: service.requests ∧
            e.written ⟨0, true⟩ =
              (service.replies.take e.session.memory.2.length).flatMap (fun m => frameOf m.bytes) := by
  intro channel accepted host unsent handler frames
  have available : channel.Available host ⟨0, true⟩ := by
    constructor
    · decide
    · constructor
      · rfl
      · intro turn member
        change turn ∈ [_, _] at member
        simp only [List.mem_cons, List.not_mem_nil, or_false] at member
        rcases member with rfl | rfl
        · trivial
        · rfl
      · intro turn member
        obtain rfl := List.mem_singleton.mp member
        exact Nat.zero_lt_one
      · rfl
    · rfl
    · exact ⟨⟨[], rfl⟩, rfl, rfl, rfl⟩
  have whole : (host.endpoint ⟨0, true⟩).isEnded = true → unsent = [] := fun ended => nomatch ended
  have obedient : ∀ memory m, .shutdown ∉ (handler memory m).2 := by
    intro memory m member
    cases List.mem_singleton.mp member
  obtain ⟨service, serves, _, paid, _⟩ := accept_serves handler 0 available whole obedient
  have one : framesOf channel.readLimit ((host.endpoint ⟨0, true⟩).inbox ++ unsent) =
      ([Message.request 5 1 2 []].map Message.bytes, .ok ()) := by
    rw [framesOf_some rfl, framesOf_none rfl]
    rfl
  obtain ⟨asked, answered, result⟩ : service.requests = [Message.request 5 1 2 []] ∧ service.replies.length = 1 ∧
      service.result = .ok () := by
    rw [one] at serves
    refine serves.answers_all (List.forall_mem_singleton.mpr rfl) fun count => List.forall_mem_singleton.mpr ?_
    exact ⟨Message.response 5 [7], rfl⟩
  obtain ⟨reply, replied⟩ := List.length_eq_one_iff.mp answered
  obtain ⟨request, first, fits⟩ := serves.replied 0 reply (by rw [replied]; rfl)
  rw [asked] at first
  cases first
  cases fits
  exact ⟨available, whole, obedient, service, serves, asked, replied, result, fun moves => ⟨(paid moves).1, (paid moves).2.1⟩⟩

end CallWire
