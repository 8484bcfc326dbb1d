import CallWire.Proofs.Reception

/-! The moves of a server and its peers, one after another. Each leaves everything sound: the peers that were served keep
what they have, and the one that is being served gets what its own bytes ask for. -/

namespace CallWire

theorem echoHandler_obedient : ∀ memory m, .shutdown ∉ (echoHandler memory m).2 := by
  intro memory m member
  cases List.mem_singleton.mp member

namespace Visitor
variable {v : Visitor} {server : Server} {host : Host} {channel : Channel} {l : ListenerId} {asked : List Message}

/-- What is over is settled: the peer has its answer, and how the session ended is decided by the stream. -/
theorem Tended.settled {result : Except ChannelError Unit} (tended : v.Tended server host channel l asked)
    (phase : server.session.phase = .finished result) :
    server.Idle host ∧ v.Served host (echoesOf defaultMaxFrameSize v.stream) ∧
      result = sessionResult defaultMaxFrameSize v.stream := by
  obtain ⟨going, unstopped, plain, known, faithful, attends, undisturbed⟩ := tended
  obtain ⟨-, kin, replied, service, owes, total, written, -⟩ := faithful
  obtain ⟨rfl, -, -⟩ := owes.of_finished phase
  simp only [echoServiceOf, Service.after, List.append_nil, Service.mk.injEq] at total
  obtain ⟨-, -, replies, own⟩ := total
  have answered : v.received ++ (v.endpoint host).inbox = echoesOf defaultMaxFrameSize v.stream := by
    rw [echoesOf, replies]
    exact written
  have kin : server.session.channel = { channel with state := server.session.channel.state } := kin
  cases attends with
  | parted phase' state listens ended unrequested inactive =>
    cases phase.symm.trans phase'
    have config : server.session.channel.config = {} := by rw [kin, plain]
    have known : server.session.channel.control < host.controls.length := by
      rw [kin]
      exact known
    exact ⟨.parted phase' ⟨going, unstopped, state, config, listens, unrequested, inactive, known⟩,
      ⟨ended, answered, undisturbed⟩, own.symm⟩
  | broken phase' state room ended =>
    cases phase.symm.trans phase'
    exact ⟨.failed phase' ⟨going, unstopped, state, room⟩, ⟨ended, answered, undisturbed⟩, own.symm⟩
  | arriving phase' | attaching phase' => cases phase.symm.trans phase'
  | busy busy =>
    rw [phase] at busy
    cases busy

/-- What a peer has received is a part of the echoes of its requests. -/
theorem Tended.echoes (tended : v.Tended server host channel l asked) :
    v.received ++ (v.endpoint host).inbox <+: echoesOf defaultMaxFrameSize v.stream := by
  obtain ⟨-, -, replied, service, -, total, written, -⟩ := tended.faithful
  simp only [echoServiceOf, Service.after, Service.mk.injEq] at total
  obtain ⟨-, -, replies, -⟩ := total
  refine ⟨streamOf service.replies, ?_⟩
  rw [echoesOf, replies, streamOf_append]
  exact congrArg (· ++ streamOf service.replies) written

/-- A session that reads nothing more comes nearer to its end. -/
theorem Tended.step_ending (tended : v.Tended server host channel l asked)
    (unfinished : ∀ result, server.session.phase ≠ .finished result) (ending : v.IsEnding server host) :
    v.IsEnding (server.step host).1 (server.step host).2 ∧
      v.distance (server.step host).1 (server.step host).2 < v.distance server host := by
  obtain ⟨inRange, -, replied, service, owes, -⟩ := tended.faithful
  obtain ⟨asked', recorded⟩ := server.session.step_recorded echoHandler asked host
  obtain ⟨ends, nearer⟩ := (owes.leads inRange echoHandler_obedient).progress ending
  rw [Server.step_of_session tended.going unfinished]
  simp only [Encounter.move, recorded] at ends nearer
  refine ⟨ends, ?_⟩
  obtain zero | ⟨-, lower⟩ := nearer
  · obtain ⟨result, phase⟩ := Encounter.finished_of_rank zero
    exact absurd phase (unfinished result)
  · exact lower

theorem Tended.step (tended : v.Tended server host channel l asked)
    (unfinished : ∀ result, server.session.phase ≠ .finished result) :
    (∃ asked', v.Tended (server.step host).1 (server.step host).2 channel l asked') ∧
      host.Spares v.socket (server.step host).2 := by
  obtain ⟨going, unstopped, plain, known, faithful, attends, undisturbed⟩ := tended
  have kin : server.session.channel = { channel with state := server.session.channel.state } := faithful.kin
  have config : server.session.channel.config = {} := by rw [kin, plain]
  have control : server.session.channel.control = channel.control := by rw [kin]
  have inRange : v.socket.connection < host.links.length := faithful.inRange
  obtain ⟨attends, turns, spares⟩ := attends.step inRange (control ▸ known) config echoHandler_obedient
  have stands := server.session.step_stands echoHandler host
  have paid := faithful.move echoHandler_obedient .serve
  obtain ⟨asked', recorded⟩ := server.session.step_recorded echoHandler asked host
  rw [Server.step_of_session going unfinished]
  refine ⟨⟨asked', going, unstopped, plain, Nat.lt_of_lt_of_le known stands.remembers.grows, ?_, attends, ?_⟩, spares⟩
  · simp only [Encounter.move, recorded] at paid
    exact paid
  · exact ⟨turns.reads.trans undisturbed.1, turns.writes.trans undisturbed.2⟩

/-- A peer that waits is served by the next session. -/
theorem Queued.engaged (queued : v.Queued host) (listens : server.Listens host l [v.socket])
    (phase : server.session.phase = .arriving) : v.Engaged server host := by
  obtain ⟨inRange, steady, whole, stream, nothing, undisturbed⟩ := queued
  obtain ⟨going, unstopped, state, config, waits, unrequested, inactive, known⟩ := listens
  obtain ⟨received, inbox⟩ := List.append_eq_nil_iff.mp nothing
  have connection : server.session.channel.connection? = none := by rw [Channel.connection?, state]
  have available : server.session.channel.Available host v.socket := by
    refine ⟨inRange, steady, unrequested, ?_⟩
    rw [state, config]
    exact ⟨⟨[], waits.backlog⟩, inactive, rfl, rfl⟩
  have faithful := Encounter.faithful_start echoHandler available () whole
  have due : (Encounter.start server.session.channel () host v.unsent).due echoHandler server.session.channel v.socket [] =
      echoServiceOf v.stream := by
    have limits : server.session.channel.readLimit = defaultMaxFrameSize ∧
        server.session.channel.writeLimit = defaultMaxFrameSize := by
      rw [Channel.readLimit, Channel.writeLimit, connection, config]
      exact ⟨rfl, rfl⟩
    have coming : (Encounter.start server.session.channel () host v.unsent).coming v.socket = v.stream := stream
    simp only [Encounter.due, limits, coming, List.nil_append]
    exact serveFrames_echo (by decide) _ fun frame => mem_framesOf
  have empty : (host.endpoint v.socket.peer).inbox = [] := inbox
  rw [due, empty] at faithful
  have start : Encounter.start server.session.channel () host v.unsent =
      ⟨server.session.recorded [], host, v.unsent, v.received⟩ := by
    rw [received, Session.recorded, phase]
    rfl
  refine ⟨fun result finished => ?_, server.session.channel, l, [], going, unstopped, config, known, start ▸ faithful, ?_, undisturbed⟩
  · cases phase.symm.trans finished
  · refine .arriving phase state waits ?_ unrequested inactive
    rw [Host.endpoint_peer]
    exact steady.taken

/-- A peer that comes to this host. -/
def newcomer (host : Host) (stream : Bytes) : Visitor := ⟨⟨host.links.length, true⟩, stream, stream, []⟩

theorem queued_newcomer (host : Host) (l : ListenerId) (stream : Bytes) :
    (newcomer host stream).Queued (host.enqueue l).2 := by
  have links : (host.enqueue l).2.links = host.links ++ [({} : Link)] := rfl
  have fresh (s : SocketId) (here : s.connection = host.links.length) : (host.enqueue l).2.link s = {} := by
    rw [Host.link, links, here, List.getD_eq_getElem?_getD, List.getElem?_concat_length]
    cases s.isAccepted with
    | true | false => rfl
  have near := congrArg Link.near (fresh ⟨host.links.length, true⟩ rfl)
  have far : (newcomer host stream).endpoint (host.enqueue l).2 = {} :=
    congrArg Link.near (fresh ⟨host.links.length, false⟩ rfl)
  refine ⟨?_, ?_, ?_, ?_, ?_, ?_⟩
  · rw [links, List.length_append]
    exact Nat.lt_succ_self host.links.length
  · rw [newcomer, fresh _ rfl]
    exact ⟨rfl, List.forall_mem_nil _, List.forall_mem_nil _, rfl⟩
  · intro ended
    cases (congrArg Endpoint.isEnded near).symm.trans ended
  · exact congrArg (·.inbox ++ stream) near
  · exact congrArg Endpoint.inbox far
  · rw [IsUndisturbed, far]
    exact ⟨rfl, rfl⟩

/-- A peer that still waits when the server ends is reset, and has received nothing. -/
theorem Queued.reset (queued : v.Queued host) {after : Host}
    (links : after.links = (host.onLink v.socket (Link.close true)).links) : v.Served after [] := by
  have inRange := queued.inRange
  have link : after.link v.socket = (host.link v.socket).close true := by
    rw [← show (host.onLink v.socket (Link.close true)).link v.socket = (host.link v.socket).close true from
      Host.link_setLink inRange]
    rw [Host.link, links]
    rfl
  have far : v.endpoint after = ((host.link v.socket).close true).far := by
    rw [endpoint, Host.endpoint_peer, link]
  have before : v.endpoint host = (host.link v.socket).far := Host.endpoint_peer ..
  have nothing := queued.nothing
  obtain ⟨reads, writes⟩ := queued.undisturbed
  rw [before] at nothing reads writes
  refine ⟨?_, ?_, ?_, ?_⟩
  · rw [isDismissed, far]
    rfl
  · rw [far]
    exact nothing
  · rw [far]
    exact reads
  · rw [far]
    exact writes

section
variable {m : CallWire.Move} (peer : m ≠ .serve) {e : Encounter Unit}
  (moved : (v.encounter server host).move echoHandler v.socket m = e)
include peer moved

/-- A peer that was served can only take more of what is there for it. -/
theorem Served.act {answer : Bytes} (served : v.Served host answer) (inRange : v.socket.connection < host.links.length) :
    ({ v with unsent := e.unsent, received := e.received } : Visitor).Served e.host answer := by
  obtain ⟨dismissed, answered, undisturbed⟩ := served
  have aside := @Encounter.move_aside _ echoHandler v.socket (v.encounter server host) inRange m peer
  have far := @Encounter.move_far _ echoHandler v.socket (v.encounter server host) inRange m peer undisturbed
  rw [moved] at aside far
  exact ⟨far.1.trans dismissed, aside.written.trans answered, far.2⟩

theorem Queued.act (queued : v.Queued host) :
    ({ v with unsent := e.unsent, received := e.received } : Visitor).Queued e.host := by
  obtain ⟨inRange, steady, whole, stream, nothing, undisturbed⟩ := queued
  have aside := @Encounter.move_aside _ echoHandler v.socket (v.encounter server host) inRange m peer
  have far := @Encounter.move_far _ echoHandler v.socket (v.encounter server host) inRange m peer undisturbed
  rw [moved] at aside far
  obtain ⟨link, same⟩ := aside.host
  have length : e.host.links.length = host.links.length := by
    rw [same]
    exact Host.setLink_length ..
  exact ⟨length.symm ▸ inRange, aside.steady steady, aside.whole whole, aside.coming.trans stream,
    aside.written.trans nothing, far.2⟩

theorem Engaged.act (engaged : v.Engaged server host) :
    ({ v with unsent := e.unsent, received := e.received } : Visitor).Engaged server e.host := by
  obtain ⟨unfinished, channel, l, asked, going, unstopped, plain, known, faithful, attends, undisturbed⟩ := engaged
  have inRange : v.socket.connection < host.links.length := faithful.inRange
  have aside := @Encounter.move_aside _ echoHandler v.socket (v.encounter server host) inRange m peer
  have far := @Encounter.move_far _ echoHandler v.socket (v.encounter server host) inRange m peer undisturbed
  have kept := faithful.move echoHandler_obedient m
  rw [show Encounter.mk (server.session.recorded asked) host v.unsent v.received =
      { v.encounter server host with session := server.session.recorded asked } from rfl,
    Encounter.move_session peer, moved] at kept
  rw [moved] at aside far
  obtain ⟨link, same⟩ := aside.host
  have paths : host.SamePaths e.host := by
    rw [same]
    exact ⟨rfl, rfl, rfl⟩
  have controls : e.host.controls = host.controls := by
    rw [same]
    rfl
  exact ⟨unfinished, channel, l, asked, going, unstopped, plain, controls.symm ▸ known, kept,
    attends.of_same paths controls far.1, far.2⟩

/-- Once nothing more comes, the way to the end stays the same whatever the peer does. -/
theorem Engaged.act_ending (engaged : v.Engaged server host) (ending : v.IsEnding server host) :
    let w : Visitor := { v with unsent := e.unsent, received := e.received }
    w.IsEnding server e.host ∧ w.distance server e.host = v.distance server host := by
  obtain ⟨-, channel, l, asked, tended⟩ := engaged
  obtain ⟨inRange, -, replied, service, owes, -⟩ := tended.faithful
  have inRange : v.socket.connection < host.links.length := inRange
  have aside := @Encounter.move_aside _ echoHandler v.socket
    { v.encounter server host with session := server.session.recorded asked } inRange m peer
  have stays := @Encounter.move_ended _ echoHandler v.socket
    { v.encounter server host with session := server.session.recorded asked } inRange m peer
  rw [Encounter.move_session peer, moved] at aside stays
  have same := owes.ending_aside aside stays ending
  exact same

end

/-- Neither a peer that waits nor one that is being served was told that its session is over. -/
theorem Queued.present (queued : v.Queued host) : v.isDismissed host = false := by
  rw [isDismissed, endpoint, Host.endpoint_peer]
  exact queued.steady.taken

theorem Engaged.present (engaged : v.Engaged server host) : v.isDismissed host = false := by
  obtain ⟨unfinished, channel, l, asked, tended⟩ := engaged
  cases tended.attends with
  | arriving _ _ _ unended | attaching _ _ _ unended | busy _ _ _ _ unended => exact unended
  | parted phase | broken phase => exact absurd phase (unfinished _)

theorem release_endpoint (inRange : v.socket.connection < host.links.length) :
    v.endpoint (host.release v.socket.peer) = ((host.link v.socket.peer).release).near := by
  have inRange : v.socket.peer.connection < host.links.length := inRange
  rw [endpoint, Host.endpoint, Host.release, Host.onLink, Host.link_setLink inRange]

theorem release_inbox (inRange : v.socket.connection < host.links.length) :
    (v.endpoint (host.release v.socket.peer)).inbox = (v.endpoint host).inbox := by
  rw [release_endpoint inRange]
  unfold Link.release
  split
  · rfl
  · rfl

theorem Served.release {answer : Bytes} (served : v.Served host answer) (inRange : v.socket.connection < host.links.length) :
    v.Served (host.release v.socket.peer) answer := by
  have same := release_endpoint inRange
  obtain ⟨dismissed, answered, undisturbed⟩ := served
  unfold Link.release at same
  split at same
  · refine ⟨?_, ?_, ?_⟩
    · rw [isDismissed, same]
      rfl
    · rw [same]
      exact answered
    · rw [IsUndisturbed, same]
      exact undisturbed
  · refine ⟨?_, ?_, ?_⟩
    · rw [isDismissed, same]
      exact dismissed
    · rw [same]
      exact answered
    · rw [IsUndisturbed, same]
      exact undisturbed

end Visitor

namespace Reception
open Visitor (ServedInTurn)
variable {once : Bool} {streams : List Bytes} {x : Reception}

/-- Everything stays sound while the same peers are there. -/
theorem Sound.stay (sound : x.Sound once streams) {server : Server} {host : Host} (kind : server.once = x.server.once)
    (length : host.links.length = x.host.links.length) (lasting : once = false → server.ended = none)
    (verdict : once = true → ∀ result, server.session.phase = .finished result →
      ∃ stream, streams.head? = some stream ∧ result = sessionResult defaultMaxFrameSize stream)
    (stance : Stance once { x with server, host }) : Sound once streams { x with server, host } :=
  ⟨kind.trans sound.kind, sound.split, sound.apart, length.symm ▸ sound.inRange, lasting, verdict, stance⟩

theorem echoesFor_first {who : Nat} (stream : Bytes) (first : once = true → who = 0) :
    echoesFor once who stream = echoesOf defaultMaxFrameSize stream := by
  unfold echoesFor
  cases once with
  | false => rfl
  | true =>
    rw [first rfl]
    rfl

theorem echoesFor_late {who : Nat} (stream : Bytes) (late : who ≠ 0) : echoesFor true who stream = [] := by
  simp [echoesFor, late]

/-- The peer that came last has a connection that none of the others has. -/
theorem Sound.last_apart (sound : x.Sound once streams) {former : List Visitor} {v : Visitor}
    (all : x.visitors = former ++ [v]) : ∀ w ∈ former, w.socket.connection ≠ v.socket.connection := by
  have apart := sound.apart
  rw [connections, all, List.map_append] at apart
  intro w member same
  refine (List.nodup_append.mp apart).2.2 _ (List.mem_map_of_mem member) _ (List.mem_map_of_mem (List.mem_singleton_self v)) same

theorem Sound.head_stream (sound : x.Sound once streams) {v : Visitor} (all : x.visitors = [v]) :
    streams.head? = some v.stream := by
  rw [← sound.split, all]
  rfl

section
variable {server : Server} {host : Host} {former : List Visitor} {v : Visitor}

/-- The server has done with the peer that came last, and rests. -/
theorem Sound.rest (sound : x.Sound once streams) {result} (all : x.visitors = former ++ [v])
    (kind : server.once = x.server.once) (spares : x.host.Spares v.socket host) (idle : server.Idle host)
    (phase : server.session.phase = .finished result) (served : ServedInTurn once x.host former)
    (answered : v.Served host (echoesFor once former.length v.stream)) (lasting : once = false → server.ended = none)
    (verdict : once = true → ∃ stream, streams.head? = some stream ∧ result = sessionResult defaultMaxFrameSize stream) :
    Sound once streams { x with server, host } := by
  refine sound.stay kind spares.length lasting (fun once other ended => ?_) (.idle idle ?_ fun _ => ?_)
  · cases phase.symm.trans ended
    exact verdict once
  · show ServedInTurn once host x.visitors
    rw [all]
    exact (served.of_spares spares (sound.last_apart all)).concat answered
  · show server.session.phase = .arriving ↔ x.visitors = []
    simp [phase, all]

variable (stepped : x.server.step x.host = (server, host))
include stepped

theorem Sound.kept_idle (sound : x.Sound once streams) (idle : x.server.Idle x.host)
    (served : ServedInTurn once x.host x.visitors)
    (fresh : once = true → (x.server.session.phase = .arriving ↔ x.visitors = [])) :
    Sound once streams { x with server, host } := by
  obtain ⟨-, kind⟩ := x.server.step_keeps x.host
  obtain ⟨idle', links, same, lasts⟩ := idle.step
  rw [stepped] at kind idle' links same lasts
  have spares : x.host.Spares ⟨x.host.links.length, true⟩ host := Host.spares_of_links links
  have others : ∀ v ∈ x.visitors, v.socket.connection ≠ x.host.links.length := fun v member =>
    Nat.ne_of_lt (sound.inRange _ (List.mem_map_of_mem member))
  refine sound.stay kind (congrArg List.length links) (fun again => lasts (sound.kind.trans again) (sound.lasting again))
    (fun once result phase => ?_) (.idle idle' (served.of_spares spares others) ?_)
  · exact sound.verdict once result ((same (sound.kind.trans once)).symm.trans phase)
  · intro once
    rw [← fresh once, same (sound.kind.trans once)]

theorem Sound.kept_queued (sound : x.Sound once streams) {l : ListenerId} (all : x.visitors = former ++ [v])
    (served : ServedInTurn once x.host former) (phase : x.server.session.phase = .finished (.ok ()))
    (listens : x.server.Listens x.host l [v.socket]) (queued : v.Queued x.host) (late : once = true → former ≠ []) :
    Sound once streams { x with server, host } := by
  obtain ⟨path, kind⟩ := x.server.step_keeps x.host
  rw [stepped] at path kind
  cases kept : once with
  | false =>
    subst kept
    obtain ⟨again, listens⟩ := listens.step_again phase sound.kind
    cases again.symm.trans stepped
    exact sound.stay kind rfl (fun _ => listens.going) nofun (.engaged all served (queued.engaged listens rfl) nofun)
  | true =>
    -- A server for one client has had that one: it ends, and the connection in its backlog is reset.
    subst kept
    obtain ⟨next, after, last, phase', ended, room, links⟩ := listens.step_once phase sound.kind
    cases last.symm.trans stepped
    have reset : x.host.Spares v.socket host :=
      (Host.setLink_spares x.host v.socket _).trans (Host.spares_of_links links)
    refine sound.rest all kind reset (.ended phase' ended (path ▸ room)) phase' served ?_ nofun fun once => ?_
    · rw [echoesFor_late v.stream fun none => late rfl (List.length_eq_zero_iff.mp none)]
      exact queued.reset links
    · exact sound.verdict once _ phase

theorem Sound.kept_engaged (sound : x.Sound once streams) (all : x.visitors = former ++ [v])
    (served : ServedInTurn once x.host former) (engaged : v.Engaged x.server x.host) (first : once = true → former = []) :
    Sound once streams { x with server, host } := by
  obtain ⟨-, kind⟩ := x.server.step_keeps x.host
  obtain ⟨unfinished, channel, l, asked, tended⟩ := engaged
  obtain ⟨⟨asked', tended⟩, spares⟩ := tended.step unfinished
  rw [stepped] at kind tended spares
  by_cases atEnd : ∃ result, server.session.phase = .finished result
  · obtain ⟨result, phase⟩ := atEnd
    obtain ⟨idle, answered, own⟩ := tended.settled phase
    refine sound.rest all kind spares idle phase served ?_ (fun _ => tended.going) fun once => ?_
    · rw [echoesFor_first v.stream fun once => by rw [first once]; rfl]
      exact answered
    · have alone : x.visitors = [v] := by rw [all, first once, List.nil_append]
      exact ⟨v.stream, sound.head_stream alone, own⟩
  · have unfinished : ∀ result, server.session.phase ≠ .finished result := fun result phase => atEnd ⟨result, phase⟩
    refine sound.stay kind spares.length (fun _ => tended.going) (fun _ result phase => absurd phase (unfinished result)) ?_
    exact .engaged all (served.of_spares spares (sound.last_apart all)) ⟨unfinished, channel, l, asked', tended⟩ first

end

theorem Sound.serve (sound : x.Sound once streams) : (x.move .serve).Sound once streams := by
  rcases stepped : x.server.step x.host with ⟨server, host⟩
  have moved : x.move .serve = { x with server, host } := by simp only [move, stepped]
  rw [moved]
  cases sound.stance with
  | idle idle served fresh => exact sound.kept_idle stepped idle served fresh
  | queued all served phase listens queued late => exact sound.kept_queued stepped all served phase listens queued late
  | engaged all served engaged first => exact sound.kept_engaged stepped all served engaged first

/-- One of the peers did something at its end. -/
structure ByPeer (x : Reception) (who : Nat) (v w : Visitor) (y : Reception) : Prop where
  found : x.visitors[who]? = some v
  moved : ∃ link, y = { x with host := x.host.setLink v.socket link, visitors := x.visitors.set who w }
  socket : w.socket = v.socket
  stream : w.stream = v.stream
  served : ∀ {answer}, v.Served x.host answer → w.Served y.host answer
  queued : v.Queued x.host → w.Queued y.host
  engaged : v.Engaged x.server x.host → w.Engaged x.server y.host
  ending : v.Engaged x.server x.host → v.IsEnding x.server x.host →
    w.IsEnding x.server y.host ∧ w.distance x.server y.host = v.distance x.server x.host
  unsent : w.unsent.length ≤ v.unsent.length
  unread : (w.endpoint y.host).inbox.length ≤ (v.endpoint x.host).inbox.length

theorem Sound.act_byPeer (sound : x.Sound once streams) {who : Nat} {v : Visitor} (found : x.visitors[who]? = some v)
    {m : CallWire.Move} (peer : m ≠ .serve) {e : Encounter Unit}
    (moved : (v.encounter x.server x.host).move echoHandler v.socket m = e) :
    x.act who m = { x with host := e.host, visitors := x.visitors.set who { v with unsent := e.unsent, received := e.received } } ∧
      x.ByPeer who v { v with unsent := e.unsent, received := e.received } (x.act who m) := by
  have acted : x.act who m =
      { x with host := e.host, visitors := x.visitors.set who { v with unsent := e.unsent, received := e.received } } := by
    simp only [Reception.act, found, moved]
  have inRange : v.socket.connection < x.host.links.length :=
    sound.inRange _ (List.mem_map_of_mem (List.mem_of_getElem? found))
  have aside := @Encounter.move_aside _ echoHandler v.socket (v.encounter x.server x.host) inRange m peer
  have shorter := @Encounter.unsent_le _ echoHandler v.socket (v.encounter x.server x.host) m peer
  have fewer := @Encounter.inbox_le _ echoHandler v.socket (v.encounter x.server x.host) inRange m peer
  rw [moved] at aside shorter fewer
  obtain ⟨link, host⟩ := aside.host
  refine ⟨acted, found, ⟨link, ?_⟩, rfl, rfl, ?_, ?_, ?_, ?_, shorter, ?_⟩
  · rw [acted]
    exact congrArg (fun host => Reception.mk x.server host _ x.coming) host
  all_goals rw [acted]
  · exact fun served => served.act peer moved inRange
  · exact fun queued => queued.act peer moved
  · exact fun engaged => engaged.act peer moved
  · exact fun engaged => engaged.act_ending peer moved
  · exact fewer

theorem Sound.leave_byPeer (sound : x.Sound once streams) {who : Nat} {v : Visitor} (found : x.visitors[who]? = some v)
    (dismissed : v.isDismissed x.host) : x.ByPeer who v v { x with host := x.host.release v.socket.peer } := by
  have inRange : v.socket.connection < x.host.links.length :=
    sound.inRange _ (List.mem_map_of_mem (List.mem_of_getElem? found))
  have still : x.visitors.set who v = x.visitors := by
    obtain ⟨inside, rfl⟩ := List.getElem?_eq_some_iff.mp found
    exact List.set_getElem_self inside
  refine ⟨found, ⟨(x.host.link v.socket.peer).release.swap, ?_⟩, rfl, rfl, ?_, ?_, ?_, ?_, Nat.le_refl _, ?_⟩
  · rw [still, Host.release, Host.onLink, Host.setLink_peer]
  · exact fun served => served.release inRange
  · exact fun queued => absurd (queued.present.symm.trans dismissed) Bool.false_ne_true
  · exact fun engaged => absurd (engaged.present.symm.trans dismissed) Bool.false_ne_true
  · exact fun engaged => absurd (engaged.present.symm.trans dismissed) Bool.false_ne_true
  · rw [Visitor.release_inbox inRange]

section
variable {y : Reception} {who : Nat} {v w : Visitor} (own : x.ByPeer who v w y)
include own

theorem ByPeer.spares : x.host.Spares v.socket y.host := by
  obtain ⟨link, rfl⟩ := own.moved
  exact Host.setLink_spares ..

theorem ByPeer.of_concat {former : List Visitor} {last : Visitor} (all : x.visitors = former ++ [last]) :
    former[who]? = some v ∧ y.visitors = former.set who w ++ [last] ∨
      v = last ∧ who = former.length ∧ y.visitors = former ++ [w] := by
  obtain ⟨link, rfl⟩ := own.moved
  have found := own.found
  rw [all] at found
  dsimp only
  rw [all]
  obtain earlier | ⟨rfl, rfl⟩ := Visitor.former_or_last found
  · exact .inl ⟨earlier, List.set_append_left _ _ (List.getElem?_eq_some_iff.mp earlier).1⟩
  · refine .inr ⟨rfl, rfl, ?_⟩
    rw [List.set_append_right _ _ (Nat.le_refl _), Nat.sub_self]
    rfl

end

theorem Sound.apart_of_concat (sound : x.Sound once streams) {former : List Visitor} {v : Visitor}
    (all : x.visitors = former ++ [v]) : (former.map fun v => v.socket.connection).Nodup := by
  have apart := sound.apart
  rw [connections, all, List.map_append] at apart
  exact (List.nodup_append.mp apart).1

theorem ByPeer.servedInTurn {y : Reception} {who : Nat} {v w : Visitor} (own : x.ByPeer who v w y) {former : List Visitor}
    (found : former[who]? = some v) (served : ServedInTurn once x.host former)
    (apart : (former.map fun v => v.socket.connection).Nodup) : ServedInTurn once y.host (former.set who w) := by
  refine served.set found own.spares apart ?_
  rw [own.stream]
  exact own.served (served who v found)

/-- What a peer does at its end leaves the others what they have. -/
theorem Sound.byPeer {y : Reception} {who : Nat} {v w : Visitor} (sound : x.Sound once streams) (own : x.ByPeer who v w y) :
    y.Sound once streams := by
  have spares := own.spares
  have split (former : List Visitor) (last : Visitor) (all : x.visitors = former ++ [last]) := own.of_concat all
  have set {former : List Visitor} (found : former[who]? = some v) (served : ServedInTurn once x.host former)
      (apart : (former.map fun v => v.socket.connection).Nodup) := own.servedInTurn found served apart
  obtain ⟨found, ⟨link, rfl⟩, socket, stream, -, queued', engaged', -⟩ := own
  have same {α : Type} (f : Visitor → α) (alike : f w = f v) : (x.visitors.set who w).map f = x.visitors.map f := by
    obtain ⟨inside, rfl⟩ := List.getElem?_eq_some_iff.mp found
    rw [List.map_set, alike, ← List.getElem_map f, List.set_getElem_self]
    rwa [List.length_map]
  have connections : (x.visitors.set who w).map (fun v => v.socket.connection) = x.connections :=
    same _ (congrArg SocketId.connection socket)
  have paths : x.host.SamePaths (x.host.setLink v.socket link) := ⟨rfl, rfl, rfl⟩
  refine ⟨sound.kind, ?_, ?_, ?_, sound.lasting, sound.verdict, ?_⟩
  · show (x.visitors.set who w).map Visitor.stream ++ x.coming = streams
    rw [same Visitor.stream stream]
    exact sound.split
  · rw [Reception.connections, connections]
    exact sound.apart
  · rw [Reception.connections, connections, Host.setLink_length]
    exact sound.inRange
  · cases sound.stance with
    | idle idle served fresh =>
      refine .idle (idle.of_same paths rfl) (set found served sound.apart) fun once => ?_
      rw [← List.length_eq_zero_iff, List.length_set, List.length_eq_zero_iff]
      exact fresh once
    | @queued former last l all served phase listens queued late =>
      -- Either the peer was served before, on another link than the last, or it is the last visitor itself.
      obtain ⟨earlier, changed⟩ | ⟨rfl, -, changed⟩ := split _ _ all
      · have other := sound.last_apart all v (List.mem_of_getElem? earlier)
        refine .queued changed (set earlier served (sound.apart_of_concat all)) phase (listens.of_same paths rfl)
          (queued.elsewhere other link) fun once => ?_
        rw [← List.length_pos_iff, List.length_set, List.length_pos_iff]
        exact late once
      · have listens : x.server.Listens (x.host.setLink v.socket link) l [w.socket] := by
          rw [socket]
          exact listens.of_same paths rfl
        exact .queued changed (served.of_spares spares (sound.last_apart all)) phase listens (queued' queued) late
    | engaged all served engaged first =>
      obtain ⟨earlier, changed⟩ | ⟨rfl, -, changed⟩ := split _ _ all
      · have other := sound.last_apart all v (List.mem_of_getElem? earlier)
        refine .engaged changed (set earlier served (sound.apart_of_concat all)) (engaged.elsewhere other link) fun once => ?_
        rw [first once]
        rfl
      · exact .engaged changed (served.of_spares spares (sound.last_apart all)) (engaged' engaged) first

/-- When everybody is dismissed, nobody is being served. -/
theorem Sound.idle (sound : x.Sound once streams) (dismissed : x.visitors.all (·.isDismissed x.host)) :
    x.server.Idle x.host ∧ ServedInTurn once x.host x.visitors ∧
      (once = true → (x.server.session.phase = .arriving ↔ x.visitors = [])) := by
  have absent {former : List Visitor} {v : Visitor} (all : x.visitors = former ++ [v]) (present : v.isDismissed x.host = false) :
      False := by
    rw [all, List.all_append] at dismissed
    simp [present] at dismissed
  cases sound.stance with
  | idle idle served fresh => exact ⟨idle, served, fresh⟩
  | queued all _ _ _ queued => exact (absent all queued.present).elim
  | engaged all _ engaged => exact (absent all engaged.present).elim

/-- A listener takes the newcomer. -/
theorem Sound.enqueue (sound : x.Sound once streams) {stream : Bytes} {rest : List Bytes} (coming : x.coming = stream :: rest)
    {l : ListenerId} (stance : ServedInTurn once (x.host.enqueue l).2 x.visitors →
      Stance once ⟨x.server, (x.host.enqueue l).2, x.visitors ++ [.newcomer x.host stream], rest⟩)
    (served : ServedInTurn once x.host x.visitors) :
    Sound once streams ⟨x.server, (x.host.enqueue l).2, x.visitors ++ [.newcomer x.host stream], rest⟩ := by
  have links : (x.host.enqueue l).2.links = x.host.links ++ [({} : Link)] := rfl
  have connections : (x.visitors ++ [Visitor.newcomer x.host stream]).map (fun v => v.socket.connection) =
      x.connections ++ [x.host.links.length] := List.map_append
  refine ⟨sound.kind, ?_, ?_, ?_, sound.lasting, sound.verdict, stance fun who v found => ?_⟩
  · show (x.visitors ++ [_]).map Visitor.stream ++ rest = streams
    rw [List.map_append, List.append_assoc, ← sound.split, coming]
    rfl
  · rw [Reception.connections, connections, List.nodup_append]
    refine ⟨sound.apart, List.nodup_singleton _, fun c member d last => ?_⟩
    rw [List.mem_singleton.mp last]
    exact Nat.ne_of_lt (sound.inRange c member)
  · rw [Reception.connections, connections, links, List.length_append]
    intro c member
    obtain old | new := List.mem_append.mp member
    · exact Nat.lt_succ_of_lt (sound.inRange c old)
    · rw [List.mem_singleton.mp new]
      exact Nat.lt_succ_self _
  · have old : v.socket.peer.connection < x.host.links.length :=
      sound.inRange _ (List.mem_map_of_mem (List.mem_of_getElem? found))
    refine (served who v found).of_endpoint ?_
    have same : (x.host.enqueue l).2.link v.socket.peer = x.host.link v.socket.peer := by
      rw [Host.link, Host.link, links, List.getD_append _ _ _ _ old]
    exact congrArg Link.near same

theorem Sound.welcome (sound : x.Sound once streams) (dismissed : x.visitors.all (·.isDismissed x.host)) :
    x.welcome.Sound once streams := by
  obtain ⟨idle, served, fresh⟩ := sound.idle dismissed
  unfold Reception.welcome
  split
  · exact sound
  · rename_i stream rest coming
    cases idle with
    | fresh phase listens =>
      rw [listens.listens.connect]
      refine sound.enqueue coming (fun served => .engaged rfl served ?_ fun once => (fresh once).mp phase) served
      exact (Visitor.queued_newcomer ..).engaged listens.enqueue phase
    | parted phase listens =>
      rw [listens.listens.connect]
      refine sound.enqueue coming (fun served => .queued rfl served phase listens.enqueue ?_ fun once none => ?_) served
      · exact Visitor.queued_newcomer ..
      · cases phase.symm.trans ((fresh once).mpr none)
    | failed _ failed =>
      obtain ⟨error, refused⟩ := failed.room.connect
      rw [refused]
      exact sound
    | ended _ _ room =>
      obtain ⟨error, refused⟩ := room.connect
      rw [refused]
      exact sound

/-- The server goes on for a while. -/
def goOn (x : Reception) (count : Nat) : Reception :=
  { x with server := (Server.steps count (x.server, x.host)).1, host := (Server.steps count (x.server, x.host)).2 }

theorem goOn_succ (x : Reception) (count : Nat) : x.goOn (count + 1) = (x.goOn count).move .serve := by
  unfold goOn
  rw [Server.steps_succ]
  rfl

theorem move_run (x : Reception) : ∃ count, x.move .run = x.goOn (count + 1) := by
  obtain ⟨count, same⟩ := x.server.run_eq_steps x.host
  refine ⟨count, ?_⟩
  simp only [Reception.move, same]
  rfl

theorem Sound.goOn (sound : x.Sound once streams) (count : Nat) : (x.goOn count).Sound once streams := by
  induction count with
  | zero => exact sound
  | succ count ih =>
    rw [goOn_succ]
    exact ih.serve

/-- What a move can be: a while of the server's, the arrival of a newcomer, or what one of the peers does. -/
inductive Changes (x y : Reception) : Prop
  | nothing (same : y = x)
  | served (count : Nat) (went : y = x.goOn (count + 1))
  | admitted (dismissed : x.visitors.all (·.isDismissed x.host)) (came : y = x.welcome)
  | byPeer {who v w} (own : x.ByPeer who v w y)

theorem Sound.changes (sound : x.Sound once streams) (m : Move) : x.Changes (x.move m) := by
  have act (who : Nat) {m : CallWire.Move} (peer : m ≠ .serve) : x.Changes (x.act who m) := by
    cases found : x.visitors[who]? with
    | none => exact .nothing (by simp only [Reception.act, found])
    | some v => exact .byPeer (sound.act_byPeer found peer rfl).2
  cases m with
  | serve => exact .served 0 rfl
  | run =>
    obtain ⟨count, same⟩ := x.move_run
    exact .served count same
  | connect =>
    by_cases dismissed : x.visitors.all (·.isDismissed x.host)
    · exact .admitted dismissed (if_pos dismissed)
    · exact .nothing (if_neg dismissed)
  | send who count => exact act who nofun
  | finish who => exact act who nofun
  | receive who count => exact act who nofun
  | leave who =>
    simp only [move]
    split
    · exact .nothing rfl
    · rename_i v found
      split
      · rename_i ready
        exact .byPeer (sound.leave_byPeer found ((Bool.and_eq_true ..).mp ready).1)
      · exact .nothing rfl

theorem Sound.move (sound : x.Sound once streams) (m : Move) : (x.move m).Sound once streams := by
  cases sound.changes m with
  | nothing same => rwa [same]
  | served count went =>
    rw [went]
    exact sound.goOn (count + 1)
  | admitted dismissed came =>
    rw [came]
    exact sound.welcome dismissed
  | byPeer own => exact sound.byPeer own

theorem Sound.run (sound : x.Sound once streams) (moves : List Move) : (x.run moves).Sound once streams := by
  induction moves generalizing x with
  | nil => exact sound
  | cons m rest ih => exact ih (sound.move m)

theorem Sound.move_path (sound : x.Sound once streams) (m : Move) : (x.move m).server.path = x.server.path := by
  have went (count : Nat) : (x.goOn count).server.path = x.server.path := by
    induction count with
    | zero => rfl
    | succ count ih =>
      rw [goOn_succ]
      exact ((x.goOn count).server.step_keeps (x.goOn count).host).1.trans ih
  cases sound.changes m with
  | nothing same => rw [same]
  | served count same =>
    rw [same]
    exact went (count + 1)
  | admitted _ came =>
    rw [came, Reception.welcome]
    split
    · rfl
    · split
      · rfl
      · rfl
  | byPeer own =>
    obtain ⟨link, moved⟩ := own.moved
    rw [moved]

/-- The server stays at its path. -/
theorem Sound.run_path (sound : x.Sound once streams) (moves : List Move) : (x.run moves).server.path = x.server.path := by
  induction moves generalizing x with
  | nil => rfl
  | cons m rest ih => exact (ih (sound.move m)).trans (sound.move_path m)

/-- A server that was started has yet to serve everybody. -/
theorem sound_start {path : String} {host listening : Host} {server : Server} (tidy : host.Tidy)
    (started : Server.start path once host = (.ok server, listening)) (streams : List Bytes) :
    Sound once streams ⟨server, listening, [], streams⟩ := by
  obtain ⟨-, kind, phase, ⟨l, listens⟩, -⟩ := Server.start_listens tidy started
  refine ⟨kind, rfl, List.nodup_nil, List.forall_mem_nil _, fun _ => listens.going, fun _ result finished => ?_, ?_⟩
  · cases phase.symm.trans finished
  · exact .idle (.fresh phase listens) (fun who v found => nomatch found) fun _ => ⟨fun _ => rfl, fun _ => phase⟩

end Reception
end CallWire
