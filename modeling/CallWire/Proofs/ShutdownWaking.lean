import CallWire.Proofs.HandleReach
import CallWire.Proofs.ListenerPlace
import CallWire.Proofs.ListeningPath

/-! One call of a shutdown handle, step by step, beside a channel that listens and accepts time after time. Whoever
accepts is woken wherever it is, but for one place: between its last look for a request and parting from its peer. -/

namespace CallWire

/-- What others may do meanwhile. They leave the registration and the path of the channel alone, no stream that has ended
goes on, and they take nobody out of the backlog. -/
structure Host.Yields (c : ControlId) (l : ListenerId) (before after : Host) : Prop extends before.Respects c after where
  path : before.KeepsPath c after
  backlog : (before.listener l).backlog <+: (after.listener l).backlog

namespace Host

theorem Yields.trans {c : ControlId} {l : ListenerId} {first second third : Host} (left : first.Yields c l second)
    (right : second.Yields c l third) : first.Yields c l third :=
  ⟨left.toRespects.trans right.toRespects, left.path.trans right.path, left.backlog.trans right.backlog⟩

section
variable (c : ControlId) (l : ListenerId) (host : Host)

/-- Whoever has an end of a connection may do with it whatever does not bring back a stream that has ended. -/
theorem onLink_yields (s : SocketId) {change : Link → Link}
    (near : ∀ link : Link, link.near.isEnded = true → (change link).near.isEnded = true)
    (far : ∀ link : Link, link.far.isEnded = true → (change link).far.isEnded = true) :
    host.Yields c l (host.onLink s change) := by
  have length : (host.onLink s change).links.length = host.links.length := setLink_length host s _
  have sound (sound : host.Sound) : (host.onLink s change).Sound := by
    intro l' t waits
    rw [length]
    exact sound l' t waits
  refine ⟨⟨keeps_of_controls rfl, remembers_of_controls rfl, sound, Nat.le_of_eq length.symm, fun t ended => ?_⟩, rfl,
    List.prefix_refl _⟩
  by_cases same : t.connection = s.connection
  · by_cases inRange : s.connection < host.links.length
    · obtain rfl | rfl := SocketId.eq_or_eq_peer same
      · rw [endpoint, onLink, link_setLink inRange]
        exact near _ ended
      · have seen (host : Host) : host.endpoint t = (host.link t.peer).far := by rw [← endpoint_peer, t.peer_peer]
        rw [seen] at ended ⊢
        rw [onLink, link_setLink inRange]
        exact far _ ended
    · have nothing : host.onLink s change = host := by
        rw [onLink, setLink, List.set_eq_of_length_le (Nat.not_lt.mp inRange)]
      rwa [nothing]
  · rwa [onLink, endpoint_setLink_of_ne (Ne.symm same)]

theorem write_yields (s : SocketId) (content : Bytes) :
    host.Yields c l (host.onLink s fun link => (link.write content).2) := by
  apply onLink_yields
  · intro link ended
    rw [Link.write]
    split
    · exact ended
    · split
      · exact ended
      · exact ended
  · intro link ended
    rw [Link.write]
    split
    · exact ended
    · rw [if_pos ended]
      exact ended

theorem shutdown_yields (s : SocketId) (direction : Direction) : host.Yields c l (host.shutdown s direction) := by
  apply onLink_yields
  · intro link ended
    rw [Link.shutdown, ended, Bool.true_or]
  · intro link ended
    rw [Link.shutdown, ended, Bool.true_or]

theorem release_yields (s : SocketId) : host.Yields c l (host.release s) := by
  apply onLink_yields
  · intro link ended
    rw [Link.release]
    split
    · rfl
    · exact ended
  · intro link ended
    rw [Link.release]
    split
    · rfl
    · exact ended

theorem enqueue_yields (holder : ListenerId) : host.Yields c l (host.enqueue holder).2 := by
  have quiet : host.Quiet ⟨0, true⟩ (host.enqueue holder).2 := host.enqueue_quiet _ holder
  have controls : (host.enqueue holder).2.controls = host.controls := rfl
  refine ⟨⟨keeps_of_controls controls, remembers_of_controls controls, quiet.sound, quiet.grows, fun s ended => ?_⟩,
    keepsPath_of_controls controls, ?_⟩
  · rwa [endpoint, host.enqueue_link]
  · have found : (host.enqueue holder).2.listener l = _ := host.listener_set holder l _
    rw [found]
    split
    · rename_i own
      rw [own.1]
      exact List.prefix_append _ _
    · exact List.prefix_refl _

/-- A visitor who comes and goes leaves a connection behind, and no more. -/
theorem knocked_yields (holder : ListenerId) : host.Yields c l (host.knocked holder) := by
  rw [← release_enqueue]
  exact (host.enqueue_yields c l holder).trans (release_yields c l _ _)

end
end Host

namespace ShutdownHandle
variable (handle : ShutdownHandle) {host : Host} {path : String} {l : ListenerId}

theorem interrupt_cases (host : Host) :
    (∃ s, (host.control handle.control).active = some s ∧ handle.interrupt host = (true, host.shutdown s .both)) ∨
      (host.control handle.control).active = none ∧ handle.interrupt host = (false, host) := by
  unfold interrupt
  cases (host.control handle.control).active with
  | some s => exact .inl ⟨s, rfl, rfl⟩
  | none => exact .inr ⟨rfl, rfl⟩

/-- A knock at a path that leads to a listener joins the backlog there. -/
theorem knock_of_leads (known : (host.control handle.control).listenPath = some path) (leads : host.LeadsTo path l)
    (short : (Bytes.ofText path).length < maxSocketPath) : handle.knock host = host.knocked l := by
  obtain ⟨entry, found, socket, holder⟩ := leads
  have reached := Host.connectTo_of_socket found short socket
  rw [holder] at reached
  simp only [knock, known, Host.connect, reached, Except.mapError, Host.release_enqueue]

theorem isRequested_request (inRange : handle.control < host.controls.length) :
    ((handle.request host).control handle.control).isRequested = true := by
  rw [request, Host.control_setControl, if_pos inRange]

end ShutdownHandle

/-- Whoever has knocked waits in the backlog. -/
theorem Host.LeadsTo.answered {host : Host} {path : String} {l : ListenerId} (leads : host.LeadsTo path l) :
    ((host.knocked l).listener l).backlog ≠ [] := by
  obtain ⟨entry, -, -, holder⟩ := leads
  have inRange := inRange_of_open (open_of_listenerOf? holder).1
  have found : (host.knocked l).listener l = _ := host.listener_set l l _
  rw [if_pos ⟨rfl, inRange⟩] at found
  rw [found]
  simp

namespace Session
variable {ρ : Type} {handler : Handler ρ} {session : Session ρ} {host : Host}

/-- The session waits for a connection, and nobody has come. -/
def WaitsForPeer (session : Session ρ) (host : Host) : Prop :=
  session.phase = .arriving ∧ ∃ l, session.channel.state = .listening l none ∧ (host.listener l).backlog = []

/-- The session reads from a stream on which more can come. -/
def WaitsForBytes (session : Session ρ) (host : Host) : Prop :=
  session.phase = .reading ∧ ∃ c, session.channel.connection? = some c ∧ (host.endpoint c.socket).isEnded = false

theorem serve_begun (handler : Handler ρ) (session : Session ρ) (c : Connection) (m : Message) (host : Host) :
    (session.serve handler c m host).1.phase ≠ .arriving := by
  obtain ⟨-, checking | ⟨error, failing, -⟩⟩ := serve_keeps handler session c m host
  · rw [checking]
    exact nofun
  · rw [failing]
    exact nofun

theorem waitsForPeer_of_arrive (phase : session.phase = .arriving)
    (arriving : (session.arrive host).2.1.phase = .arriving) : session.WaitsForPeer host := by
  refine ⟨phase, ?_⟩
  rw [arrive] at arriving
  split at arriving
  · cases arriving
  · cases arriving
  · cases arriving
  · rename_i l listening
    refine ⟨l, listening, ?_⟩
    rw [Host.accept] at arriving
    cases backlog : (host.listener l).backlog with
    | nil => rfl
    | cons s rest =>
      rw [backlog] at arriving
      cases arriving

/-- A session goes back to the start only where it has not left it. -/
theorem waitsForPeer_of_step (handler : Handler ρ) (arriving : (session.step handler host).2.1.phase = .arriving) :
    session.WaitsForPeer host := by
  cases phase : session.phase with
  | arriving =>
    simp only [step, phase] at arriving
    exact waitsForPeer_of_arrive phase arriving
  | attaching s =>
    simp only [step, phase, attach] at arriving
    split at arriving
    · cases arriving
    · cases arriving
  | checking | leaving =>
    simp only [step, phase] at arriving
    split at arriving
    · cases arriving
    · cases arriving
  | reading =>
    simp only [step, phase] at arriving
    split at arriving
    · cases arriving
    · rename_i c _
      rw [readNext] at arriving
      dsimp only at arriving
      split at arriving
      · cases phase.symm.trans arriving
      · cases arriving
      · cases arriving
      · exact absurd arriving (serve_begun handler _ _ _ _)
  | detaching | closing | failing | finished =>
    simp only [step, phase] at arriving
    cases arriving

/-- Where a step has to wait, the session is over, or waits for a peer or for what it sends. -/
theorem step_waits (waits : (session.step handler host).1 = .waits) :
    (∃ result, session.phase = .finished result) ∨ session.WaitsForPeer host ∨ session.WaitsForBytes host := by
  cases phase : session.phase with
  | arriving =>
    refine .inr (.inl (waitsForPeer_of_step handler ?_))
    simp only [step, phase, arrive] at waits ⊢
    split at waits
    · cases waits
    · cases waits
    · cases waits
    · split at waits
      · exact phase
      · cases waits
  | reading =>
    refine .inr (.inr ⟨phase, ?_⟩)
    simp only [step, phase] at waits
    split at waits
    · cases waits
    · rename_i c established
      refine ⟨c, Channel.connection?_of_established established, ?_⟩
      by_contra ended
      have prompt := c.readMessage_ended (Bool.eq_true_of_not_eq_false ended)
      rw [readNext] at waits
      dsimp only at waits
      split at waits
      · rename_i waiting
        exact prompt waiting
      · cases waits
      · cases waits
      · cases waits
  | finished result => exact .inl ⟨result, rfl⟩
  | attaching | checking | leaving | detaching | closing | failing =>
    simp only [step, phase] at waits
    cases waits

/-- Where the request is noted, the session goes on to close its channel and does not wait for anything. -/
def IsWoken (session : Session ρ) (host : Host) : Prop :=
  match session.phase with
  | .arriving => session.channel.isClosed = true
  | .reading => ∃ c, session.channel.connection? = some c ∧ (host.endpoint c.socket).isEnded = true
  | .leaving => True
  | _ => session.IsStopping

theorem IsStopping.isWoken (stopping : session.IsStopping) (begun : session.phase ≠ .arriving) :
    session.IsWoken host := by
  unfold IsWoken
  split
  · rename_i arriving
    exact absurd arriving begun
  · rename_i reading
    rw [IsStopping, reading] at stopping
    exact stopping.elim
  · trivial
  · exact stopping

theorem IsWoken.elsewhere {after : Host} (woken : session.IsWoken host)
    (ended : ∀ s, (host.endpoint s).isEnded = true → (after.endpoint s).isEnded = true) : session.IsWoken after := by
  cases phase : session.phase with
  | reading =>
    rw [IsWoken, phase] at woken ⊢
    obtain ⟨c, connected, shut⟩ := woken
    exact ⟨c, connected, ended _ shut⟩
  | arriving | attaching | checking | leaving | detaching | closing | failing | finished =>
    rw [IsWoken, phase] at woken ⊢
    exact woken

theorem step_woken (handler : Handler ρ) (woken : session.IsWoken host)
    (requested : session.channel.shutdownHandle.isRequested host = true) :
    (session.step handler host).2.1.IsWoken (session.step handler host).2.2 := by
  have begun : (session.step handler host).2.1.phase ≠ .arriving := by
    intro arriving
    obtain ⟨phase, l, listening, -⟩ := waitsForPeer_of_step handler arriving
    rw [IsWoken, phase, Channel.isClosed_eq_true, listening] at woken
    cases woken
  cases phase : session.phase with
  | leaving =>
    apply IsStopping.isWoken _ begun
    simp only [step, phase, requested, if_true]
    trivial
  | reading =>
    rw [IsWoken, phase] at woken
    obtain ⟨c, connected, ended⟩ := woken
    obtain stopping | leaving | ⟨waiting, -⟩ := step_of_reading host handler phase connected
    · exact stopping.isWoken begun
    · rw [IsWoken, leaving]
      trivial
    · exact absurd waiting (c.readMessage_ended ended)
  | arriving | attaching | checking | closing =>
    refine (step_stops handler ?_ requested).isWoken begun
    rw [IsStopping, phase]
    trivial
  | detaching | failing | finished =>
    rw [IsWoken, phase] at woken
    exact (step_stops handler woken requested).isWoken begun

/-- The session has no peer: it has none yet, or none any more. -/
def IsVacant (session : Session ρ) : Prop :=
  match session.phase with
  | .arriving | .finished _ => True
  | _ => False

/-- Where the request is noted, the session goes on to close its channel, or is over. -/
def Heeds (session : Session ρ) : Prop := session.IsStopping ∨ ∃ result, session.phase = .finished result

/-- Somebody has come, so that the channel does not have to wait for its next peer. -/
def IsAnswered (session : Session ρ) (host : Host) : Prop :=
  session.IsVacant → ∀ l, session.channel.state = .listening l none → (host.listener l).backlog ≠ []

theorem IsWoken.ready (woken : session.IsWoken host) : ¬ session.WaitsForPeer host ∧ ¬ session.WaitsForBytes host := by
  constructor
  · rintro ⟨phase, l, listening, -⟩
    rw [IsWoken, phase, Channel.isClosed_eq_true, listening] at woken
    cases woken
  · rintro ⟨phase, c, connected, open'⟩
    rw [IsWoken, phase] at woken
    obtain ⟨c', connected', ended⟩ := woken
    cases connected.symm.trans connected'
    cases open'.symm.trans ended

theorem Heeds.ready (heeds : session.Heeds) (answered : session.IsAnswered host) :
    ¬ session.WaitsForPeer host ∧ ¬ session.WaitsForBytes host := by
  constructor
  · rintro ⟨phase, l, listening, nobody⟩
    refine answered ?_ l listening nobody
    rw [IsVacant, phase]
    trivial
  · rintro ⟨phase, -⟩
    obtain stopping | ⟨result, finished⟩ := heeds
    · rw [IsStopping, phase] at stopping
      exact stopping
    · cases phase.symm.trans finished

theorem step_heeds (handler : Handler ρ) (heeds : session.Heeds)
    (requested : session.channel.shutdownHandle.isRequested host = true) : (session.step handler host).2.1.Heeds := by
  obtain stopping | ⟨result, phase⟩ := heeds
  · exact .inl (step_stops handler stopping requested)
  · simp only [step, phase]
    exact .inr ⟨result, phase⟩

theorem step_answered (handler : Handler ρ) (heeds : session.Heeds) (answered : session.IsAnswered host)
    (requested : session.channel.shutdownHandle.isRequested host = true) :
    (session.step handler host).2.1.IsAnswered (session.step handler host).2.2 := by
  obtain stopping | ⟨result, phase⟩ := heeds
  · have stopping := step_stops handler stopping requested
    intro vacant l listening
    cases phase : (session.step handler host).2.1.phase with
    | arriving =>
      obtain ⟨arriving, l', listening', nobody⟩ := waitsForPeer_of_step handler phase
      refine absurd nobody (answered ?_ l' listening')
      rw [IsVacant, arriving]
      trivial
    | finished result =>
      rw [IsStopping, phase, Channel.isClosed_eq_true, listening] at stopping
      cases stopping
    | attaching | checking | reading | leaving | detaching | closing | failing =>
      rw [IsVacant, phase] at vacant
      exact vacant.elim
  · simp only [step, phase]
    exact answered

end Session

theorem Channel.socket?_of_rests {channel : Channel} (rests : ChannelRole.listening.Rests channel.state) :
    channel.socket? = none := by
  obtain ⟨state, _, _, _⟩ := channel
  rcases state with c | ⟨l, _ | c⟩ | _
  · exact rests.elim
  · rfl
  · exact rests.elim
  · rfl

namespace Activity

/-- The session has looked for a request for the last time, and not parted from its peer yet. -/
def IsDetaching : Activity → Prop
  | idle _ => False
  | serving _ session => session.phase = .detaching

def IsVacant : Activity → Prop
  | idle _ => True
  | serving _ session => session.IsVacant

def IsWoken (host : Host) : Activity → Prop
  | idle channel => channel.isClosed = true
  | serving _ session => session.IsWoken host

def Heeds : Activity → Prop
  | idle _ => True
  | serving _ session => session.Heeds

def IsAnswered (activity : Activity) (host : Host) : Prop :=
  activity.IsVacant → ∀ l, activity.channel.state = .listening l none → (host.listener l).backlog ≠ []

end Activity

namespace Course

/-- What can happen next where a channel only accepts, again and again. -/
inductive Accepts (others : Host → Host → Prop) : Course → Course → Prop
  | starts {channel host} {ρ : Type} (handler : Handler ρ) (memory : ρ) :
      Accepts others ⟨.idle channel, host⟩ ⟨.serving handler (.start channel memory), host⟩
  | serve {ρ : Type} {handler : Handler ρ} {session : Session ρ} {host pace next after}
      (stepped : session.step handler host = (pace, next, after)) :
      Accepts others ⟨.serving handler session, host⟩ ⟨.serving handler next, after⟩
  | returns {ρ : Type} {handler : Handler ρ} {session : Session ρ} {host result}
      (finished : session.phase = .finished result) :
      Accepts others ⟨.serving handler session, host⟩ ⟨.idle session.channel, host⟩
  | elsewhere {activity host after} (allowed : others host after) : Accepts others ⟨activity, host⟩ ⟨activity, after⟩

variable {others others' : Host → Host → Prop} {c : ControlId} {l : ListenerId} {path : String} {o next : Course}

theorem Accepts.moves (accepts : Accepts others o next)
    (fewer : ∀ before after, others before after → others' before after) :
    ∃ deed, Moves others' deed o next := by
  cases accepts with
  | starts handler memory => exact ⟨_, .accept handler memory⟩
  | serve stepped => exact ⟨_, .serve stepped⟩
  | returns finished => exact ⟨_, .returns finished⟩
  | elsewhere allowed => exact ⟨_, .elsewhere (fewer _ _ allowed)⟩

/-- A listening channel in order: it has the listener that it was bound with, and its handles knock at its path. -/
structure Attends (c : ControlId) (path : String) (l : ListenerId) (o : Course) : Prop where
  orderly : o.IsOrderly .listening c
  grounded : o.activity.Grounded ⟨0, true⟩ o.host
  knocks : (o.host.control c).listenPath = some path
  own : ∀ l' peer, o.activity.channel.state = .listening l' peer → l' = l

/-- The request is noted. -/
def IsNoted (c : ControlId) (o : Course) : Prop := (o.host.control c).isRequested = true

theorem Accepts.attends (accepts : Accepts (Host.Yields c l) o next) (attends : o.Attends c path l) :
    next.Attends c path l := by
  obtain ⟨deed, move⟩ := accepts.moves fun _ _ yields => yields.toRespects
  have orderly := (move.mono fun _ _ respects => respects.keeps).orderly attends.orderly
  have grounded := move.grounded attends.grounded
  cases accepts with
  | starts => exact ⟨orderly, grounded, attends.knocks, attends.own⟩
  | returns => exact ⟨orderly, grounded, attends.knocks, attends.own⟩
  | elsewhere yields => exact ⟨orderly, grounded, Eq.trans yields.path attends.knocks, attends.own⟩
  | @serve ρ handler session host pace later after stepped =>
    have abides := session.step_abides handler host
    rw [stepped] at abides
    obtain rfl : session.channel.control = c := attends.orderly.control
    refine ⟨orderly, grounded, Eq.trans abides.path attends.knocks, fun l' peer listening => ?_⟩
    obtain ⟨peer', listening⟩ := abides.listener l' peer listening
    exact attends.own l' peer' listening

theorem Accepts.noted (accepts : Accepts (Host.Yields c l) o next) (noted : o.IsNoted c) : next.IsNoted c := by
  cases accepts with
  | starts => exact noted
  | returns => exact noted
  | elsewhere yields => exact yields.remembers.requested c noted
  | @serve ρ handler session host pace later after stepped =>
    have stands := session.step_stands handler host
    rw [stepped] at stands
    exact stands.remembers.requested c noted

theorem Accepts.woken (accepts : Accepts (Host.Yields c l) o next) (control : o.activity.channel.control = c)
    (noted : o.IsNoted c) (woken : o.activity.IsWoken o.host) : next.activity.IsWoken next.host := by
  cases accepts with
  | starts => exact woken
  | @returns ρ handler session host result finished =>
    simp only [Activity.IsWoken, Session.IsWoken, Session.IsStopping, finished] at woken
    exact woken
  | @elsewhere activity host after yields =>
    cases activity with
    | idle channel => exact woken
    | serving handler session => exact Session.IsWoken.elsewhere woken yields.ended
  | @serve ρ handler session host pace later after stepped =>
    obtain rfl : session.channel.control = c := control
    have later := Session.step_woken handler woken noted
    rwa [stepped] at later

theorem Accepts.heeds (accepts : Accepts (Host.Yields c l) o next) (control : o.activity.channel.control = c)
    (noted : o.IsNoted c) (heeds : o.activity.Heeds) : next.activity.Heeds := by
  cases accepts with
  | starts => exact .inl trivial
  | returns => trivial
  | elsewhere => exact heeds
  | @serve ρ handler session host pace later after stepped =>
    obtain rfl : session.channel.control = c := control
    have later := Session.step_heeds handler heeds noted
    rwa [stepped] at later

theorem Accepts.answered (accepts : Accepts (Host.Yields c l) o next) (attends : o.Attends c path l)
    (noted : o.IsNoted c) (heeds : o.activity.Heeds) (answered : o.activity.IsAnswered o.host) :
    next.activity.IsAnswered next.host := by
  cases accepts with
  | starts => exact fun _ => answered trivial
  | @returns ρ handler session host result finished =>
    have vacant : session.IsVacant := by
      rw [Session.IsVacant, finished]
      trivial
    exact fun _ => answered vacant
  | @elsewhere activity host after yields =>
    -- Nobody but the channel itself takes connections out of its backlog, so whoever has come is still there.
    intro vacant l' listening nobody
    obtain rfl := attends.own l' none listening
    have none := yields.backlog
    rw [nobody] at none
    exact answered vacant _ listening (List.prefix_nil.mp none)
  | @serve ρ handler session host pace later after stepped =>
    obtain rfl : session.channel.control = c := attends.orderly.control
    have later := Session.step_answered handler heeds answered noted
    rwa [stepped] at later

/-- What one step of the handle leaves as it is. -/
theorem Attends.of_host {activity : Activity} {host after : Host} (attends : Attends c path l ⟨activity, host⟩)
    (keeps : host.Keeps c after) (keepsPath : host.KeepsPath c after) (quiet : host.Quiet ⟨0, true⟩ after) :
    Attends c path l ⟨activity, after⟩ :=
  ⟨attends.orderly.keeps keeps, attends.grounded.elsewhere (quiet.sound attends.grounded.sound) quiet.grows,
    Eq.trans keepsPath attends.knocks, attends.own⟩

/-- The stream that the handle shuts down is that of the peer, if it is not one from whom the session is parting. -/
theorem Attends.woken {activity : Activity} {host : Host} {s : SocketId} (attends : Attends c path l ⟨activity, host⟩)
    (active : (host.control c).active = some s) (staying : ¬ activity.IsDetaching) :
    activity.IsWoken (host.shutdown s .both) := by
  obtain ⟨⟨rfl, -, orderly⟩, grounded, -, -⟩ := attends
  cases activity with
  | idle channel =>
    obtain ⟨rests, registered⟩ := orderly
    cases registered.symm.trans active |>.symm.trans (Channel.socket?_of_rests rests)
  | serving handler session =>
    have orderly : session.Orderly .listening host := orderly
    show session.IsWoken (host.shutdown s .both)
    cases phase : session.phase with
    | arriving | finished result =>
      rw [Session.Orderly, phase] at orderly
      cases orderly.2.symm.trans active |>.symm.trans (Channel.socket?_of_rests orderly.1)
    | reading =>
      rw [Session.Orderly, phase] at orderly
      obtain ⟨-, registered, c, connected⟩ := orderly
      rw [Session.IsWoken, phase]
      refine ⟨c, connected, ?_⟩
      have same : some s = some c.socket := active.symm.trans (registered.trans (congrArg (Option.map _) connected))
      cases same
      have inRange := (grounded.toGrounded.side c connected).2
      rw [Host.endpoint, show (host.shutdown c.socket .both).link c.socket = _ from Host.link_setLink inRange]
      simp [Link.shutdown]
    | failing error =>
      rw [Session.IsWoken, phase]
      exact orderly.stops_failing phase
    | detaching =>
      -- The request was looked for before, so that the session parts from this peer and is not going to close.
      exact absurd phase staying
    | attaching | checking | leaving | closing =>
      simp [Session.IsWoken, Session.IsStopping, phase]

/-- Where no stream is registered there is no peer. -/
theorem Attends.heeds {activity : Activity} {host : Host} (attends : Attends c path l ⟨activity, host⟩)
    (silent : (host.control c).active = none) : activity.Heeds := by
  obtain ⟨⟨rfl, -, orderly⟩, -, -, -⟩ := attends
  cases activity with
  | idle channel => trivial
  | serving handler session =>
    have orderly : session.Orderly .listening host := orderly
    show session.Heeds
    cases phase : session.phase with
    | finished result => exact .inr ⟨result, phase⟩
    | failing error => exact .inl (orderly.stops_failing phase)
    | reading | leaving | detaching =>
      rw [Session.Orderly, phase] at orderly
      obtain ⟨-, registered, c, connected⟩ := orderly
      cases silent.symm.trans (registered.trans (congrArg (Option.map _) connected))
    | arriving | attaching | checking | closing =>
      left
      simp [Session.IsStopping, phase]

end Course

/-- How far the call of a handle has got, and what it found when it acted. -/
inductive Alarm : Type 1
  | silent
  | noted
  /-- No stream was registered, so the handle is going to knock. -/
  | knocking
  | interrupted (found : Activity)
  | knocked (found : Course)

namespace Alarm

def IsOver : Alarm → Prop
  | interrupted _ | knocked _ => True
  | _ => False

/-- The call came to nothing. It shut down the stream of a peer from whom the session was about to part, or it knocked
for a channel without a peer where the path did not lead to its listener. -/
def WasMissed (path : String) (l : ListenerId) : Alarm → Prop
  | interrupted found => found.IsDetaching
  | knocked found =>
    found.activity.IsVacant ∧ found.activity.channel.state = .listening l none ∧ ¬ found.host.LeadsTo path l
  | _ => False

/-- What the call has done so far is in force. -/
def Holds (c : ControlId) (path : String) (l : ListenerId) (o : Course) : Alarm → Prop
  | silent => True
  | noted => o.IsNoted c
  | knocking => o.IsNoted c ∧ o.activity.Heeds
  | interrupted found => o.IsNoted c ∧ (¬ (interrupted found).WasMissed path l → o.activity.IsWoken o.host)
  | knocked found =>
    o.IsNoted c ∧ o.activity.Heeds ∧ (¬ (knocked found).WasMissed path l → o.activity.IsAnswered o.host)

variable {c : ControlId} {l : ListenerId} {path : String} {o next : Course}

theorem Holds.accepts {alarm : Alarm} (holds : alarm.Holds c path l o) (attends : o.Attends c path l)
    (accepts : Course.Accepts (Host.Yields c l) o next) : alarm.Holds c path l next := by
  have control := attends.orderly.control
  cases alarm with
  | silent => trivial
  | noted => exact accepts.noted holds
  | knocking => exact ⟨accepts.noted holds.1, accepts.heeds control holds.1 holds.2⟩
  | interrupted found =>
    obtain ⟨noted, woken⟩ := holds
    exact ⟨accepts.noted noted, fun heard => accepts.woken control noted (woken heard)⟩
  | knocked found =>
    obtain ⟨noted, heeds, answered⟩ := holds
    exact ⟨accepts.noted noted, accepts.heeds control noted heeds,
      fun heard => accepts.answered attends noted heeds (answered heard)⟩

end Alarm

/-- A channel that accepts again and again, and one call of its handle. -/
structure Watch : Type 1 where
  course : Course
  alarm : Alarm := .silent

namespace Watch

/-- What can happen next. The steps of the call are those of `ShutdownHandle.shutdown`. -/
inductive Moves (others : Host → Host → Prop) (handle : ShutdownHandle) : Watch → Watch → Prop
  | channel {o next alarm} (accepts : Course.Accepts others o next) : Moves others handle ⟨o, alarm⟩ ⟨next, alarm⟩
  | request {activity host} :
      Moves others handle ⟨⟨activity, host⟩, .silent⟩ ⟨⟨activity, handle.request host⟩, .noted⟩
  | interrupt {activity host after} (found : handle.interrupt host = (true, after)) :
      Moves others handle ⟨⟨activity, host⟩, .noted⟩ ⟨⟨activity, after⟩, .interrupted activity⟩
  | pass {activity host after} (found : handle.interrupt host = (false, after)) :
      Moves others handle ⟨⟨activity, host⟩, .noted⟩ ⟨⟨activity, after⟩, .knocking⟩
  | knock {activity host} :
      Moves others handle ⟨⟨activity, host⟩, .knocking⟩ ⟨⟨activity, handle.knock host⟩, .knocked ⟨activity, host⟩⟩

/-- Any number of moves. -/
def Run (others : Host → Host → Prop) (handle : ShutdownHandle) : Watch → Watch → Prop :=
  Relation.ReflTransGen (Moves others handle)

variable {others : Host → Host → Prop} {handle : ShutdownHandle} {c : ControlId} {l : ListenerId} {path : String}
  {x next : Watch}

/-- A call that nothing comes between does what `ShutdownHandle.shutdown` does. -/
theorem run_shutdown (activity : Activity) (host : Host) :
    ∃ alarm : Alarm, alarm.IsOver ∧
      Run others handle ⟨⟨activity, host⟩, .silent⟩ ⟨⟨activity, handle.shutdown host⟩, alarm⟩ := by
  cases interrupted : handle.interrupt (handle.request host) with
  | mk found after =>
    cases found with
    | true =>
      have done : handle.shutdown host = after := by rw [ShutdownHandle.shutdown, interrupted]
      rw [done]
      exact ⟨.interrupted activity, trivial, .tail (.single .request) (.interrupt interrupted)⟩
    | false =>
      have done : handle.shutdown host = handle.knock after := by rw [ShutdownHandle.shutdown, interrupted]
      rw [done]
      exact ⟨.knocked ⟨activity, after⟩, trivial, .tail (.tail (.single .request) (.pass interrupted)) .knock⟩

structure Sound (c : ControlId) (path : String) (l : ListenerId) (x : Watch) : Prop where
  attends : x.course.Attends c path l
  holds : x.alarm.Holds c path l x.course

theorem Moves.sound (short : (Bytes.ofText path).length < maxSocketPath) (move : Moves (Host.Yields c l) ⟨c⟩ x next)
    (sound : x.Sound c path l) : next.Sound c path l := by
  obtain ⟨attends, holds⟩ := sound
  cases move with
  | channel accepts => exact ⟨accepts.attends attends, holds.accepts attends accepts⟩
  | @request activity host =>
    have inRange := attends.orderly.inRange
    refine ⟨attends.of_host (ShutdownHandle.request_keeps ⟨c⟩ c host) (ShutdownHandle.request_keepsPath ⟨c⟩ host) ?_, ?_⟩
    · exact host.setControl_quiet _ c _
    · exact ShutdownHandle.isRequested_request ⟨c⟩ inRange
  | @interrupt activity host after found =>
    obtain ⟨s, active, shut⟩ | ⟨-, none⟩ := ShutdownHandle.interrupt_cases ⟨c⟩ host
    · cases shut.symm.trans found
      refine ⟨attends.of_host (Host.keeps_of_controls rfl) (Host.keepsPath_of_controls rfl) ?_, holds, ?_⟩
      · exact host.shutdown_quiet _ s .both
      · exact fun heard => attends.woken active heard
    · cases none.symm.trans found
  | @pass activity host after found =>
    obtain ⟨s, -, shut⟩ | ⟨silent, none⟩ := ShutdownHandle.interrupt_cases ⟨c⟩ host
    · cases shut.symm.trans found
    · cases none.symm.trans found
      exact ⟨attends, holds, attends.heeds silent⟩
  | @knock activity host =>
    obtain ⟨noted, heeds⟩ := holds
    -- The knock arrives where the path leads, which is the channel's own listener unless the call was missed.
    have controls := ShutdownHandle.knock_controls ⟨c⟩ host
    refine ⟨attends.of_host (Host.keeps_of_controls controls) (Host.keepsPath_of_controls controls) ?_, ?_, heeds, ?_⟩
    · exact ShutdownHandle.knock_quiet _ host ⟨c⟩
    · exact (Host.remembers_of_controls controls).requested c noted
    · intro heard vacant l' listening
      obtain rfl := attends.own l' none listening
      have leads : host.LeadsTo path l' := by
        by_contra lost
        exact heard ⟨vacant, listening, lost⟩
      rw [ShutdownHandle.knock_of_leads ⟨c⟩ attends.knocks leads short]
      exact leads.answered

theorem Run.sound (short : (Bytes.ofText path).length < maxSocketPath) (run : Run (Host.Yields c l) ⟨c⟩ x next)
    (sound : x.Sound c path l) : next.Sound c path l := by
  induction run with
  | refl => exact sound
  | tail _ moved ih => exact moved.sound short ih

theorem sound_start {before host : Host} {made : Channel} (done : Channel.bind path before = (.ok made, host))
    (tidy : before.Tidy) (grounded : before.Sound) :
    ∃ l, made.state = .listening l none ∧ host.Listens path l [] ∧
      Sound made.control path l ⟨⟨.idle made, host⟩, .silent⟩ := by
  obtain ⟨l, own, listens, -, controls⟩ := Host.bind_listens tidy done
  have role : ChannelRole.listening.make path before = (.ok made, host) := done
  have knocks : (host.control made.control).listenPath = some path := by
    rw [own, Host.control, controls]
    simp
  refine ⟨l, by rw [own], listens, ⟨ChannelRole.make_orderly role, ?_, knocks, fun l' peer listening => ?_⟩, trivial⟩
  · exact ChannelRole.make_grounded role grounded
  · have listening : made.state = .listening l' peer := listening
    rw [own] at listening
    cases listening
    rfl

end Watch

/-- A channel is bound, accepts again and again and is told to stop, in steps of the call that may fall anywhere between
those of accepting. When the call is over, and was not missed, whoever accepts is not left waiting, be it a session that
went on meanwhile or one that was begun later. -/
theorem ShutdownHandle.wakes_unless_missed {path : String} {before host : Host} {made : Channel}
    (done : Channel.bind path before = (.ok made, host)) (tidy : before.Tidy) (grounded : before.Sound) :
    ∃ l, made.state = .listening l none ∧ host.LeadsTo path l ∧
      ∀ x, Watch.Run (Host.Yields made.control l) made.shutdownHandle ⟨⟨.idle made, host⟩, .silent⟩ x →
        x.alarm.IsOver → ¬ x.alarm.WasMissed path l →
        ∀ {ρ : Type} (handler : Handler ρ) session, x.course.activity = .serving handler session →
          ¬ session.WaitsForPeer x.course.host ∧ ¬ session.WaitsForBytes x.course.host ∧
            ((session.step handler x.course.host).1 = .waits → ∃ result, session.phase = .finished result) := by
  obtain ⟨l, listening, listens, start⟩ := Watch.sound_start done tidy grounded
  refine ⟨l, listening, listens.leads, fun x run isOver heard ρ handler session serving => ?_⟩
  obtain ⟨⟨activity, now⟩, alarm⟩ := x
  obtain ⟨-, holds⟩ := run.sound listens.short start
  obtain rfl : activity = .serving handler session := serving
  have ready : ¬ session.WaitsForPeer now ∧ ¬ session.WaitsForBytes now := by
    cases alarm with
    | silent | noted | knocking => exact isOver.elim
    | interrupted found => exact Session.IsWoken.ready (holds.2 heard)
    | knocked found => exact Session.Heeds.ready holds.2.1 (holds.2.2 heard)
  refine ⟨ready.1, ready.2, fun waits => ?_⟩
  obtain finished | peer | bytes := Session.step_waits waits
  · exact finished
  · exact absurd peer ready.1
  · exact absurd bytes ready.2

/-- A channel that listens at a path. -/
def listenerAt (path : String) : Channel := ⟨.listening 0 none, path, {}, 0⟩

/-- Answers nothing. -/
def mute : Handler Unit := fun _ _ => ((), [])

theorem bind_listener : Channel.bind "s" {} = (.ok (listenerAt "s"), listeningHost) := by cbv

theorem listener_leads (links : List Link) (controls : List Control) :
    ({ listeningHost with links, controls } : Host).LeadsTo "s" 0 :=
  ⟨⟨["s"], 1, .socket, defaultSocketMode⟩, by cbv, rfl, by cbv⟩

/-- A channel is told to stop that waits for its first peer. The knock is in its backlog. -/
theorem ShutdownHandle.wakes_unless_missed_before_any_peer :
    ∃ host alarm, Watch.Run (Host.Yields 0 0) ⟨0⟩ ⟨⟨.idle (listenerAt "s"), listeningHost⟩, .silent⟩
        ⟨⟨.serving mute (.start (listenerAt "s") ()), host⟩, alarm⟩ ∧
      alarm.IsOver ∧ ¬ alarm.WasMissed "s" 0 ∧ (host.listener 0).backlog = [⟨0, true⟩] ∧
      ¬ (Session.start (listenerAt "s") ()).WaitsForPeer host ∧
      ((Session.start (listenerAt "s") ()).step mute host).1 ≠ .waits := by
  have grounded : ({} : Host).Sound := fun l t waits => absurd waits List.not_mem_nil
  obtain ⟨l, listening, leads, wakes⟩ := wakes_unless_missed bind_listener Tenure.isValid_start.tidy grounded
  cases listening
  let told : Host := { listeningHost with controls := [{ listenPath := some "s", isRequested := true }] }
  have asked : Watch.Run (Host.Yields 0 0) ⟨0⟩ ⟨⟨.idle (listenerAt "s"), listeningHost⟩, .silent⟩
      ⟨⟨.serving mute (.start (listenerAt "s") ()), told⟩, .knocking⟩ :=
    .tail (.tail (.single (.channel (.starts mute ()))) .request) (.pass rfl)
  have knocks : (⟨0⟩ : ShutdownHandle).knock told = told.knocked 0 :=
    ShutdownHandle.knock_of_leads ⟨0⟩ rfl (listener_leads _ _) (by decide)
  have run := knocks ▸ Relation.ReflTransGen.tail asked Watch.Moves.knock
  have heard : ¬ Alarm.WasMissed "s" 0 (.knocked ⟨.serving mute (.start (listenerAt "s") ()), told⟩) :=
    fun missed => missed.2.2 (listener_leads _ _)
  obtain ⟨woken, -, onwards⟩ := wakes _ run trivial heard mute _ rfl
  refine ⟨told.knocked 0, _, run, trivial, heard, rfl, woken, fun waits => ?_⟩
  obtain ⟨result, finished⟩ := onwards waits
  cases finished

/-- A call that is missed leaves its channel waiting. A visitor has gone, the session has looked for a request for the
last time and is about to part from the visitor; the handle finds the visitor's stream, shuts it down and knocks at no
door. The next session waits for somebody to come, though the path leads to its listener. -/
theorem ShutdownHandle.leaves_listener_waiting :
    Channel.bind "s" {} = (.ok (listenerAt "s"), listeningHost) ∧
      ∃ alarm session host, Watch.Run (Host.Yields 0 0) ⟨0⟩ ⟨⟨.idle (listenerAt "s"), listeningHost⟩, .silent⟩
          ⟨⟨.serving mute session, host⟩, alarm⟩ ∧
        alarm.IsOver ∧ (⟨0⟩ : ShutdownHandle).isRequested host = true ∧ host.LeadsTo "s" 0 ∧
        (host.listener 0).backlog = [] ∧ session.WaitsForPeer host ∧ (session.step mute host).1 = .waits := by
  let Reaches (activity : Activity) (host : Host) (alarm : Alarm) : Prop :=
    Watch.Run (Host.Yields 0 0) ⟨0⟩ ⟨⟨.idle (listenerAt "s"), listeningHost⟩, .silent⟩ ⟨⟨activity, host⟩, alarm⟩
  have comes : Reaches (.serving mute ⟨listenerAt "s", (), .arriving⟩) (listeningHost.knocked 0) .silent :=
    .tail (.single (.channel (.starts mute ()))) (.channel (.elsewhere (Host.knocked_yields 0 0 _ 0)))
  have attaches : Reaches (.serving mute ⟨listenerAt "s", (), .attaching ⟨0, true⟩⟩) _ .silent :=
    .tail comes (.channel (.serve rfl))
  have checks : Reaches (.serving mute ⟨_, (), .checking⟩) _ .silent := .tail attaches (.channel (.serve rfl))
  have reads : Reaches (.serving mute ⟨_, (), .reading⟩) _ .silent := .tail checks (.channel (.serve rfl))
  have leaves : Reaches (.serving mute ⟨_, (), .leaving⟩) _ .silent := .tail reads (.channel (.serve rfl))
  have parting : Reaches (.serving mute ⟨_, (), .detaching⟩) _ .silent := .tail leaves (.channel (.serve rfl))
  -- The session has looked for a request, and there was none; the handle finds the stream that is about to be given up.
  have told : Reaches (.serving mute ⟨_, (), .detaching⟩) _ (.interrupted _) :=
    .tail (.tail parting .request) (.interrupt rfl)
  have parted : Reaches (.serving mute ⟨listenerAt "s", (), .finished (.ok ())⟩)
      { listeningHost with links := [_], controls := [{ listenPath := some "s", isRequested := true }] } _ :=
    .tail told (.channel (.serve rfl))
  have again : Reaches (.serving mute ⟨listenerAt "s", (), .arriving⟩) _ _ :=
    .tail (.tail parted (.channel (.returns rfl))) (.channel (.starts mute ()))
  exact ⟨bind_listener, _, _, _, again, trivial, rfl, listener_leads _ _, rfl, ⟨rfl, 0, rfl, rfl⟩, rfl⟩

end CallWire
