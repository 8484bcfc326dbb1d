import CallWire.Proofs.OutgoingStream
import CallWire.Proofs.RememberedRequests
import Mathlib

/-! What a shutdown request prevents. Whoever serves looks for one before every message, so after a request no handler
is asked again, whatever has come in already, and accepting does not return before the channel is closed. -/

namespace CallWire

inductive ChannelEvent
  /-- A handler was given a request. -/
  | handled (request : Message)
  | shutdown
  /-- Accepting came to its end, and left the channel closed or not. -/
  | returned (isClosed : Bool)
  deriving DecidableEq

/-- Whether it may happen after a shutdown request. -/
def ChannelEvent.IsPermitted : ChannelEvent → Prop
  | handled _ => False
  | shutdown => True
  | returned isClosed => isClosed = true

/-- Nothing happened after a shutdown request but what may. -/
def IsHeeded (log : List ChannelEvent) : Prop := log.Pairwise fun earlier later => earlier = .shutdown → later.IsPermitted

def HandlerAction.event? : HandlerAction → Option ChannelEvent
  | shutdown => some .shutdown
  | place _ | withdraw => none

theorem HandlerAction.event?_eq_some {action : HandlerAction} {event : ChannelEvent} (happens : action.event? = some event) :
    action = .shutdown ∧ event = .shutdown := by
  cases action with
  | shutdown =>
    cases happens
    exact ⟨rfl, rfl⟩
  | place | withdraw => cases happens

namespace Session
variable {ρ : Type}

/-- The request that the next step hands to the handler, if there is one. -/
def asked? (session : Session ρ) (host : Host) : Option Message :=
  match session.phase, session.channel.established with
  | .reading, .ok c =>
    match (c.readMessage host).1 with
    | .done (.ok (some m)) => if m.isRequest then some m else none
    | _ => none
  | _, _ => none

/-- What happens in the next step. -/
def events (handler : Handler ρ) (session : Session ρ) (host : Host) : List ChannelEvent :=
  (session.asked? host).elim [] fun m => .handled m :: (handler session.memory m).2.filterMap HandlerAction.event?

/-- The session does not read any more, and comes to its end with the channel closed. -/
def IsStopping (session : Session ρ) : Prop :=
  match session.phase with
  | .arriving | .attaching _ | .checking | .closing => True
  | .failing error => Channel.leavesOpen error = false ∨ session.channel.isClosed = true
  | .finished _ => session.channel.isClosed = true
  | .reading | .leaving | .detaching => False

variable {handler : Handler ρ} {session : Session ρ} {host : Host}

theorem asked?_of_phase (other : session.phase ≠ .reading) : session.asked? host = none := by
  unfold asked?
  split
  · exact absurd ‹_› other
  · rfl

theorem asked?_of_reading {c : Connection} (phase : session.phase = .reading)
    (established : session.channel.established = .ok c) :
    session.asked? host =
      match (c.readMessage host).1 with
      | .done (.ok (some m)) => if m.isRequest then some m else none
      | _ => none := by
  simp only [asked?, phase, established]

/-- What the handler would make of anything else does not matter. -/
theorem step_congr {other : Handler ρ}
    (same : ∀ m, session.asked? host = some m → handler session.memory m = other session.memory m) :
    session.step handler host = session.step other host := by
  cases phase : session.phase with
  | reading =>
    simp only [step, phase]
    split
    · rfl
    · rename_i c established
      rw [asked?_of_reading phase established] at same
      rcases received : c.readMessage host with ⟨outcome, c', after⟩
      rw [received] at same
      simp only [readNext, received]
      rcases outcome with (error | _ | m) | _
      · rfl
      · rfl
      · simp only [serve]
        split
        · rename_i request
          rw [same m (if_pos request)]
        · rfl
      · rfl
  | _ => simp only [step, phase]

theorem serve_stands (handler : Handler ρ) (session : Session ρ) (c : Connection) (m : Message) (host : Host) :
    session.channel.Stands host (session.serve handler c m host).1.channel (session.serve handler c m host).2 := by
  unfold serve
  split
  · have performed := perform_remembers session.channel.shutdownHandle (handler session.memory m).2 .empty host
    dsimp only
    split
    · exact ⟨rfl, performed⟩
    · rename_i reply _
      have sent := performed.trans (Host.remembers_of_controls (c.send_controls _ reply.bytes))
      split
      · rename_i done
        rw [done] at sent
        exact ⟨rfl, sent⟩
      · rename_i done
        rw [done] at sent
        exact ⟨rfl, sent⟩
  · exact session.channel.stands_refl host

theorem step_stands (handler : Handler ρ) (session : Session ρ) (host : Host) :
    session.channel.Stands host (session.step handler host).2.1.channel (session.step handler host).2.2 := by
  cases phase : session.phase with
  | arriving =>
    simp only [step, phase, arrive]
    split
    · exact session.channel.stands_refl host
    · exact session.channel.stands_refl host
    · exact session.channel.stands_refl host
    · rename_i l _
      have taken := host.accept_controls l
      split
      · rename_i accepted
        rw [accepted] at taken
        exact ⟨rfl, Host.remembers_of_controls taken⟩
      · rename_i accepted
        rw [accepted] at taken
        exact ⟨rfl, Host.remembers_of_controls taken⟩
  | attaching s =>
    have used := Connection.attach_remembers host s session.channel.config session.channel.control
    simp only [step, phase, attach]
    split
    · rename_i done
      rw [done] at used
      exact ⟨rfl, used⟩
    · rename_i done
      rw [done] at used
      exact ⟨session.channel.setConnection_control _, used⟩
  | checking | leaving | finished result =>
    simp only [step, phase]
    exact session.channel.stands_refl host
  | reading =>
    simp only [step, phase]
    split
    · exact session.channel.stands_refl host
    · rename_i c _
      have read : session.channel.Stands host (session.channel.setConnection (c.readMessage host).2.1) (c.readMessage host).2.2 :=
        ⟨session.channel.setConnection_control _, Host.remembers_of_controls (c.readMessage_controls host)⟩
      unfold readNext
      dsimp only
      split
      · exact read
      · exact read
      · exact read
      · rename_i m _
        exact read.trans (serve_stands handler { session with channel := session.channel.setConnection _ } _ m _)
  | detaching =>
    simp only [step, phase]
    exact session.channel.detachPeer_stands host
  | closing =>
    simp only [step, phase]
    exact session.channel.close_stands host
  | failing error =>
    simp only [step, phase]
    exact session.channel.fail_stands host error

theorem isStopping_of_checking (phase : session.phase = .checking) : session.IsStopping := by
  rw [IsStopping, phase]
  trivial

theorem isStopping_of_failing {error : ChannelError} (phase : session.phase = .failing error)
    (fatal : Channel.leavesOpen error = false) : session.IsStopping := by
  rw [IsStopping, phase]
  exact .inl fatal

/-- However serving a request ends, the next thing is not to read on. -/
theorem serve_stops (handler : Handler ρ) (session : Session ρ) (c : Connection) (m : Message) (host : Host) :
    (session.serve handler c m host).1.IsStopping := by
  unfold serve
  split
  · dsimp only
    split
    · exact isStopping_of_failing rfl rfl
    · split
      · exact isStopping_of_checking rfl
      · rename_i failed
        exact isStopping_of_failing rfl (leavesOpen_send c failed)
  · exact isStopping_of_failing rfl rfl

theorem asked?_of_stopping (stopping : session.IsStopping) : session.asked? host = none := by
  apply asked?_of_phase
  intro reading
  rw [IsStopping, reading] at stopping
  exact stopping

/-- With the request noted a session that is stopping goes on to do so. -/
theorem step_stops (handler : Handler ρ) (stopping : session.IsStopping)
    (requested : session.channel.shutdownHandle.isRequested host = true) :
    (session.step handler host).2.1.IsStopping := by
  cases phase : session.phase with
  | arriving =>
    simp only [step, phase, arrive]
    split
    · rename_i closed
      -- A closed channel cannot be served; this is the one failure that closes nothing.
      exact .inr (Channel.isClosed_eq_true.mpr closed)
    · exact isStopping_of_checking rfl
    · exact isStopping_of_checking rfl
    · split
      · exact stopping
      · trivial
  | attaching s =>
    simp only [step, phase, attach]
    split
    · rename_i failed
      exact isStopping_of_failing rfl (Connection.leavesOpen_attach failed)
    · exact isStopping_of_checking rfl
  | checking =>
    simp only [step, phase, requested, if_true]
    trivial
  -- A session is not stopping in these phases.
  | reading | leaving | detaching =>
    rw [IsStopping, phase] at stopping
    exact stopping.elim
  | closing =>
    simp only [step, phase, IsStopping]
    rw [Channel.close_state]
    rfl
  | failing error =>
    rw [IsStopping, phase] at stopping
    simp only [step, phase, IsStopping]
    rcases stopping with fatal | closed
    · exact Channel.fail_isClosed fatal host
    · rw [Channel.isClosed_eq_true] at closed ⊢
      exact (session.channel.fail_narrows error host).closed closed
  | finished result =>
    simp only [step, phase]
    exact stopping

theorem asked?_eq_some {m : Message} (asked : session.asked? host = some m) :
    ∃ c, session.phase = .reading ∧ session.channel.established = .ok c ∧
      (c.readMessage host).1 = .done (.ok (some m)) ∧ m.isRequest = true := by
  unfold asked? at asked
  split at asked
  · rename_i c phase established
    split at asked
    · rename_i m' received
      split at asked
      · rename_i request
        cases asked
        exact ⟨c, phase, established, received, request⟩
      · cases asked
    · cases asked
  · cases asked

theorem isRequested_serve {c : Connection} {m : Message} (request : m.isRequest = true)
    (calls : .shutdown ∈ (handler session.memory m).2) (inRange : session.channel.control < host.controls.length) :
    session.channel.shutdownHandle.isRequested (session.serve handler c m host).2 = true := by
  have noted : session.channel.shutdownHandle.isRequested _ = true := isRequested_perform calls inRange .empty
  unfold serve
  rw [if_pos request]
  dsimp only
  split
  · exact noted
  · rename_i reply _
    have kept := (Host.remembers_of_controls (c.send_controls _ reply.bytes)).requested _ noted
    split
    · rename_i done
      rw [done] at kept
      exact kept
    · rename_i done
      rw [done] at kept
      exact kept

/-- A request that the handler makes is noted before the session goes on. -/
theorem step_of_shutdown (calls : .shutdown ∈ session.events handler host)
    (inRange : session.channel.control < host.controls.length) :
    (session.step handler host).2.1.IsStopping ∧
      session.channel.shutdownHandle.isRequested (session.step handler host).2.2 = true := by
  cases asked : session.asked? host with
  | none => simp [events, asked] at calls
  | some m =>
    obtain ⟨c, phase, established, received, request⟩ := asked?_eq_some asked
    let reading : Session ρ := { session with channel := session.channel.setConnection (c.readMessage host).2.1 }
    have stepped : session.step handler host =
        (.moves, reading.serve handler (c.readMessage host).2.1 m (c.readMessage host).2.2) := by
      simp only [step, phase, established, readNext, received]
      rfl
    have own : reading.channel.control = session.channel.control := session.channel.setConnection_control _
    have calls : .shutdown ∈ (handler reading.memory m).2 := by
      rw [events, asked, Option.elim, List.mem_cons, List.mem_filterMap] at calls
      obtain called | ⟨action, member, happens⟩ := calls
      · cases called
      · rwa [(HandlerAction.event?_eq_some happens).1] at member
    have inRange : reading.channel.control < (c.readMessage host).2.2.controls.length := by
      rw [own, c.readMessage_controls]
      exact inRange
    have noted := isRequested_serve request calls inRange (c := (c.readMessage host).2.1)
    rw [stepped]
    refine ⟨serve_stops handler reading _ m _, ?_⟩
    rwa [ShutdownHandle.isRequested, Channel.shutdownHandle, own] at noted

theorem events_heeded (handler : Handler ρ) (session : Session ρ) (host : Host) : IsHeeded (session.events handler host) := by
  unfold events
  cases session.asked? host with
  | none => exact .nil
  | some m =>
    refine .cons (fun _ _ first => nomatch first) (List.pairwise_of_forall_mem_list fun _ _ later member _ => ?_)
    obtain ⟨action, -, happens⟩ := List.mem_filterMap.mp member
    rw [(HandlerAction.event?_eq_some happens).2]
    trivial

end Session

namespace Activity

def channel : Activity → Channel
  | idle channel => channel
  | serving _ session => session.channel

/-- If a session is going on, it is stopping. -/
def IsStopping : Activity → Prop
  | idle _ => True
  | serving _ session => session.IsStopping

end Activity

/-- A channel at work, and what happened to it. -/
structure Lifetime : Type 1 where
  activity : Activity
  host : Host
  log : List ChannelEvent := []

namespace Lifetime

/-- What can happen next. A shutdown is requested between two operations, or by a handler. A channel that refuses a
configuration is dropped. Others may do what they want to the host, except that it remembers what was requested. -/
inductive Moves (handle : ShutdownHandle) : Lifetime → Lifetime → Prop
  | attempt {channel host log outcome next after} (op : ChannelOperation)
      (done : op.attempt channel host = (outcome, next, after)) :
      Moves handle ⟨.idle channel, host, log⟩ ⟨.idle next, after, log⟩
  | configure {channel host log next after} (config : FrameConfig)
      (done : channel.withConfig config host = (.ok next, after)) :
      Moves handle ⟨.idle channel, host, log⟩ ⟨.idle next, after, log⟩
  | drop {channel host log error after} (config : FrameConfig)
      (done : channel.withConfig config host = (.error error, after)) :
      Moves handle ⟨.idle channel, host, log⟩ ⟨.idle { channel with state := .closed }, after, log⟩
  | close {channel host log next after} (done : channel.close host = (next, after)) :
      Moves handle ⟨.idle channel, host, log⟩ ⟨.idle next, after, log⟩
  | accept {channel host log} {ρ : Type} (handler : Handler ρ) (memory : ρ) :
      Moves handle ⟨.idle channel, host, log⟩ ⟨.serving handler (.start channel memory), host, log⟩
  | serve {ρ : Type} {handler : Handler ρ} {session : Session ρ} {host log pace next after}
      (stepped : session.step handler host = (pace, next, after)) :
      Moves handle ⟨.serving handler session, host, log⟩
        ⟨.serving handler next, after, log ++ session.events handler host⟩
  | returns {ρ : Type} {handler : Handler ρ} {session : Session ρ} {host log result}
      (finished : session.phase = .finished result) :
      Moves handle ⟨.serving handler session, host, log⟩
        ⟨.idle session.channel, host, log ++ [.returned session.channel.isClosed]⟩
  | shutdown {channel host log} :
      Moves handle ⟨.idle channel, host, log⟩ ⟨.idle channel, handle.shutdown host, log ++ [.shutdown]⟩
  | elsewhere {activity host log after} (remembers : host.Remembers after) :
      Moves handle ⟨activity, host, log⟩ ⟨activity, after, log⟩

/-- Any number of moves. -/
def Run (handle : ShutdownHandle) : Lifetime → Lifetime → Prop := Relation.ReflTransGen (Moves handle)

/-- Accepting is such a run; where it has to wait, others move before it goes on. -/
theorem run_accept {ρ : Type} {handler : Handler ρ} {handle : ShutdownHandle} {log : List ChannelEvent} (channel : Channel)
    (memory : ρ) (host : Host) :
    ∃ later, Run handle ⟨.idle channel, host, log⟩
      ⟨.serving handler (channel.accept handler memory host).2.1, (channel.accept handler memory host).2.2, later⟩ := by
  rw [Session.accept_eq_advance]
  refine Session.advance_induction (motive := fun session after => ∃ later, Run handle ⟨.idle channel, host, log⟩
    ⟨.serving handler session, after, later⟩) ?_ _ ⟨_, .single (.accept handler memory)⟩
  intro session host pace next after run stepped
  obtain ⟨later, run⟩ := run
  exact ⟨_, run.tail (.serve stepped)⟩

/-- The handle is that of the channel, and once it was used the request is noted and heeded. -/
structure Obeys (handle : ShutdownHandle) (o : Lifetime) : Prop where
  control : o.activity.channel.control = handle.control
  inRange : handle.control < o.host.controls.length
  heeded : IsHeeded o.log
  stops : .shutdown ∈ o.log → handle.isRequested o.host = true ∧ o.activity.IsStopping

variable {handle : ShutdownHandle} {o next : Lifetime}

theorem Obeys.extend (obeys : o.Obeys handle)
    (stands : o.activity.channel.Stands o.host next.activity.channel next.host) {events : List ChannelEvent}
    (logged : next.log = o.log ++ events) (heeded : IsHeeded events)
    (begins : .shutdown ∈ events → handle.isRequested next.host = true ∧ next.activity.IsStopping)
    (goes : .shutdown ∈ o.log → next.activity.IsStopping ∧ ∀ event ∈ events, event.IsPermitted) :
    next.Obeys handle := by
  refine ⟨stands.control.trans obeys.control, Nat.lt_of_lt_of_le obeys.inRange stands.remembers.grows, ?_, ?_⟩
  · rw [logged]
    refine List.pairwise_append.mpr ⟨obeys.heeded, heeded, ?_⟩
    intro earlier before later member request
    exact (goes (request ▸ before)).2 later member
  · intro requested
    rw [logged, List.mem_append] at requested
    rcases requested with before | now
    · exact ⟨stands.remembers.requested _ (obeys.stops before).1, (goes before).1⟩
    · exact begins now

/-- Nothing happens that matters. -/
theorem Obeys.quietly (obeys : o.Obeys handle)
    (stands : o.activity.channel.Stands o.host next.activity.channel next.host) (logged : next.log = o.log)
    (stops : o.activity.IsStopping → next.activity.IsStopping) : next.Obeys handle :=
  obeys.extend stands (logged.trans (List.append_nil _).symm) .nil nofun
    fun before => ⟨stops (obeys.stops before).2, nofun⟩

/-- A session heeds a request that was noted before, or is made in this step. -/
theorem Obeys.step {ρ : Type} {handler : Handler ρ} {session : Session ρ} {host : Host} {log : List ChannelEvent}
    (obeys : Obeys handle ⟨.serving handler session, host, log⟩) :
    Obeys handle ⟨.serving handler (session.step handler host).2.1, (session.step handler host).2.2,
      log ++ session.events handler host⟩ := by
  have own : session.channel.shutdownHandle = handle := congrArg ShutdownHandle.mk obeys.control
  refine obeys.extend (session.step_stands handler host) rfl (session.events_heeded handler host) ?_ ?_
  · intro calls
    have inRange : session.channel.control < host.controls.length := obeys.control ▸ obeys.inRange
    obtain ⟨stopping, requested⟩ := Session.step_of_shutdown calls inRange
    exact ⟨own ▸ requested, stopping⟩
  · intro before
    obtain ⟨requested, stopping⟩ := obeys.stops before
    refine ⟨Session.step_stops handler stopping (own ▸ requested), ?_⟩
    rw [Session.events, Session.asked?_of_stopping stopping]
    exact nofun

theorem Moves.obeys (move : Moves handle o next) (obeys : o.Obeys handle) : next.Obeys handle := by
  cases move with
  | @attempt channel host _ _ _ _ op done =>
    have stands := channel.attempt_stands host op
    rw [done] at stands
    exact obeys.quietly stands rfl id
  | @configure channel host _ _ _ config done =>
    obtain ⟨remembers, kept⟩ := channel.withConfig_remembers host config
    rw [done] at remembers kept
    exact obeys.quietly ⟨kept _ rfl, remembers⟩ rfl id
  | @drop channel host _ _ _ config done =>
    obtain ⟨remembers, -⟩ := channel.withConfig_remembers host config
    rw [done] at remembers
    exact obeys.quietly ⟨rfl, remembers⟩ rfl id
  | @close channel host _ _ _ done =>
    have stands := channel.close_stands host
    rw [done] at stands
    exact obeys.quietly stands rfl id
  | @accept channel host _ _ handler memory =>
    exact obeys.quietly (channel.stands_refl host) rfl id
  | serve stepped =>
    have done := obeys.step
    rwa [stepped] at done
  | @returns _ _ session host _ _ finished =>
    refine obeys.extend (session.channel.stands_refl host) rfl (List.pairwise_singleton _ _) (by simp) ?_
    intro before
    have stopping : session.IsStopping := (obeys.stops before).2
    rw [Session.IsStopping, finished] at stopping
    refine ⟨trivial, ?_⟩
    intro event member
    rw [List.mem_singleton.mp member]
    exact stopping
  | @shutdown channel host _ =>
    refine obeys.extend ⟨rfl, handle.shutdown_remembers host⟩ rfl (List.pairwise_singleton _ _) ?_ ?_
    · intro _
      exact ⟨handle.isRequested_shutdown obeys.inRange, trivial⟩
    · intro _
      refine ⟨trivial, ?_⟩
      intro event member
      rw [List.mem_singleton.mp member]
      trivial
  | elsewhere remembers => exact obeys.quietly ⟨rfl, remembers⟩ rfl id

theorem Run.obeys (run : Run handle o next) (obeys : o.Obeys handle) : next.Obeys handle := by
  -- On the moves, the last one first: what was heeded before it is heeded after it.
  induction run with
  | refl => exact obeys
  | tail _ move ih => exact move.obeys ih

end Lifetime

namespace Channel
variable {channel : Channel} {host : Host}

/-- The channel was made just now, by connecting or by listening. -/
inductive Made : Channel → Host → Prop
  | connected {path channel host after} (done : connect path host = (.ok channel, after)) : Made channel after
  | bound {path channel host after} (done : bind path host = (.ok channel, after)) : Made channel after

theorem Made.inRange (made : channel.Made host) : channel.control < host.controls.length := by
  cases made with
  | connected done =>
    unfold connect at done
    split at done
    · cases done
    · rename_i s joined _
      dsimp only at done
      have used := Connection.attach_remembers (joined.newControl {}).2 s {} (joined.newControl {}).1
      split at done
      · rename_i attached
        rw [attached] at used
        cases done
        exact Nat.lt_of_lt_of_le (joined.newControl_inRange {}) used.grows
      · cases done
  | bound done =>
    unfold bind at done
    split at done
    · cases done
    · rename_i l opened _
      cases done
      exact opened.newControl_inRange _

/-- Once a shutdown was requested the request stands, the handler is not asked any more, whatever has come in, and
accepting leaves the channel closed whenever it returns. -/
theorem no_dispatch_after_shutdown (made : channel.Made host) {o : Lifetime}
    (run : Lifetime.Run channel.shutdownHandle { activity := .idle channel, host } o) (before later : List ChannelEvent)
    (requested : o.log = before ++ .shutdown :: later) :
    channel.shutdownHandle.isRequested o.host = true ∧ (∀ m, .handled m ∉ later) ∧ .returned false ∉ later ∧
      ∀ {ρ : Type} (handler other : Handler ρ) session, o.activity = .serving handler session →
        session.step handler o.host = session.step other o.host := by
  have fresh : Lifetime.Obeys channel.shutdownHandle { activity := .idle channel, host } :=
    ⟨rfl, made.inRange, .nil, nofun⟩
  have obeys := run.obeys fresh
  obtain ⟨noted, stopping⟩ := obeys.stops (requested ▸ List.mem_append_right before List.mem_cons_self)
  have heeded := obeys.heeded
  rw [requested, IsHeeded, List.pairwise_append, List.pairwise_cons] at heeded
  obtain ⟨-, ⟨permitted, -⟩, -⟩ := heeded
  refine ⟨noted, ?_, ?_, ?_⟩
  · intro m member
    exact permitted _ member rfl
  · intro member
    cases permitted _ member rfl
  · intro ρ handler other session serving
    rw [serving] at stopping
    apply Session.step_congr
    rw [Session.asked?_of_stopping stopping]
    exact nofun

/-- The handler shuts the channel down at the first of two requests that came together. -/
theorem no_dispatch_after_shutdown_buffered :
    let first := Message.request 7 1 0 []
    let second := Message.request 8 1 0 []
    let handler : Handler Unit := fun _ m => ((), [.place (Message.response m.callId []), .shutdown])
    let channel : Channel := ⟨.listening 0 none, "s", {}, 0⟩
    let arrived (host : Host) : Host :=
      { host with
        links := [⟨{}, { inbox := frameOf first.bytes ++ frameOf second.bytes }⟩]
        listeners := [{ path := "s", inode := 1, backlog := [⟨0, true⟩] }] }
    ∃ host o, channel.Made host ∧
      Lifetime.Moves channel.shutdownHandle ⟨.idle channel, host, []⟩ ⟨.idle channel, arrived host, []⟩ ∧
      Lifetime.Moves channel.shutdownHandle ⟨.idle channel, arrived host, []⟩
        ⟨.serving handler (.start channel ()), arrived host, []⟩ ∧
      Lifetime.Run channel.shutdownHandle ⟨.serving handler (.start channel ()), arrived host, []⟩ o ∧
      o.log = [.handled first, .shutdown, .returned true] ∧ channel.shutdownHandle.isRequested o.host = true := by
  intro first second handler channel arrived
  let bound : Host :=
    { listeners := [{ path := "s", inode := 1 }], files := [⟨["s"], 1, .socket, 0o600⟩],
      controls := [{ listenPath := some "s" }], lastInode := 1 }
  have done : bind "s" {} = (.ok channel, bound) := by cbv
  have arrives : Lifetime.Moves channel.shutdownHandle ⟨.idle channel, bound, []⟩ ⟨.idle channel, arrived bound, []⟩ :=
    .elsewhere (Host.remembers_of_controls rfl)
  have accepts : Lifetime.Moves channel.shutdownHandle ⟨.idle channel, arrived bound, []⟩
      ⟨.serving handler (.start channel ()), arrived bound, []⟩ := .accept handler ()
  -- The states are written down as far as the handler is asked, so that each step is evaluated alone.
  let taken : Host := { arrived bound with listeners := [{ path := "s", inode := 1 }] }
  let near : Endpoint :=
    { inbox := frameOf first.bytes ++ frameOf second.bytes, descriptors := 3,
      readTimeout := ({} : FrameConfig).readTimeout, writeTimeout := ({} : FrameConfig).writeTimeout }
  let attached : Host :=
    { taken with links := [⟨{}, near⟩], controls := [{ active := some ⟨0, true⟩, listenPath := some "s" }] }
  let serving : Channel := { channel with state := .listening 0 (some ⟨⟨0, true⟩, {}, {}⟩) }
  have arriving : (Session.start channel ()).step handler (arrived bound) =
      (.moves, ⟨channel, (), .attaching ⟨0, true⟩⟩, taken) := rfl
  have attaching : Session.step handler ⟨channel, (), .attaching ⟨0, true⟩⟩ taken =
      (.moves, ⟨serving, (), .checking⟩, attached) := rfl
  have checking : Session.step handler ⟨serving, (), .checking⟩ attached =
      (.moves, ⟨serving, (), .reading⟩, attached) := rfl
  have prepares : Lifetime.Run channel.shutdownHandle ⟨.serving handler (.start channel ()), arrived bound, []⟩
      ⟨.serving handler ⟨serving, (), .reading⟩, attached, []⟩ :=
    .tail (.tail (.single (.serve arriving)) (.serve attaching)) (.serve checking)
  -- The handler of the first request asks for the shutdown, so that the reply meets a broken pipe.
  have happens : Session.events handler ⟨serving, (), .reading⟩ attached = [.handled first, .shutdown] := by cbv
  have failing : (Session.step handler ⟨serving, (), .reading⟩ attached).2.1.phase = .failing (.io .brokenPipe) := by cbv
  rcases reading : Session.step handler ⟨serving, (), .reading⟩ attached with ⟨pace, ⟨stopped, memory, phase⟩, after⟩
  rw [reading] at failing
  cases failing
  have reads : Lifetime.Moves channel.shutdownHandle ⟨.serving handler ⟨serving, (), .reading⟩, attached, []⟩ _ :=
    .serve reading
  rw [happens] at reads
  rcases left : stopped.fail (.io .brokenPipe) after with ⟨last, final⟩
  have closed : last.isClosed = true := by
    rw [← show (stopped.fail (.io .brokenPipe) after).1 = last from congrArg Prod.fst left]
    exact Channel.fail_isClosed rfl after
  have stepped : Session.step handler ⟨stopped, memory, .failing (.io .brokenPipe)⟩ after =
      (.moves, ⟨last, memory, .finished (.error (.io .brokenPipe))⟩, final) := by
    simp only [Session.step, left]
  have calm : Session.events handler ⟨stopped, memory, .failing (.io .brokenPipe)⟩ after = [] := rfl
  have fails : Lifetime.Moves channel.shutdownHandle
      ⟨.serving handler ⟨stopped, memory, .failing (.io .brokenPipe)⟩, after, [.handled first, .shutdown]⟩ _ := .serve stepped
  rw [calm] at fails
  have returns : Lifetime.Moves channel.shutdownHandle
      ⟨.serving handler ⟨last, memory, .finished (.error (.io .brokenPipe))⟩, final, [.handled first, .shutdown]⟩ _ :=
    .returns rfl
  rw [closed] at returns
  have ends := ((prepares.tail reads).tail fails).tail returns
  have whole : Lifetime.Run channel.shutdownHandle ⟨.idle channel, bound, []⟩ _ := .head arrives (.head accepts ends)
  refine ⟨bound, _, .bound done, arrives, accepts, ends, rfl, ?_⟩
  exact (no_dispatch_after_shutdown (.bound done) whole [.handled first] [.returned true] rfl).1

end Channel
end CallWire
