import CallWire.Proofs.ShutdownDispatch

/-! A closed channel. Whatever closed it, and whoever does what from then on, all that it is asked for is refused, and
nothing about the host is touched for it. -/

namespace CallWire

/-- Something that happens to a channel, with its answer. -/
inductive ChannelDeed
  | attempted (op : ChannelOperation) (outcome : Outcome Unit)
  | configured (config : FrameConfig) (result : Except ChannelError Unit)
  | closed
  | accepts
  /-- A step of accepting; in it the handler may be given a request. -/
  | serves (asked : Option Message)
  | returned (result : Except ChannelError Unit)
  | shutdown (handle : ShutdownHandle)
  | elsewhere

namespace ChannelDeed

/-- The channel's own doing, not that of a handle or of others. -/
def IsOwn : ChannelDeed → Prop
  | shutdown _ | elsewhere => False
  | _ => True

/-- All that is left to a channel that is closed. -/
def IsRefusal : ChannelDeed → Prop
  | attempted _ outcome => outcome = .done (.error .closed)
  | configured _ result | returned result => result = .error .closed
  | serves asked => asked = none
  | closed | accepts => True
  | shutdown _ | elsewhere => False

end ChannelDeed

/-- A channel at work on a host. -/
structure Course : Type 1 where
  activity : Activity
  host : Host

namespace Course

/-- What can happen next, if others do only so much to the host. A channel that refuses a configuration is dropped. -/
inductive Moves (others : Host → Host → Prop) : ChannelDeed → Course → Course → Prop
  | attempt {channel host outcome next after} (op : ChannelOperation)
      (done : op.attempt channel host = (outcome, next, after)) :
      Moves others (.attempted op outcome) ⟨.idle channel, host⟩ ⟨.idle next, after⟩
  | configure {channel host next after} (config : FrameConfig)
      (done : channel.withConfig config host = (.ok next, after)) :
      Moves others (.configured config (.ok ())) ⟨.idle channel, host⟩ ⟨.idle next, after⟩
  | drop {channel host error after} (config : FrameConfig)
      (done : channel.withConfig config host = (.error error, after)) :
      Moves others (.configured config (.error error)) ⟨.idle channel, host⟩
        ⟨.idle { channel with state := .closed }, after⟩
  | close {channel host next after} (done : channel.close host = (next, after)) :
      Moves others .closed ⟨.idle channel, host⟩ ⟨.idle next, after⟩
  | accept {channel host} {ρ : Type} (handler : Handler ρ) (memory : ρ) :
      Moves others .accepts ⟨.idle channel, host⟩ ⟨.serving handler (.start channel memory), host⟩
  | serve {ρ : Type} {handler : Handler ρ} {session : Session ρ} {host pace next after}
      (stepped : session.step handler host = (pace, next, after)) :
      Moves others (.serves (session.asked? host)) ⟨.serving handler session, host⟩ ⟨.serving handler next, after⟩
  | returns {ρ : Type} {handler : Handler ρ} {session : Session ρ} {host result}
      (finished : session.phase = .finished result) :
      Moves others (.returned result) ⟨.serving handler session, host⟩ ⟨.idle session.channel, host⟩
  | shutdown {activity host} (handle : ShutdownHandle) :
      Moves others (.shutdown handle) ⟨activity, host⟩ ⟨activity, handle.shutdown host⟩
  | elsewhere {activity host after} (allowed : others host after) :
      Moves others .elsewhere ⟨activity, host⟩ ⟨activity, after⟩

/-- Any number of moves. -/
def Run (others : Host → Host → Prop) : Course → Course → Prop :=
  Relation.ReflTransGen fun before after => ∃ deed, Moves others deed before after

variable {others others' : Host → Host → Prop} {deed : ChannelDeed} {o next : Course}

theorem Moves.mono (fewer : ∀ before after, others before after → others' before after) (move : Moves others deed o next) :
    Moves others' deed o next := by
  cases move with
  | attempt op done => exact .attempt op done
  | configure config done => exact .configure config done
  | drop config done => exact .drop config done
  | close done => exact .close done
  | accept handler memory => exact .accept handler memory
  | serve stepped => exact .serve stepped
  | returns finished => exact .returns finished
  | shutdown handle => exact .shutdown handle
  | elsewhere allowed => exact .elsewhere (fewer _ _ allowed)

theorem Run.mono (fewer : ∀ before after, others before after → others' before after) (run : Run others o next) :
    Run others' o next := by
  induction run with
  | refl => exact .refl
  | tail _ moved ih =>
    obtain ⟨deed, move⟩ := moved
    exact ih.tail ⟨deed, move.mono fewer⟩

end Course

namespace Channel
variable {channel : Channel}

/-- The channel is closed, and so are all ways to use it. -/
structure Refuses (channel : Channel) : Prop where
  closed : channel.isClosed = true
  unconnected : channel.isConnected = false
  attempt : ∀ op host, ChannelOperation.attempt op channel host = (.done (.error .closed), channel, host)
  withConfig : ∀ config host, channel.withConfig config host = (.error .closed, host)
  close : ∀ host, channel.close host = (channel, host)
  accept : ∀ {ρ : Type} (handler : Handler ρ) memory host, channel.accept handler memory host =
    (.done (.error .closed), ⟨channel, memory, .finished (.error .closed)⟩, host)

theorem refuses_of_closed (closed : channel.isClosed = true) : channel.Refuses := by
  obtain ⟨state, path, config, control⟩ := channel
  obtain rfl : state = .closed := isClosed_eq_true.mp closed
  refine ⟨rfl, rfl, ?_, fun _ _ => rfl, fun _ => rfl, ?_⟩
  · intro op host
    cases op with
    | send | sendRaw | recv | call | recvReply => rfl
  · intro ρ handler memory host
    -- Three steps are enough, and there are always more than that.
    have enough : (Session.start (⟨.closed, path, config, control⟩ : Channel) memory).stepBound host =
        2 * (0 + host.inFlight) + 13 + 3 := rfl
    rw [Channel.accept, Session.run, enough]
    rfl

theorem setConnection_isClosed (channel : Channel) (c : Connection) :
    (channel.setConnection c).isClosed = channel.isClosed := by
  obtain ⟨state, path, config, control⟩ := channel
  cases state with
  | connected | listening | closed => rfl

end Channel

namespace Session
variable {ρ : Type}

/-- The session cannot do more than find out that its channel is closed, and end. -/
def IsSettled (session : Session ρ) : Prop :=
  match session.phase with
  | .arriving | .failing .closed | .finished _ => True
  | _ => False

/-- The session is settled, and will return this if it has not been said before what it returns. -/
structure Refused (channel : Channel) (returning : Except ChannelError Unit → Prop) (session : Session ρ) : Prop where
  channel : session.channel = channel
  settled : session.IsSettled
  result : ∀ result, session.phase = .finished result → result = .error .closed ∨ returning result

theorem serve_channel (handler : Handler ρ) (session : Session ρ) (c : Connection) (m : Message) (host : Host) :
    (session.serve handler c m host).1.channel = session.channel := by
  unfold serve
  split
  · dsimp only
    split
    · rfl
    · split
      · rfl
      · rfl
  · rfl

theorem readNext_isClosed (handler : Handler ρ) (session : Session ρ) (c : Connection) (host : Host) :
    (session.readNext handler c host).2.1.channel.isClosed = session.channel.isClosed := by
  have same := session.channel.setConnection_isClosed (c.readMessage host).2.1
  unfold readNext
  dsimp only
  split
  · exact same
  · exact same
  · exact same
  · rw [serve_channel]
    exact same

/-- Only the last step can close the channel. -/
theorem step_isClosed (handler : Handler ρ) (session : Session ρ) (host : Host) :
    (∃ result, (session.step handler host).2.1.phase = .finished result) ∨
      (session.step handler host).2.1.channel.isClosed = session.channel.isClosed := by
  cases phase : session.phase with
  | arriving =>
    right
    simp only [step, phase, arrive]
    split
    · rfl
    · rfl
    · rfl
    · split
      · rfl
      · rfl
  | attaching s =>
    right
    simp only [step, phase, attach]
    split
    · rfl
    · exact session.channel.setConnection_isClosed _
  | checking | leaving =>
    right
    simp only [step, phase]
  | reading =>
    right
    simp only [step, phase]
    split
    · rfl
    · exact session.readNext_isClosed handler _ host
  | detaching | closing | failing error =>
    left
    simp only [step, phase]
    exact ⟨_, rfl⟩
  | finished result =>
    right
    simp only [step, phase]

/-- On a closed channel a step asks nobody and changes nothing about the host. -/
theorem step_refused (handler : Handler ρ) (session : Session ρ) (host : Host) {channel : Channel}
    {returning : Except ChannelError Unit → Prop}
    (closed : channel.isClosed = true) (refused : session.Refused channel returning) :
    session.asked? host = none ∧ (session.step handler host).2.2 = host ∧
      (session.step handler host).2.1.Refused channel returning := by
  obtain ⟨rfl, settled, result⟩ := refused
  have state := Channel.isClosed_eq_true.mp closed
  have silent : session.asked? host = none := by
    apply asked?_of_phase
    intro reading
    rw [IsSettled, reading] at settled
    exact settled
  refine ⟨silent, ?_⟩
  unfold IsSettled at settled
  split at settled
  · rename_i phase
    simp only [step, phase, arrive, state]
    refine ⟨trivial, rfl, trivial, ?_⟩
    intro result finished
    cases finished
  · rename_i phase
    simp only [step, phase, Channel.fail, Channel.leavesOpen]
    refine ⟨rfl, rfl, trivial, ?_⟩
    intro result finished
    cases finished
    exact .inl rfl
  · rename_i own phase
    simp only [step, phase]
    refine ⟨trivial, rfl, ?_, result⟩
    rw [IsSettled, phase]
    trivial
  · exact settled.elim

end Session

namespace Activity

/-- Accepting is about to return this. -/
def IsReturning (result : Except ChannelError Unit) : Activity → Prop
  | idle _ => False
  | serving _ session => session.phase = .finished result

/-- If the channel is closed, a session is settled. -/
def Settles : Activity → Prop
  | idle _ => True
  | serving _ session => session.channel.isClosed = true → session.IsSettled

/-- Nothing is done with this channel but that it refuses. -/
def Refused (channel : Channel) (returning : Except ChannelError Unit → Prop) : Activity → Prop
  | idle own => own = channel
  | serving _ session => session.Refused channel returning

theorem Refused.channel {channel : Channel} {returning : Except ChannelError Unit → Prop} {activity : Activity}
    (refused : activity.Refused channel returning) : activity.channel = channel := by
  cases activity with
  | idle own => exact refused
  | serving handler session => exact Session.Refused.channel refused

theorem Settles.refused {activity : Activity} (settles : activity.Settles) (closed : activity.channel.isClosed = true) :
    activity.Refused activity.channel fun result => activity.IsReturning result := by
  cases activity with
  | idle own => exact rfl
  | serving handler session => exact ⟨rfl, settles closed, fun result finished => .inr finished⟩

end Activity

namespace Course
variable {others : Host → Host → Prop} {deed : ChannelDeed} {o next : Course}

theorem Moves.settles (move : Moves others deed o next) (settles : o.activity.Settles) : next.activity.Settles := by
  cases move with
  | attempt | configure | drop | close | returns => trivial
  | accept => exact fun _ => trivial
  | shutdown | elsewhere => exact settles
  | @serve ρ handler session host _ _ _ stepped =>
    intro closed
    have after : (session.step handler host).2.1.channel.isClosed = true := by
      rw [stepped]
      exact closed
    rcases session.step_isClosed handler host with ⟨result, finished⟩ | same
    · rw [stepped] at finished
      rw [Session.IsSettled, finished]
      trivial
    · have refused := Activity.Settles.refused settles (same.symm.trans after)
      have settled := (session.step_refused handler host (same.symm.trans after) refused).2.2.settled
      rwa [stepped] at settled

theorem Run.settles (run : Run others o next) (settles : o.activity.Settles) : next.activity.Settles := by
  induction run with
  | refl => exact settles
  | tail _ moved ih =>
    obtain ⟨deed, move⟩ := moved
    exact move.settles ih

/-- What is done with a closed channel is refused, and the host stays as it is. -/
theorem Moves.refused {channel : Channel} {returning : Except ChannelError Unit → Prop}
    (move : Moves others deed o next) (closed : channel.isClosed = true) (refused : o.activity.Refused channel returning) :
    next.activity.Refused channel returning ∧
      (deed.IsOwn → next.host = o.host ∧ (deed.IsRefusal ∨ ∃ result, deed = .returned result ∧ returning result)) := by
  have refuses := Channel.refuses_of_closed closed
  cases move with
  | attempt op done =>
    obtain rfl := refused
    obtain ⟨rfl, rfl, rfl⟩ := by simpa using done.symm.trans (refuses.attempt op _)
    exact ⟨rfl, fun _ => ⟨rfl, .inl rfl⟩⟩
  | configure config done =>
    obtain rfl := refused
    cases done.symm.trans (refuses.withConfig config _)
  | drop config done =>
    obtain rfl := refused
    cases done.symm.trans (refuses.withConfig config _)
    refine ⟨?_, fun _ => ⟨rfl, .inl rfl⟩⟩
    rw [← Channel.isClosed_eq_true.mp closed]
    rfl
  | close done =>
    obtain rfl := refused
    obtain ⟨rfl, rfl⟩ := Prod.mk.inj (done.symm.trans (refuses.close _))
    exact ⟨rfl, fun _ => ⟨rfl, .inl trivial⟩⟩
  | accept handler memory =>
    refine ⟨⟨refused, trivial, nofun⟩, fun _ => ⟨rfl, .inl trivial⟩⟩
  | @serve ρ handler session host _ _ _ stepped =>
    obtain ⟨silent, untouched, later⟩ := session.step_refused handler host closed refused
    rw [stepped] at untouched later
    exact ⟨later, fun _ => ⟨untouched, .inl silent⟩⟩
  | returns finished =>
    refine ⟨refused.channel, fun _ => ⟨rfl, ?_⟩⟩
    rcases refused.result _ finished with closed | before
    · exact .inl closed
    · exact .inr ⟨_, rfl, before⟩
  | shutdown | elsewhere => exact ⟨refused, False.elim⟩

theorem Run.refused {channel : Channel} {returning : Except ChannelError Unit → Prop} (run : Run others o next)
    (closed : channel.isClosed = true) (refused : o.activity.Refused channel returning) :
    next.activity.Refused channel returning := by
  induction run with
  | refl => exact refused
  | tail _ moved ih =>
    obtain ⟨deed, move⟩ := moved
    exact (move.refused closed ih).1

end Course

/-- Once a channel is closed it is closed for good: nothing changes about it any more, whatever is done with it or with
its handles; every operation is refused, no handler is asked, and the host stays as it is. Only the session in which it
was closed returns what it came to. -/
theorem Channel.closed_for_good {others : Host → Host → Prop} {channel : Channel} {host : Host} {o later : Course}
    (run : Course.Run others ⟨.idle channel, host⟩ o) (closed : o.activity.channel.isClosed = true)
    (more : Course.Run others o later) :
    later.activity.channel = o.activity.channel ∧ later.activity.channel.Refuses ∧
      ∀ deed next, Course.Moves others deed later next → deed.IsOwn →
        next.host = later.host ∧
          (deed.IsRefusal ∨ ∃ result, deed = .returned result ∧ o.activity.IsReturning result) := by
  have refused := more.refused closed ((run.settles trivial).refused closed)
  refine ⟨refused.channel, ?_, ?_⟩
  · rw [refused.channel]
    exact refuses_of_closed closed
  · intro deed next move own
    exact (move.refused closed refused).2 own

/-- A session ends because the peer has left, with which the channel is closed. Then a shutdown is requested, and
accepting is tried again. -/
theorem Channel.closed_for_good_after_leaving :
    let host : Host := { links := [⟨{ isEnded := true }, {}⟩], controls := [{ active := some ⟨0, false⟩ }] }
    let channel : Channel := ⟨.connected ⟨⟨0, false⟩, {}, {}⟩, "socket", {}, 0⟩
    let others : Host → Host → Prop := fun _ _ => False
    let handler : Handler Unit := fun _ m => ((), [.place (Message.response m.callId [])])
    ∃ o later, Course.Run others ⟨.idle channel, host⟩ o ∧ o.activity.IsReturning (.ok ()) ∧ Course.Run others o later ∧
      later.activity = .serving handler (.start { channel with state := .closed } ()) ∧
      channel.shutdownHandle.isRequested later.host = true ∧ later.activity.channel.Refuses ∧
      ∀ deed next, Course.Moves others deed later next → deed.IsOwn →
        next.host = later.host ∧
          (deed.IsRefusal ∨ ∃ result, deed = .returned result ∧ o.activity.IsReturning result) := by
  intro host channel others handler
  let left : Channel := { channel with state := .closed }
  have first : Course.Run others ⟨.idle channel, host⟩ _ :=
    .tail (.tail (.single ⟨_, .accept handler ()⟩) ⟨_, .serve rfl⟩) ⟨_, .serve rfl⟩
  have run : Course.Run others ⟨.idle channel, host⟩ ⟨.serving handler ⟨left, (), .finished (.ok ())⟩, _⟩ :=
    .tail (.tail (.tail first ⟨_, .serve rfl⟩) ⟨_, .serve rfl⟩) ⟨_, .serve rfl⟩
  have more (after : Host) : Course.Run others ⟨.serving handler ⟨left, (), .finished (.ok ())⟩, after⟩ _ :=
    .tail (.tail (.single ⟨_, .returns rfl⟩) ⟨_, .shutdown channel.shutdownHandle⟩) ⟨_, .accept handler ()⟩
  obtain ⟨-, refuses, refused⟩ := closed_for_good run rfl (more _)
  exact ⟨_, _, run, rfl, more _, rfl, rfl, refuses, refused⟩

end CallWire
