import CallWire.Proofs.SessionOutput
import Mathlib.Logic.Relation

/-! The stream that a channel writes to one connection, over any run of operations. It consists of complete frames
of what was sent, and what is left of a frame that was not sent whole is the last that is ever written. -/

namespace CallWire

/-- What is being done with a channel. -/
inductive Activity : Type 1
  | idle (channel : Channel)
  | serving {ρ : Type} (handler : Handler ρ) (session : Session ρ)

namespace Activity

variable {s : SocketId} {host after : Host}

def Grounded (s : SocketId) (host : Host) : Activity → Prop
  | idle channel => channel.Grounded s host
  | serving _ session => session.Grounded s host

/-- The channel is closed, or an operation is about to return that closes it first. -/
def IsSpent : Activity → Prop
  | idle channel => channel.state = .closed
  | serving _ session => session.IsSpent

theorem Grounded.elsewhere {activity : Activity} (grounded : activity.Grounded s host) (sound : after.Sound)
    (grows : host.links.length ≤ after.links.length) : activity.Grounded s after := by
  cases activity with
  | idle channel => exact Channel.Grounded.elsewhere grounded sound grows
  | serving handler session =>
    refine ⟨Channel.Grounded.elsewhere grounded.toGrounded sound grows, fun t attaching => ?_⟩
    obtain ⟨side, inRange⟩ := Session.Grounded.attaching grounded t attaching
    exact ⟨side, Nat.lt_of_lt_of_le inRange grows⟩

end Activity

/-- A channel at work, with what its peer at one connection has taken from the stream, and the attempts that were made
to send there. -/
structure Outgoing : Type 1 where
  activity : Activity
  host : Host
  taken : Bytes := []
  attempts : List Attempt := []

namespace Outgoing

/-- All that was ever written at a socket. -/
def written (o : Outgoing) (s : SocketId) : Bytes := o.taken ++ (o.host.endpoint s.peer).inbox

/-- What can happen next. A channel that refuses a configuration is dropped. Whatever else goes on about the host, it
neither writes to this stream nor takes from it out of order. -/
inductive Moves (s : SocketId) : Outgoing → Outgoing → Prop
  | send {channel host taken attempts result next after} (m : Message)
      (done : channel.send m host = (result, next, after)) :
      Moves s ⟨.idle channel, host, taken, attempts⟩
        ⟨.idle next, after, taken, attempts ++ channel.attempted s m.bytes result⟩
  | sendRaw {channel host taken attempts result next after} (content : Bytes)
      (done : channel.sendRaw content host = (result, next, after)) :
      Moves s ⟨.idle channel, host, taken, attempts⟩
        ⟨.idle next, after, taken, attempts ++ channel.attempted s content result⟩
  | call {channel host taken attempts outcome next after} (request : Message)
      (done : channel.call request host = (outcome, next, after)) :
      Moves s ⟨.idle channel, host, taken, attempts⟩
        ⟨.idle next, after, taken, attempts ++ channel.attempted s request.bytes (channel.send request host).1⟩
  | recvReply {channel host taken attempts outcome next after} (request : Message)
      (done : channel.recvReply request host = (outcome, next, after)) :
      Moves s ⟨.idle channel, host, taken, attempts⟩ ⟨.idle next, after, taken, attempts⟩
  | recv {channel host taken attempts outcome next after} (done : channel.recv host = (outcome, next, after)) :
      Moves s ⟨.idle channel, host, taken, attempts⟩ ⟨.idle next, after, taken, attempts⟩
  | configure {channel host taken attempts next after} (config : FrameConfig)
      (done : channel.withConfig config host = (.ok next, after)) :
      Moves s ⟨.idle channel, host, taken, attempts⟩ ⟨.idle next, after, taken, attempts⟩
  | drop {channel host taken attempts error after} (config : FrameConfig)
      (done : channel.withConfig config host = (.error error, after)) :
      Moves s ⟨.idle channel, host, taken, attempts⟩ ⟨.idle { channel with state := .closed }, after, taken, attempts⟩
  | close {channel host taken attempts next after} (done : channel.close host = (next, after)) :
      Moves s ⟨.idle channel, host, taken, attempts⟩ ⟨.idle next, after, taken, attempts⟩
  | accept {channel host taken attempts} {ρ : Type} (handler : Handler ρ) (memory : ρ) :
      Moves s ⟨.idle channel, host, taken, attempts⟩
        ⟨.serving handler (.start channel memory), host, taken, attempts⟩
  | serve {ρ : Type} {handler : Handler ρ} {session : Session ρ} {host taken attempts pace next after}
      (stepped : session.step handler host = (pace, next, after)) :
      Moves s ⟨.serving handler session, host, taken, attempts⟩
        ⟨.serving handler next, after, taken, attempts ++ session.attempted handler s host next.phase⟩
  | returns {ρ : Type} {handler : Handler ρ} {session : Session ρ} {host taken attempts result}
      (finished : session.phase = .finished result) :
      Moves s ⟨.serving handler session, host, taken, attempts⟩ ⟨.idle session.channel, host, taken, attempts⟩
  | elsewhere {activity host taken attempts after taken'} (grows : host.links.length ≤ after.links.length)
      (sound : after.Sound)
      (kept : taken' ++ (after.endpoint s.peer).inbox = taken ++ (host.endpoint s.peer).inbox) :
      Moves s ⟨activity, host, taken, attempts⟩ ⟨activity, after, taken', attempts⟩

/-- Any number of moves. -/
def Run (s : SocketId) : Outgoing → Outgoing → Prop := Relation.ReflTransGen (Moves s)

/-- What a move does to the stream. -/
inductive Effect (s : SocketId) (o next : Outgoing) : Prop
  | nothing (attempts : next.attempts = o.attempts) (written : next.written s = o.written s)
      (stays : o.activity.IsSpent → next.activity.IsSpent)
  | attempt {a part} (live : ¬ o.activity.IsSpent) (attempts : next.attempts = o.attempts ++ [a])
      (adds : Adds a.content a.result part) (written : next.written s = o.written s ++ part)
      (ends : ¬ a.IsClean → next.activity.IsSpent)

variable {s : SocketId} {o next : Outgoing}

/-- Accepting is such a run; where it has to wait, others move before it goes on. -/
theorem run_accept {ρ : Type} {handler : Handler ρ} {taken : Bytes} {attempts : List Attempt} (channel : Channel)
    (memory : ρ) (host : Host) :
    ∃ later, Run s ⟨.idle channel, host, taken, attempts⟩
      ⟨.serving handler (channel.accept handler memory host).2.1, (channel.accept handler memory host).2.2, taken, later⟩ := by
  rw [Session.accept_eq_advance]
  refine Session.advance_induction (motive := fun session after => ∃ later, Run s ⟨.idle channel, host, taken, attempts⟩
    ⟨.serving handler session, after, taken, later⟩) ?_ _ ⟨_, .single (.accept handler memory)⟩
  intro session host pace next after run stepped
  obtain ⟨later, run⟩ := run
  exact ⟨_, run.tail (.serve stepped)⟩

theorem Effect.of_emits {attempts : List Attempt}
    (emits : Emits s o.activity.IsSpent next.activity.IsSpent o.host next.host attempts) (taken : next.taken = o.taken)
    (logged : next.attempts = o.attempts ++ attempts) : Effect s o next := by
  obtain ⟨wrote, live, ends, stays⟩ := emits
  cases wrote with
  | nothing quiet =>
    refine .nothing (logged.trans (List.append_nil _)) ?_ stays
    rw [written, written, taken, quiet.inbox, List.append_nil]
  | attempt adds gains =>
    refine .attempt (live (by simp)) logged adds ?_ (ends _ (by simp))
    rw [written, written, taken, gains.inbox, List.append_assoc]

theorem Effect.of_quiet (quiet : o.host.Quiet s.peer next.host) (stays : o.activity.IsSpent → next.activity.IsSpent)
    (taken : next.taken = o.taken) (logged : next.attempts = o.attempts) : Effect s o next :=
  .of_emits (.quiet quiet stays) taken (logged.trans (List.append_nil _).symm)

section
variable {channel channel' : Channel} {host after : Host} {taken : Bytes} {attempts : List Attempt}

theorem idle_effect {new : List Attempt} (grounded : channel.Grounded s host) (narrows : channel.Narrows channel')
    (emits : Emits s (channel.state = .closed) (channel'.state = .closed) host after new) :
    channel'.Grounded s after ∧
      Effect s ⟨.idle channel, host, taken, attempts⟩ ⟨.idle channel', after, taken, attempts ++ new⟩ :=
  ⟨grounded.narrow_emits narrows emits, .of_emits emits rfl rfl⟩

theorem idle_effect_of_quiet (grounded : channel.Grounded s host) (narrows : channel.Narrows channel')
    (quiet : host.Quiet s.peer after) :
    channel'.Grounded s after ∧
      Effect s ⟨.idle channel, host, taken, attempts⟩ ⟨.idle channel', after, taken, attempts⟩ :=
  ⟨grounded.narrow narrows quiet, .of_quiet quiet narrows.closed rfl rfl⟩

end

/-- Every move makes one attempt at most, and whoever is spent makes none. -/
theorem Moves.effect (move : Moves s o next) (grounded : o.activity.Grounded s o.host) :
    next.activity.Grounded s next.host ∧ Effect s o next := by
  cases move with
  | send m done =>
    obtain ⟨narrows, emits⟩ := Channel.sendRaw_emits grounded m.bytes
    change Channel.sendRaw _ m.bytes _ = _ at done
    rw [done] at narrows emits
    exact idle_effect grounded narrows emits
  | sendRaw content done =>
    obtain ⟨narrows, emits⟩ := Channel.sendRaw_emits grounded content
    rw [done] at narrows emits
    exact idle_effect grounded narrows emits
  | call request done =>
    obtain ⟨narrows, emits⟩ := Channel.call_emits grounded request
    rw [done] at narrows emits
    exact idle_effect grounded narrows emits
  | recvReply request done =>
    obtain ⟨narrows, quiet⟩ := Channel.recvReply_quiet grounded request
    rw [done] at narrows quiet
    exact idle_effect_of_quiet grounded narrows quiet
  | recv done =>
    obtain ⟨narrows, quiet⟩ := Channel.recv_quiet grounded
    rw [done] at narrows quiet
    exact idle_effect_of_quiet grounded narrows quiet
  | configure config done =>
    obtain ⟨quiet, narrows⟩ := Channel.withConfig_quiet done s
    exact idle_effect_of_quiet grounded (narrows _ rfl) quiet
  | drop config done =>
    obtain ⟨quiet, -⟩ := Channel.withConfig_quiet done s
    exact idle_effect_of_quiet grounded (Channel.narrows_of_closed rfl) quiet
  | @close channel host _ _ _ _ done =>
    have quiet := channel.close_quiet s.peer host
    have closed : (channel.close host).1.state = .closed := by rw [Channel.close_state]
    rw [done] at quiet closed
    exact idle_effect_of_quiet grounded (Channel.narrows_of_closed closed) quiet
  | @accept _ host =>
    exact ⟨⟨grounded, nofun⟩, .of_quiet (host.quiet_refl _) .inl rfl rfl⟩
  | serve stepped =>
    obtain ⟨grounded, emits⟩ := Session.step_emits grounded stepped
    exact ⟨grounded, .of_emits emits rfl rfl⟩
  | @returns _ _ _ host _ _ _ finished =>
    refine ⟨grounded.toGrounded, .of_quiet (host.quiet_refl _) ?_ rfl rfl⟩
    -- A session that has finished is no longer failing, so it is spent only if its channel is closed.
    rintro (closed | ⟨error, failing, -⟩)
    · exact closed
    · cases finished.symm.trans failing
  | elsewhere grows sound kept =>
    exact ⟨Activity.Grounded.elsewhere grounded sound grows, .nothing rfl kept id⟩

/-- What was written since then is what was sent, and maybe a front part of one frame more. -/
inductive Accounted (s : SocketId) (before : Bytes) (o : Outgoing) : Prop
  | whole (clean : ∀ a ∈ o.attempts, a.IsClean) (written : o.written s = before ++ o.attempts.flatMap Attempt.frame)
  | torn {earlier last part} (attempts : o.attempts = earlier ++ [last]) (clean : ∀ a ∈ earlier, a.IsClean)
      (broken : ¬ last.IsClean) (front : part <+: frameOf last.content)
      (written : o.written s = before ++ earlier.flatMap Attempt.frame ++ part) (spent : o.activity.IsSpent)

theorem Accounted.step {before : Bytes} (accounted : Accounted s before o) (effect : Effect s o next) :
    Accounted s before next := by
  cases effect with
  | nothing logged written stays =>
    cases accounted with
    | whole clean sum =>
      rw [← logged] at clean sum
      exact .whole clean (written.trans sum)
    | torn attempts clean broken front sum spent =>
      exact .torn (logged.trans attempts) clean broken front (written.trans sum) (stays spent)
  | @attempt a part live logged adds written ends =>
    cases accounted with
    | whole clean sum =>
      rw [sum] at written
      rcases adds.cases with ⟨sent, rfl⟩ | ⟨broken, _, front, _⟩
      · refine .whole ?_ ?_
        · rw [logged]
          simpa [or_imp, forall_and] using ⟨clean, sent⟩
        · rw [written, logged, List.flatMap_append, List.flatMap_singleton, List.append_assoc]
      · exact .torn logged clean broken front written (ends broken)
    | torn _ _ _ _ _ spent => exact absurd spent live

theorem Run.grounded_accounted (run : Run s o next) (grounded : o.activity.Grounded s o.host) (fresh : o.attempts = []) :
    next.activity.Grounded s next.host ∧ Accounted s (o.written s) next := by
  induction run with
  | refl => exact ⟨grounded, .whole (by simp [fresh]) (by simp [fresh])⟩
  | tail _ move ih =>
    obtain ⟨grounded, accounted⟩ := ih
    obtain ⟨grounded, effect⟩ := move.effect grounded
    exact ⟨grounded, accounted.step effect⟩

/-- Whoever is spent stays so, and nothing is written any more. -/
theorem Run.silent (run : Run s o next) (grounded : o.activity.Grounded s o.host) (spent : o.activity.IsSpent) :
    next.activity.Grounded s next.host ∧
      next.written s = o.written s ∧ next.attempts = o.attempts ∧ next.activity.IsSpent := by
  induction run with
  | refl => exact ⟨grounded, rfl, rfl, spent⟩
  | tail _ move ih =>
    obtain ⟨grounded, written, attempts, spent⟩ := ih
    obtain ⟨grounded, effect⟩ := move.effect grounded
    cases effect with
    | nothing logged same stays => exact ⟨grounded, same.trans written, logged.trans attempts, stays spent⟩
    | attempt live => exact absurd spent live

end Outgoing

/-- What a channel writes to a connection is the frames of the messages that it sent there, in order; those over the
limit leave nothing. What is left of a frame that did not go out whole ends the stream for good, and the channel with
it. -/
theorem Channel.stream_integrity {channel : Channel} {s : SocketId} {host : Host} {o : Outgoing}
    (grounded : channel.Grounded s host) (run : Outgoing.Run s { activity := .idle channel, host } o) :
    (∀ a ∈ o.attempts, a.IsClean) ∧
        o.written s = (host.endpoint s.peer).inbox ++ o.attempts.flatMap Attempt.frame ∨
      ∃ earlier last part, o.attempts = earlier ++ [last] ∧ (∀ a ∈ earlier, a.IsClean) ∧ ¬ last.IsClean ∧
        part <+: frameOf last.content ∧
        o.written s = (host.endpoint s.peer).inbox ++ earlier.flatMap Attempt.frame ++ part ∧
        o.activity.IsSpent ∧
        ∀ later, Outgoing.Run s o later →
          later.written s = o.written s ∧ later.attempts = o.attempts ∧ later.activity.IsSpent := by
  obtain ⟨grounded, accounted⟩ := run.grounded_accounted grounded rfl
  cases accounted with
  | whole clean sum => exact .inl ⟨clean, sum⟩
  | torn attempts clean broken front sum spent =>
    exact .inr ⟨_, _, _, attempts, clean, broken, front, sum, spent,
      fun later more => (more.silent grounded spent).2⟩

/-- A message goes out after an interruption, one over the limit is refused, and the next one stops within its
frame. -/
theorem Channel.stream_integrity_torn :
    let interrupted : IoError := .ofKind .interrupted
    let near : Endpoint := { writeTurns := [.upTo 2, .fails interrupted, .upTo 100, .upTo 5, .upTo 0] }
    let host : Host := { links := [⟨near, {}⟩], controls := [{ active := some ⟨0, false⟩ }] }
    let channel : Channel := ⟨.connected ⟨⟨0, false⟩, {}, ⟨⟨8, none, none⟩⟩⟩, "socket", ⟨8, none, none⟩, 0⟩
    channel.Grounded ⟨0, false⟩ host ∧
      ∃ o, Outgoing.Run ⟨0, false⟩ { activity := .idle channel, host } o ∧
        o.attempts.map Attempt.content = [[1, 2, 3, 4], [0, 1, 2, 3, 4, 5, 6, 7, 8], [5, 6, 7, 8]] ∧
        o.written ⟨0, false⟩ = [4, 0, 0, 0, 1, 2, 3, 4, 4, 0, 0, 0, 5] ∧
        ∀ later, Outgoing.Run ⟨0, false⟩ o later → later.written ⟨0, false⟩ = o.written ⟨0, false⟩ := by
  intro interrupted near host channel
  have grounded : channel.Grounded ⟨0, false⟩ host := by
    refine ⟨fun l t waits => ?_, fun c connected => ?_, nofun⟩
    · cases waits
    · cases connected
      decide
  have run : Outgoing.Run ⟨0, false⟩ { activity := .idle channel, host } _ :=
    .tail (.tail (.single (.sendRaw [1, 2, 3, 4] rfl)) (.sendRaw [0, 1, 2, 3, 4, 5, 6, 7, 8] rfl)) (.sendRaw [5, 6, 7, 8] rfl)
  refine ⟨grounded, _, run, rfl, by decide, fun later more => ?_⟩
  rcases stream_integrity grounded run with ⟨clean, _⟩ | ⟨_, _, _, _, _, _, _, _, _, silent⟩
  · have broken := clean ⟨[5, 6, 7, 8], _⟩ (List.mem_append_right _ List.mem_cons_self)
    cases broken
  · exact (silent later more).1

end CallWire
