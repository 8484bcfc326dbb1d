import CallWire.Proofs.ChannelOutput

/-! What a session writes to a connection: one attempt for each reply that the handler leaves, and the session fails
after one that did not go out. -/

namespace CallWire

namespace Phase

/-- The phase of a session after a reply was sent with this result. -/
def afterReply : Except ChannelError Unit → Phase
  | .ok _ => checking
  | .error error => failing error

/-- How sending ended after which a session is in this phase. -/
def result : Phase → Except ChannelError Unit
  | failing error => .error error
  | _ => .ok ()

theorem result_afterReply (result : Except ChannelError Unit) : (afterReply result).result = result := by
  cases result with
  | ok => rfl
  | error error => rfl

theorem afterReply_ne_attaching (result : Except ChannelError Unit) (t : SocketId) : afterReply result ≠ attaching t := by
  cases result with
  | ok => simp [afterReply]
  | error error => simp [afterReply]

end Phase

namespace Session
variable {ρ : Type}

/-- What every step preserves, going on for a while does. -/
theorem advance_induction {motive : Session ρ → Host → Prop} {handler : Handler ρ}
    (step : ∀ session host pace next after, motive session host → session.step handler host = (pace, next, after) →
      motive next after)
    (steps : Nat) {session : Session ρ} {host : Host} (start : motive session host) :
    motive (session.advance handler steps host).1 (session.advance handler steps host).2 := by
  induction steps generalizing session host with
  | zero => exact start
  | succ steps ih =>
    rcases stepped : session.step handler host with ⟨pace, next, after⟩
    have first := step session host pace next after start stepped
    simp only [advance, stepped]
    cases pace with
    | waits => exact first
    | moves => exact ih first

theorem accept_eq_advance (channel : Channel) (handler : Handler ρ) (memory : ρ) (host : Host) :
    (channel.accept handler memory host).2 =
      (start channel memory).advance handler ((start channel memory).stepBound host) host := by
  unfold Channel.accept run
  dsimp only
  split
  · rfl
  · rfl

/-- The slot does not depend on what the actions do to the host. -/
theorem perform_message (handle : ShutdownHandle) (actions : List HandlerAction) (slot : ReplySlot) (host : Host) :
    (perform handle actions slot host).1.message = actions.foldl HandlerAction.leaves slot.message := by
  induction actions generalizing slot host with
  | nil => rfl
  | cons action rest ih =>
    cases action with
    | place reply => exact ih (slot.set reply) host
    | withdraw => exact ih slot.take.2 host
    | shutdown => exact ih slot (handle.shutdown host)

/-- The reply that a handler leaves for what was read, if that is a request. -/
def replyUpon (handler : Handler ρ) (memory : ρ) : Outcome (Option Message) → Option Message
  | .done (.ok (some m)) => if m.isRequest then HandlerAction.lastPlaced (handler memory m).2 else none
  | _ => none

/-- The reply that the next step is going to send, if there is one. -/
def reply? (handler : Handler ρ) (session : Session ρ) (host : Host) : Option Message :=
  match session.phase, session.channel.connection? with
  | .reading, some c => replyUpon handler session.memory (c.readMessage host).1
  | _, _ => none

/-- The attempt to send it, told by the phase after the step. -/
def attempted (handler : Handler ρ) (session : Session ρ) (s : SocketId) (host : Host) (next : Phase) : List Attempt :=
  (session.reply? handler host).elim [] fun reply => session.channel.attempted s reply.bytes next.result

structure Grounded (session : Session ρ) (s : SocketId) (host : Host) : Prop extends session.channel.Grounded s host where
  attaching : ∀ t, session.phase = .attaching t → t.isAccepted = s.isAccepted ∧ t.connection < host.links.length

/-- The channel is closed, or the next step closes it. -/
def IsSpent (session : Session ρ) : Prop :=
  session.channel.state = .closed ∨ ∃ error, session.phase = .failing error ∧ Channel.leavesOpen error = false

section
variable {handler : Handler ρ} {session next : Session ρ} {s : SocketId} {host after : Host} {pace : Pace}

theorem attempted_of_phase (other : session.phase ≠ .reading) (phase : Phase) :
    session.attempted handler s host phase = [] := by
  unfold attempted reply?
  split
  · exact absurd ‹_› other
  · rfl

/-- A step that sends nothing. -/
theorem Grounded.quietly (grounded : session.Grounded s host) (quiet : host.Quiet s.peer after)
    (narrows : session.channel.Narrows next.channel)
    (attaching : ∀ t, next.phase = .attaching t → t.isAccepted = s.isAccepted ∧ t.connection < after.links.length)
    (failing : ∀ error, session.phase = .failing error → Channel.leavesOpen error = false → next.channel.state = .closed) :
    next.Grounded s after ∧ Emits s session.IsSpent next.IsSpent host after [] := by
  refine ⟨⟨grounded.toGrounded.narrow narrows quiet, attaching⟩, .quiet quiet ?_⟩
  rintro (closed | ⟨error, phase, fatal⟩)
  · exact .inl (narrows.closed closed)
  · exact .inl (failing error phase fatal)

theorem serve_of_placed {c : Connection} {m reply : Message} {memory : ρ} {actions : List HandlerAction} {slot : ReplySlot}
    {host' : Host} {result : Except ChannelError Unit} (request : m.isRequest)
    (handled : handler session.memory m = (memory, actions))
    (performed : perform session.channel.shutdownHandle actions .empty host = (slot, host'))
    (left : slot.message = some reply) (sent : c.send reply.bytes host' = (result, after)) :
    session.serve handler c m host = ({ session with memory, phase := .afterReply result }, after) := by
  simp only [serve, request, if_true, handled, performed, ReplySlot.take, left, sent]
  cases result with
  | ok => rfl
  | error error => rfl

/-- What serving a request writes. -/
theorem serve_emits {c : Connection} {m : Message} (connected : session.channel.connection? = some c)
    (grounded : session.channel.Grounded s host) (served : session.serve handler c m host = (next, after)) :
    next.channel = session.channel ∧ (∀ t, next.phase ≠ .attaching t) ∧
      Emits s False next.IsSpent host after
        ((replyUpon handler session.memory (.done (.ok (some m)))).elim []
          fun reply => c.attempted s reply.bytes next.phase.result) := by
  by_cases request : m.isRequest
  · rcases handled : handler session.memory m with ⟨memory, actions⟩
    rcases performed : perform session.channel.shutdownHandle actions .empty host with ⟨slot, host'⟩
    have quiet := perform_quiet s.peer host session.channel.shutdownHandle actions .empty
    have placed := perform_message session.channel.shutdownHandle actions .empty host
    rw [performed] at quiet placed
    change slot.message = HandlerAction.lastPlaced actions at placed
    have upon : replyUpon handler session.memory (.done (.ok (some m))) = slot.message := by
      rw [placed, replyUpon, if_pos request, handled]
    rw [upon]
    cases left : slot.message with
    | none =>
      simp only [serve, request, if_true, handled, performed, ReplySlot.take, left] at served
      cases served
      exact ⟨rfl, by simp, .quiet quiet False.elim⟩
    | some reply =>
      rcases sent : c.send reply.bytes host' with ⟨result, after'⟩
      rw [serve_of_placed request handled performed left sent] at served
      cases served
      obtain ⟨side, inRange⟩ := grounded.side c connected
      have wrote := c.send_wrote reply.bytes side (Nat.lt_of_lt_of_le inRange quiet.grows)
      obtain ⟨part, _, adds⟩ := c.writer.send_adds Link.account reply.bytes (host'.link c.socket)
      change Adds reply.bytes (c.send reply.bytes host').1 part at adds
      rw [sent] at wrote adds
      refine ⟨rfl, Phase.afterReply_ne_attaching result, ?_⟩
      simp only [Option.elim, Phase.result_afterReply]
      refine ⟨wrote.later quiet, fun _ => id, fun a member broken => ?_, False.elim⟩
      rw [c.eq_of_mem_attempted member] at broken
      rcases Adds.cases (a := ⟨reply.bytes, result⟩) adds with ⟨clean, _⟩ | ⟨_, _, _, error, rfl, cause⟩
      · exact absurd clean broken
      · exact .inr ⟨error, rfl, Channel.leavesOpen_of_isOfStream cause⟩
  · rw [serve, if_neg request] at served
    cases served
    have upon : replyUpon handler session.memory (.done (.ok (some m))) = none := if_neg request
    rw [upon]
    exact ⟨rfl, by simp, .quiet (host.quiet_refl _) False.elim⟩

/-- What reading on writes. -/
theorem readNext_emits {c : Connection} (phase : session.phase = .reading)
    (connected : session.channel.connection? = some c) (grounded : session.Grounded s host)
    (stepped : session.readNext handler c host = (pace, next, after)) :
    next.Grounded s after ∧
      Emits s session.IsSpent next.IsSpent host after (session.attempted handler s host next.phase) := by
  obtain ⟨side, inRange⟩ := grounded.side c connected
  have quiet := c.readMessage_quiet s.peer host (SocketId.ne_peer side)
  have same : (c.readMessage host).2.1.socket = c.socket := rfl
  rcases received : c.readMessage host with ⟨outcome, c', host'⟩
  rw [received] at quiet same
  have narrows := Channel.narrows_setConnection connected same
  have silent (none : session.reply? handler host = none) (kept : next.channel = session.channel.setConnection c')
      (away : ∀ t, next.phase ≠ .attaching t) (unmoved : after = host') : next.Grounded s after ∧
        Emits s session.IsSpent next.IsSpent host after (session.attempted handler s host next.phase) := by
    rw [attempted, none, unmoved]
    refine grounded.quietly quiet (kept ▸ narrows) (fun t there => absurd there (away t)) fun error failing => ?_
    cases phase.symm.trans failing
  have live : ¬ session.IsSpent := by
    rintro (closed | ⟨error, failing, _⟩)
    · simp [Channel.connection?, closed] at connected
    · cases phase.symm.trans failing
  simp only [readNext, received] at stepped
  have read : session.reply? handler host = replyUpon handler session.memory outcome := by
    simp only [reply?, phase, connected, received]
  -- A reply is attempted to a message only; after the other outcomes the far end has what it had.
  rcases outcome with (error | _ | m) | _
  · cases stepped
    exact silent read rfl (by simp) rfl
  · cases stepped
    exact silent read rfl (by simp) rfl
  · rcases served : serve handler { session with channel := session.channel.setConnection c' } c' m host' with ⟨next', after'⟩
    simp only [served] at stepped
    cases stepped
    obtain ⟨_, _, _, present⟩ := Channel.setConnection_of_connection connected c'
    have moved := grounded.toGrounded.narrow narrows quiet
    obtain ⟨kept, away, wrote, _, ends, _⟩ := serve_emits present moved served
    obtain ⟨part, gains⟩ := wrote.gains
    have alone : c'.attempted s = c.attempted s := by
      unfold Connection.attempted
      rw [same]
    have told : session.attempted handler s host next.phase =
        (replyUpon handler session.memory (.done (.ok (some m)))).elim [] fun reply =>
          c'.attempted s reply.bytes next.phase.result := by
      unfold attempted Channel.attempted
      rw [read, connected, alone]
      rfl
    rw [told]
    refine ⟨⟨kept ▸ moved.narrow (Channel.narrows_refl _) gains, fun t there => absurd there (away t)⟩,
      wrote.later quiet, fun _ => live, ends, fun spent => absurd spent live⟩
  · cases stepped
    exact silent read rfl (by simp [phase]) rfl

theorem attach_emits {t : SocketId} (phase : session.phase = .attaching t) (grounded : session.Grounded s host)
    (attached : session.attach t host = (next, after)) :
    next.Grounded s after ∧ Emits s session.IsSpent next.IsSpent host after [] := by
  have quiet := Connection.attach_quiet s.peer host t session.channel.config session.channel.control
  unfold attach at attached
  rcases taken : Connection.attach host t session.channel.config session.channel.control with ⟨result, after'⟩
  rw [taken] at quiet
  simp only [taken] at attached
  cases result with
  | error error =>
    cases attached
    exact grounded.quietly quiet (Channel.narrows_refl _) nofun fun _ failing _ => nomatch phase.symm.trans failing
  | ok c =>
    cases attached
    obtain ⟨side, inRange⟩ := grounded.attaching t phase
    have own := Connection.attach_socket taken
    have moved := grounded.toGrounded.narrow (Channel.narrows_refl _) quiet
    have inRange : c.socket.connection < after.links.length := own ▸ Nat.lt_of_lt_of_le inRange quiet.grows
    refine ⟨⟨moved.setConnection (own ▸ side) inRange, nofun⟩, .quiet quiet ?_⟩
    rintro (closed | ⟨error, failing, _⟩)
    · exact .inl (by simp only [Channel.setConnection, closed])
    · cases phase.symm.trans failing

theorem arrive_emits (phase : session.phase = .arriving) (grounded : session.Grounded s host)
    (arrived : session.arrive host = (pace, next, after)) :
    next.Grounded s after ∧ Emits s session.IsSpent next.IsSpent host after [] := by
  have calm error (failing : session.phase = .failing error) : False := nomatch phase.symm.trans failing
  have stay {next : Session ρ} (same : next.channel = session.channel) (away : ∀ t, next.phase ≠ .attaching t) :
      next.Grounded s host ∧ Emits s session.IsSpent next.IsSpent host host [] :=
    grounded.quietly (host.quiet_refl s.peer) (same ▸ Channel.narrows_refl _)
      (fun t there => absurd there (away t)) fun error failing => (calm error failing).elim
  unfold arrive at arrived
  split at arrived
  · cases arrived
    exact stay rfl nofun
  · cases arrived
    exact stay rfl nofun
  · cases arrived
    exact stay rfl nofun
  · rename_i l state
    have quiet := host.accept_quiet s.peer l
    split at arrived
    · rename_i host' accepted
      cases arrived
      rw [accepted] at quiet
      exact grounded.quietly quiet (Channel.narrows_refl _) (by simp [phase]) fun error failing => (calm error failing).elim
    · rename_i t host' accepted
      cases arrived
      rw [accepted] at quiet
      refine grounded.quietly quiet (Channel.narrows_refl _) ?_ fun error failing => (calm error failing).elim
      intro t' there
      cases there
      obtain ⟨side, inRange⟩ := grounded.sound l t (Host.mem_backlog_of_accept accepted)
      exact ⟨side.trans (grounded.role l none state).symm, Nat.lt_of_lt_of_le inRange quiet.grows⟩

/-- A session writes its replies and nothing else, and one that did not go out is the last. -/
theorem step_emits (grounded : session.Grounded s host) (stepped : session.step handler host = (pace, next, after)) :
    next.Grounded s after ∧
      Emits s session.IsSpent next.IsSpent host after (session.attempted handler s host next.phase) := by
  -- Only a session that reads attempts a reply; in the other phases there is nothing to account for.
  have silent (other : session.phase ≠ .reading) (emits : next.Grounded s after ∧
      Emits s session.IsSpent next.IsSpent host after []) : next.Grounded s after ∧
        Emits s session.IsSpent next.IsSpent host after (session.attempted handler s host next.phase) := by
    rwa [attempted_of_phase other]
  have stay {next : Session ρ} {phase : Phase} (own : session.phase = phase) (calm : ∀ error, phase ≠ .failing error)
      (same : next.channel = session.channel) (away : ∀ t, next.phase ≠ .attaching t) :
      next.Grounded s host ∧ Emits s session.IsSpent next.IsSpent host host [] :=
    grounded.quietly (host.quiet_refl s.peer) (same ▸ Channel.narrows_refl _)
      (fun t there => absurd there (away t)) fun error failing => absurd (own.symm.trans failing) (calm error)
  cases phase : session.phase with
  | arriving =>
    simp only [step, phase] at stepped
    exact silent (by simp [phase]) (arrive_emits phase grounded stepped)
  | attaching t =>
    simp only [step, phase] at stepped
    obtain ⟨_, attached⟩ := Prod.mk.inj stepped
    exact silent (by simp [phase]) (attach_emits phase grounded attached)
  | checking | leaving =>
    simp only [step, phase] at stepped
    cases stepped
    refine silent (by simp [phase]) (stay phase (fun _ => nofun) rfl fun t => ?_)
    dsimp only
    split
    · exact nofun
    · exact nofun
  | reading =>
    simp only [step, phase] at stepped
    split at stepped
    · rename_i error lacking
      cases stepped
      have none : session.reply? handler host = none := by
        simp only [reply?, phase, Channel.connection?_of_not_established lacking]
      rw [attempted, none]
      exact stay phase (fun _ => nofun) rfl nofun
    · rename_i c established
      exact readNext_emits phase (Channel.connection?_of_established established) grounded stepped
  | detaching =>
    simp only [step, phase] at stepped
    cases stepped
    refine silent (by simp [phase]) (grounded.quietly (Channel.detachPeer_quiet _ host _) ?_ nofun ?_)
    · exact Channel.detachPeer_narrows _ host
    · exact fun error failing => nomatch phase.symm.trans failing
  | closing =>
    simp only [step, phase] at stepped
    cases stepped
    refine silent (by simp [phase]) (grounded.quietly (Channel.close_quiet _ host _) ?_ nofun ?_)
    · exact Channel.narrows_of_closed (by rw [Channel.close_state])
    · exact fun error failing => nomatch phase.symm.trans failing
  | failing error =>
    simp only [step, phase] at stepped
    cases stepped
    refine silent (by simp [phase]) (grounded.quietly (Channel.fail_quiet _ host _ error) ?_ nofun ?_)
    · exact Channel.fail_narrows _ error host
    · intro error' failing fatal
      cases phase.symm.trans failing
      show (session.channel.fail error host).1.state = .closed
      rw [Channel.fail_eq_close fatal, Channel.close_state]
  | finished result =>
    simp only [step, phase] at stepped
    cases stepped
    exact silent (by simp [phase]) (stay phase (fun _ => nofun) rfl (by simp [phase]))

end
end Session
end CallWire
