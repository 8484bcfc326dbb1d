import CallWire.Proofs.SessionEncounter
import CallWire.Proofs.ClientExchange

/-! Pipelined requests are all answered, unless both sides write at once and neither reads. An exchange stays orderly
whatever is done in it, and as long as each side is given from time to time what was sent to it, every round brings one
side a step ahead until all is done; but where each side is held until the other reads, nothing ever moves again. -/

namespace CallWire

namespace Exchange
variable {ρ : Type}

/-- Moves among which the client sends and each side is once given all that was sent to it. -/
structure IsRound (moves : List ExchangeMove) : Prop where
  sends : .send ∈ moves
  serves : .serve 0 ∈ moves
  receives : .receive 0 ∈ moves

/-- Either side is held by a call to write, until the other reads. -/
def Jammed (rooms : Rooms) (e : Exchange ρ) : Prop :=
  e.client.isHeld rooms.toServer e.host = true ∧ e.session.channel.isHeld rooms.toClient e.host = true

theorem Jammed.isHeld {rooms : Rooms} {e : Exchange ρ} (jammed : e.Jammed rooms) (m : ExchangeMove) :
    e.isHeld rooms m = true := by
  cases m with
  | send | receive => exact jammed.1
  | serve => exact jammed.2

section
variable {handler : Handler ρ} {limits : Limits} {memory : ρ} {requests : List Message} {s : SocketId} {rooms : Rooms}
  {e : Exchange ρ}

theorem Orderly.move (orderly : e.Orderly handler limits memory requests s) (admitted : limits.Admit requests)
    (answers : handler.Answers limits.serverSends limits.clientReceives) (rooms : Rooms) (m : ExchangeMove) :
    (e.move handler s rooms m).Orderly handler limits memory requests s ∧
      e.Moves rooms requests.length m (e.move handler s rooms m) := by
  have ⟨answered, queued, taken, coming, accounts⟩ := orderly
  rw [accounts.move_eq]
  split
  · rename_i held
    exact ⟨orderly, id, .inr ⟨rfl, fun _ held => held, .inl held⟩⟩
  · cases m with
    | send => exact accounts.send admitted rooms
    | receive late => exact accounts.receive answers rooms late
    | serve late => exact accounts.serve admitted answers rooms late

theorem run_append (first second : List ExchangeMove) :
    e.run handler s rooms (first ++ second) = (e.run handler s rooms first).run handler s rooms second := List.foldl_append

theorem Orderly.run (orderly : e.Orderly handler limits memory requests s) (admitted : limits.Admit requests)
    (answers : handler.Answers limits.serverSends limits.clientReceives) (rooms : Rooms) (moves : List ExchangeMove) :
    (e.run handler s rooms moves).Orderly handler limits memory requests s ∧
      (e.HasSent rooms → (e.run handler s rooms moves).HasSent rooms) := by
  induction moves generalizing e with
  | nil => exact ⟨orderly, id⟩
  | cons m rest ih =>
    obtain ⟨kept, moved⟩ := orderly.move admitted answers rooms m
    obtain ⟨last, later⟩ := ih kept
    exact ⟨last, fun sent => later (moved.sent sent)⟩

/-- Some moves bring the sides ahead, or each of them could do nothing, even at the start. -/
theorem Orderly.ahead_or_idle (orderly : e.Orderly handler limits memory requests s) (admitted : limits.Admit requests)
    (answers : handler.Answers limits.serverSends limits.clientReceives) (rooms : Rooms) (moves : List ExchangeMove) :
    e.progress.total < (e.run handler s rooms moves).progress.total ∨
      (e.run handler s rooms moves).progress = e.progress ∧
        ∀ m ∈ moves, e.isHeld rooms m = true ∨ e.progress.Exhausts requests.length m := by
  induction moves generalizing e with
  | nil => exact .inr ⟨rfl, nofun⟩
  | cons m rest ih =>
    obtain ⟨kept, moved⟩ := orderly.move admitted answers rooms m
    have later := ih kept
    change _ < ((e.move handler s rooms m).run handler s rooms rest).progress.total ∨
      ((e.move handler s rooms m).run handler s rooms rest).progress = e.progress ∧ _
    obtain ahead | idle := moved.onward
    · obtain further | ⟨there, -⟩ := later
      · exact .inl (Nat.lt_trans ahead further)
      · rw [there]
        exact .inl ahead
    · rw [idle.same] at later
      obtain further | ⟨there, nothing⟩ := later
      · exact .inl further
      · refine .inr ⟨there, List.forall_mem_cons.mpr ⟨idle.nothing, fun m' member => ?_⟩⟩
        exact (nothing m' member).imp_left (idle.eased m')

/-- Where both sides are held, nothing ever changes. -/
theorem Orderly.stays (orderly : e.Orderly handler limits memory requests s) (jammed : e.Jammed rooms)
    (moves : List ExchangeMove) : e.run handler s rooms moves = e := by
  induction moves with
  | nil => rfl
  | cons m rest ih =>
    obtain ⟨answered, queued, taken, coming, accounts⟩ := orderly
    have still : e.move handler s rooms m = e := by rw [accounts.move_eq, if_pos (jammed.isHeld m)]
    change (e.move handler s rooms m).run handler s rooms rest = e
    rw [still]
    exact ih

/-- Whatever has been done, the handler was asked the first requests in order, and the client has the first replies. -/
theorem Orderly.in_order (orderly : e.Orderly handler limits memory requests s) :
    e.session.memory.2 <+: requests ∧ e.receives <+: (handler.replies memory requests).map .ok ∧
      e.sends <+: List.replicate requests.length (.ok ()) := by
  obtain ⟨answered, queued, taken, coming, split, own, replies, sends, receives, -, -⟩ := orderly
  let later := coming ++ handler.replies (handler.after memory answered) (queued ++ e.unsent)
  refine ⟨⟨queued ++ e.unsent, ?_⟩, ⟨later.map .ok, ?_⟩, ⟨List.replicate e.unsent.length (.ok ()), ?_⟩⟩
  · rw [own, split, List.append_assoc]
  · simp only [later, receives, split, Handler.replies_append, replies, List.map_append, List.append_assoc]
  · rw [sends, split, List.replicate_append_replicate, List.length_append, List.length_append]

theorem length_pos_of_streamOf {queue : List Message} {count : Nat} (more : count < (streamOf queue).length) :
    0 < queue.length := by
  cases queue with
  | nil => exact absurd more (Nat.not_lt_zero _)
  | cons => exact Nat.zero_lt_succ _

section
variable {answered queued taken coming : List Message}

/-- The client is held by requests that the session has not taken. -/
theorem Accounts.toServer_lt
    (accounts : e.Accounts handler limits memory requests s answered queued taken coming)
    (held : e.client.isHeld rooms.toServer e.host = true) : rooms.toServer < (streamOf queued).length := by
  obtain ⟨-, -, -, -, -, ⟨-, -, -, buffer, -, split⟩, c, talks, -⟩ := accounts
  have full := talks.isHeld_iff.mp held
  rw [← split, List.append_nil, List.length_append]
  omega

/-- The session is held by replies that the client has not received. -/
theorem Accounts.toClient_lt
    (accounts : e.Accounts handler limits memory requests s answered queued taken coming)
    (held : e.session.channel.isHeld rooms.toClient e.host = true) : rooms.toClient < (streamOf coming).length := by
  obtain ⟨-, -, -, -, -, server, c, -, split⟩ := accounts
  obtain ⟨-, full⟩ := server.isHeld_iff.mp held
  rw [← split, List.length_append]
  omega

theorem Accounts.queued_eq (accounts : e.Accounts handler limits memory requests s answered queued taken coming) :
    (requests.take e.sends.length).drop e.session.memory.2.length = queued := by
  have sent : e.sends.length = (answered ++ queued).length := by
    rw [accounts.sends, List.length_replicate, List.length_append]
  rw [sent, accounts.remembered, accounts.requests, List.take_left, List.drop_left]

theorem Accounts.coming_eq (accounts : e.Accounts handler limits memory requests s answered queued taken coming) :
    (handler.replies memory e.session.memory.2).drop e.receives.length = coming := by
  rw [accounts.remembered, accounts.replies, accounts.receives, List.length_map, List.drop_left]

end

/-- Both sides are held for ever: there is no room for the requests that were sent and not answered, nor for the replies
that were not received. -/
structure Stalled (handler : Handler ρ) (memory : ρ) (requests : List Message) (s : SocketId) (rooms : Rooms)
    (e : Exchange ρ) : Prop where
  jammed : e.Jammed rooms
  stays : ∀ more, e.run handler s rooms more = e
  toServer : rooms.toServer < (streamOf ((requests.take e.sends.length).drop e.session.memory.2.length)).length
  toClient : rooms.toClient < (streamOf ((handler.replies memory e.session.memory.2).drop e.receives.length)).length

theorem Orderly.stalled (orderly : e.Orderly handler limits memory requests s) (jammed : e.Jammed rooms) :
    e.Stalled handler memory requests s rooms := by
  have ⟨answered, queued, taken, coming, accounts⟩ := orderly
  refine ⟨jammed, orderly.stays jammed, ?_, ?_⟩
  · rw [accounts.queued_eq]
    exact accounts.toServer_lt jammed.1
  · rw [accounts.coming_eq]
    exact accounts.toClient_lt jammed.2

/-- With room for all requests the client is never held. -/
theorem Orderly.client_free (orderly : e.Orderly handler limits memory requests s)
    (roomy : (streamOf requests).length ≤ rooms.toServer) : ¬ e.client.isHeld rooms.toServer e.host = true := by
  intro held
  obtain ⟨answered, queued, taken, coming, accounts⟩ := orderly
  have full := accounts.toServer_lt held
  rw [accounts.requests, streamOf_append, streamOf_append, List.length_append, List.length_append] at roomy
  omega

/-- With room for all replies the session is never held. -/
theorem Orderly.session_free (orderly : e.Orderly handler limits memory requests s)
    (roomy : (streamOf (handler.replies memory requests)).length ≤ rooms.toClient) :
    ¬ e.session.channel.isHeld rooms.toClient e.host = true := by
  intro held
  obtain ⟨answered, queued, taken, coming, accounts⟩ := orderly
  have full := accounts.toClient_lt held
  rw [accounts.requests, Handler.replies_append, Handler.replies_append, accounts.replies, streamOf_append,
    streamOf_append, streamOf_append, List.length_append, List.length_append, List.length_append] at roomy
  omega

theorem Orderly.not_jammed (orderly : e.Orderly handler limits memory requests s)
    (roomy : (streamOf requests).length ≤ rooms.toServer ∨
      (streamOf (handler.replies memory requests)).length ≤ rooms.toClient) : ¬ e.Jammed rooms := by
  obtain fits | fits := roomy
  · exact fun jammed => orderly.client_free fits jammed.1
  · exact fun jammed => orderly.session_free fits jammed.2

theorem Orderly.move_of_roomy (orderly : e.Orderly handler limits memory requests s)
    (toServer : (streamOf requests).length ≤ rooms.toServer)
    (toClient : (streamOf (handler.replies memory requests)).length ≤ rooms.toClient) (m : ExchangeMove) :
    e.move handler s rooms m = e.unhindered handler s m := by
  have free : ¬ e.isHeld rooms m = true := by
    cases m with
    | send | receive => exact orderly.client_free toServer
    | serve => exact orderly.session_free toClient
  obtain ⟨answered, queued, taken, coming, accounts⟩ := orderly
  rw [accounts.move_eq, if_neg free]

/-- All requests were sent and served, and all replies were received. -/
structure Completes (handler : Handler ρ) (memory : ρ) (requests : List Message) (rooms : Rooms) (e : Exchange ρ) :
    Prop where
  served : e.session.memory = (handler.after memory requests, requests)
  received : e.receives = (handler.replies memory requests).map .ok
  sent : e.sends = List.replicate requests.length (.ok ())
  returned : e.HasSent rooms

/-- The sides come so far only if all is done. -/
theorem Orderly.completes (orderly : e.Orderly handler limits memory requests s)
    (answers : handler.Answers limits.serverSends limits.clientReceives) (rooms : Rooms)
    (done : 4 * requests.length + 3 ≤ e.progress.total) : e.Completes handler memory requests rooms := by
  obtain ⟨answered, queued, taken, coming, accounts⟩ := orderly
  obtain ⟨parts, all, here⟩ := accounts.counts answers
  have near : e.session.phase.nearness ≤ 3 := Phase.nearness_le _
  rw [here, Progress.total] at done
  simp only at done
  obtain rfl : queued = [] := List.eq_nil_of_length_eq_zero (by omega)
  obtain rfl : coming = [] := List.eq_nil_of_length_eq_zero (by omega)
  have none : e.unsent = [] := List.eq_nil_of_length_eq_zero (by omega)
  have free : e.client.isHeld rooms.toServer e.host = false :=
    Bool.eq_false_iff.mpr fun held => Nat.not_lt_zero _ (accounts.toServer_lt held)
  obtain ⟨split, own, replies, sends, receives, -, -⟩ := accounts
  rw [none, List.append_nil, List.append_nil] at split
  obtain rfl := split
  rw [List.append_nil] at replies
  exact ⟨own, by rw [receives, replies], sends, none, free⟩

/-- A round brings one of the sides ahead, unless all is done or both are held. -/
theorem Orderly.round (orderly : e.Orderly handler limits memory requests s) (admitted : limits.Admit requests)
    (answers : handler.Answers limits.serverSends limits.clientReceives) (rooms : Rooms) {moves : List ExchangeMove}
    (round : IsRound moves) :
    min (e.progress.total + 1) (4 * requests.length + 3) ≤ (e.run handler s rooms moves).progress.total ∨
      e.Jammed rooms := by
  obtain ahead | ⟨same, nothing⟩ := orderly.ahead_or_idle admitted answers rooms moves
  · left
    omega
  · obtain ⟨answered, queued, taken, coming, accounts⟩ := orderly
    obtain ⟨parts, all, here⟩ := accounts.counts answers
    rw [same]
    rw [here] at nothing ⊢
    -- A side that is held has something before it that the other has not read.
    have client (held : e.client.isHeld rooms.toServer e.host = true) : 0 < queued.length :=
      length_pos_of_streamOf (accounts.toServer_lt held)
    have session (held : e.session.channel.isHeld rooms.toClient e.host = true) : 0 < coming.length :=
      length_pos_of_streamOf (accounts.toClient_lt held)
    have sends : _ ∨ answered.length + queued.length = requests.length := nothing _ round.sends
    have serves : _ ∨ (0 = 0 → answered.length = answered.length + queued.length ∧ e.session.phase.nearness = 3) :=
      nothing _ round.serves
    have receives : _ ∨ (0 = 0 → taken.length = answered.length) := nothing _ round.receives
    by_cases both : e.Jammed rooms
    · exact .inr both
    · left
      rw [Progress.total]
      by_cases held : e.client.isHeld rooms.toServer e.host = true
      · have free := fun other => both ⟨held, other⟩
        have queue := client held
        have done := serves.resolve_left free rfl
        omega
      · have sent := sends.resolve_left held
        have received := receives.resolve_left held rfl
        have free (other : e.session.channel.isHeld rooms.toClient e.host = true) : False := by
          have some := session other
          omega
        have done := serves.resolve_left free rfl
        simp only
        omega

theorem Orderly.rounds (orderly : e.Orderly handler limits memory requests s) (admitted : limits.Admit requests)
    (answers : handler.Answers limits.serverSends limits.clientReceives) (rooms : Rooms)
    {rounds : List (List ExchangeMove)} (fair : ∀ round ∈ rounds, IsRound round) :
    min (e.progress.total + rounds.length) (4 * requests.length + 3) ≤ (e.run handler s rooms rounds.flatten).progress.total ∨
      (e.run handler s rooms rounds.flatten).Jammed rooms := by
  induction rounds generalizing e with
  | nil => exact .inl (Nat.min_le_left ..)
  | cons first rest ih =>
    obtain ⟨round, others⟩ := List.forall_mem_cons.mp fair
    obtain once | jammed := orderly.round admitted answers rooms round
    · rw [List.flatten_cons, run_append, List.length_cons]
      refine (ih (orderly.run admitted answers rooms first).1 others).imp_left fun further => ?_
      omega
    · right
      rwa [orderly.stays jammed]

/-- The session is held, or reads and there is nothing to read. -/
def ServerWaits (rooms : Rooms) (e : Exchange ρ) : Prop :=
  e.session.channel.isHeld rooms.toClient e.host = true ∨
    e.progress.answered = e.progress.sent ∧ e.progress.nearness = 3

theorem Orderly.bounds (orderly : e.Orderly handler limits memory requests s)
    (answers : handler.Answers limits.serverSends limits.clientReceives) :
    e.progress.answered ≤ e.progress.sent ∧ e.progress.nearness ≤ 3 := by
  obtain ⟨answered, queued, taken, coming, accounts⟩ := orderly
  obtain ⟨-, -, here⟩ := accounts.counts answers
  rw [here]
  exact ⟨Nat.le_add_right .., Phase.nearness_le _⟩

/-- A step brings the session ahead unless it waits, and then it goes on waiting. -/
theorem Orderly.serve_once (orderly : e.Orderly handler limits memory requests s) (admitted : limits.Admit requests)
    (answers : handler.Answers limits.serverSends limits.clientReceives) (rooms : Rooms) :
    (e.ServerWaits rooms → (e.move handler s rooms (.serve 0)).ServerWaits rooms) ∧
      (e.progress.total < (e.move handler s rooms (.serve 0)).progress.total ∨ e.ServerWaits rooms) := by
  obtain ⟨kept, moved⟩ := orderly.move admitted answers rooms (.serve 0)
  refine ⟨?_, moved.onward.imp_right fun idle => idle.nothing.imp_right fun exhausted => exhausted rfl⟩
  rintro (held | ⟨all, near⟩)
  · obtain ⟨answered, queued, taken, coming, accounts⟩ := orderly
    rw [accounts.move_eq, if_pos (show e.isHeld rooms (.serve 0) = true from held)]
    exact .inl held
  -- A session that reads and has answered all it was sent is as far ahead as it can be.
  · have sent : (e.move handler s rooms (.serve 0)).progress.sent = e.progress.sent := rfl
    have received : (e.move handler s rooms (.serve 0)).progress.received = e.progress.received := rfl
    have bounds := kept.bounds answers
    obtain ahead | idle := moved.onward
    · simp only [Progress.total] at ahead
      omega
    · rw [ServerWaits, idle.same]
      exact .inr ⟨all, near⟩

/-- The session gets as many steps ahead as it is given, or comes to wait. -/
theorem Orderly.serves (orderly : e.Orderly handler limits memory requests s) (admitted : limits.Admit requests)
    (answers : handler.Answers limits.serverSends limits.clientReceives) (rooms : Rooms) (count : Nat) :
    let last := e.run handler s rooms (List.replicate count (.serve 0))
    (e.progress.total + count ≤ last.progress.total ∨ last.ServerWaits rooms) ∧
      last.client = e.client ∧ last.unsent = e.unsent ∧ last.sends = e.sends ∧ last.receives = e.receives := by
  induction count with
  | zero => exact ⟨.inl (Nat.le_refl _), rfl, rfl, rfl, rfl⟩
  | succ count ih =>
    have before := (orderly.run admitted answers rooms (List.replicate count (.serve 0))).1
    have last : e.run handler s rooms (List.replicate (count + 1) (.serve 0)) =
        (e.run handler s rooms (List.replicate count (.serve 0))).move handler s rooms (.serve 0) := by
      rw [List.replicate_succ', run_append]
      rfl
    rw [last]
    generalize e.run handler s rooms (List.replicate count (.serve 0)) = reached at ih before
    obtain ⟨ahead, client, unsent, sends, receives⟩ := ih
    obtain ⟨waits, steps⟩ := before.serve_once admitted answers rooms
    refine ⟨?_, client, unsent, sends, receives⟩
    obtain far | waited := ahead
    · obtain further | waited := steps
      · left
        omega
      · exact .inr (waits waited)
    · exact .inr (waits waited)

section
variable {answered queued taken coming : List Message}

/-- Where every request is still to be sent, nothing has happened. -/
theorem Accounts.untouched (accounts : e.Accounts handler limits memory requests s answered queued taken coming)
    (answers : handler.Answers limits.serverSends limits.clientReceives) (unsent : e.unsent = requests) :
    answered = [] ∧ queued = [] ∧ taken = [] ∧ coming = [] := by
  obtain ⟨parts, all, -⟩ := accounts.counts answers
  rw [unsent] at parts
  refine ⟨List.eq_nil_of_length_eq_zero ?_, List.eq_nil_of_length_eq_zero ?_, List.eq_nil_of_length_eq_zero ?_,
    List.eq_nil_of_length_eq_zero ?_⟩
  all_goals omega

/-- A session that waits with one request sent has answered it, and is held if there is no room for the reply. -/
theorem Accounts.held_by_reply {first : Message}
    (accounts : e.Accounts handler limits memory (first :: e.unsent) s answered queued taken coming)
    (answers : handler.Answers limits.serverSends limits.clientReceives) (waits : e.ServerWaits rooms)
    (unreceived : e.receives = []) {c : Connection} (connected : e.client.connection? = some c)
    (fresh : c.reader.buffer = []) (reply : rooms.toClient < (streamOf (handler.replies memory [first])).length) :
    answered = [first] ∧ queued = [] ∧ e.session.channel.isHeld rooms.toClient e.host = true := by
  obtain ⟨parts, all, here⟩ := accounts.counts answers
  have none : taken = [] := List.map_eq_nil_iff.mp (accounts.receives.symm.trans unreceived)
  have sent : answered ++ queued = [first] := by
    have split : [first] ++ e.unsent = answered ++ queued ++ e.unsent := accounts.requests
    exact (List.append_cancel_right split).symm
  have one : answered.length + queued.length = 1 := by rw [← List.length_append, sent, List.length_singleton]
  have through : queued = [] := by
    apply List.eq_nil_of_length_eq_zero
    obtain held | ⟨done, -⟩ := waits
    · have some := length_pos_of_streamOf (accounts.toClient_lt held)
      omega
    · rw [here] at done
      simp only at done
      omega
  obtain rfl : answered = [first] := by rwa [through, List.append_nil] at sent
  refine ⟨rfl, through, ?_⟩
  obtain held | ⟨-, near⟩ := waits
  · exact held
  -- What the session wrote is before the client, who has read nothing.
  · obtain ⟨-, -, replies, -, -, server, c', talks, toClient⟩ := accounts
    cases connected.symm.trans talks.connected
    rw [fresh, List.nil_append] at toClient
    rw [none, List.nil_append] at replies
    apply server.isHeld_iff.mpr
    rw [toClient, ← replies]
    exact ⟨server.connected (Nat.le_of_lt (Nat.le_of_eq near.symm)), reply⟩

/-- A client that sends one more request, for which there is no room, while the session is held. -/
theorem Accounts.jams {second : Message} {rest : List Message}
    (accounts : e.Accounts handler limits memory requests s answered [] taken coming) (admitted : limits.Admit requests)
    (held : e.session.channel.isHeld rooms.toClient e.host = true) (unsent : e.unsent = second :: rest)
    (request : rooms.toServer < (frameOf second.bytes).length) :
    let next := e.move handler s rooms .send
    next.Jammed rooms ∧ next.session = e.session ∧ next.unsent = rest ∧ next.receives = e.receives := by
  have free : ¬ e.isHeld rooms .send = true := fun held => Nat.not_lt_zero _ (accounts.toServer_lt held)
  obtain ⟨turns, benign, sent⟩ := accounts.sendNext_eq admitted unsent
  obtain ⟨⟨_, _, _, _, later⟩, -⟩ := accounts.send admitted rooms
  rw [accounts.move_eq, if_neg free]
  rw [unhindered, sent] at later ⊢
  obtain ⟨-, -, -, -, -, server, c, talks, -⟩ := accounts
  obtain ⟨-, -, -, -, -, server', c', talks', -⟩ := later
  obtain ⟨connected, full⟩ := server.isHeld_iff.mp held
  have link := Host.link_setLink (l := ((e.host.link s.peer).written turns (frameOf second.bytes)).swap) server.inRange
  refine ⟨⟨talks'.isHeld_iff.mpr ?_, server'.isHeld_iff.mpr ⟨connected, ?_⟩⟩, rfl, rfl, rfl⟩
  · rw [Host.endpoint, link]
    simp only [Link.swap, Link.written, List.length_append]
    omega
  · rw [Host.endpoint_peer] at full ⊢
    rw [link, Host.link_peer]
    exact full

end

/-- A client that sends its second request before it has received the first reply: if there is no room for either, both
sides are held and nothing more ever happens. -/
theorem Orderly.jams {first second : Message} {rest : List Message}
    (orderly : e.Orderly handler limits memory (first :: second :: rest) s)
    (admitted : limits.Admit (first :: second :: rest))
    (answers : handler.Answers limits.serverSends limits.clientReceives) (rooms : Rooms)
    (fresh : e.unsent = first :: second :: rest) (request : rooms.toServer < (frameOf second.bytes).length)
    (reply : rooms.toClient < (streamOf (handler.replies memory [first])).length) :
    let last := e.run handler s rooms (.send :: List.replicate 6 (.serve 0) ++ [.send])
    last.Jammed rooms ∧ last.session.memory.2 = [first] ∧ last.unsent = rest ∧ last.receives = [] := by
  obtain ⟨answered, queued, taken, coming, accounts⟩ := orderly
  obtain ⟨rfl, rfl, rfl, rfl⟩ := accounts.untouched answers fresh
  -- The first request is sent.
  have free : ¬ e.isHeld rooms .send = true := fun held => Nat.not_lt_zero _ (accounts.toServer_lt held)
  obtain ⟨turns, -, once⟩ := accounts.sendNext_eq admitted fresh
  have sent : e.move handler s rooms .send = e.sendNext := by
    rw [accounts.move_eq, if_neg free]
    rfl
  obtain ⟨orderly, -⟩ := accounts.send admitted rooms
  rw [unhindered] at orderly
  have run : e.run handler s rooms (.send :: List.replicate 6 (.serve 0) ++ [.send]) =
      (e.sendNext.run handler s rooms (List.replicate 6 (.serve 0))).move handler s rooms .send := by
    rw [run_append, ← sent]
    rfl
  -- The session comes to wait, as it cannot make six steps with one request.
  obtain ⟨ahead, client, unsent, sends, receives⟩ := orderly.serves admitted answers rooms 6
  have served := (orderly.run admitted answers rooms (List.replicate 6 (.serve 0))).1
  rw [run]
  generalize e.sendNext.run handler s rooms (List.replicate 6 (.serve 0)) = mid at *
  obtain ⟨-, -, -, none, unreceived, -, c, talks, nothing⟩ := accounts
  rw [once] at ahead client unsent sends receives
  have waits : mid.ServerWaits rooms := by
    obtain far | waits := ahead
    · have bounds := served.bounds answers
      simp only [Progress.total, progress, sends, receives, none, unreceived] at far bounds
      simp at far bounds
      omega
    · exact waits
  obtain ⟨answered, queued, taken, coming, accounts⟩ := served
  have connected : mid.client.connection? = some c := by rw [client, talks.connected]
  have left : mid.unsent = second :: rest := unsent
  have untouched : c.reader.buffer = [] := (List.append_eq_nil_iff.mp nothing).1
  obtain ⟨rfl, rfl, held⟩ :=
    (left ▸ accounts).held_by_reply answers waits (receives.trans unreceived) connected untouched reply
  obtain ⟨jammed, session, others, still⟩ := accounts.jams admitted held left request
  refine ⟨jammed, ?_, others, still.trans (receives.trans unreceived)⟩
  rw [session, accounts.remembered]

end

/-- A session that starts with a peer at the socket awaits no request yet. -/
theorem start_awaits {server : Channel} {host : Host} {s : SocketId} (available : server.Available host s)
    (calm : (host.link s).Calm) (idle : (host.endpoint s).inbox = []) (memory : ρ) :
    (Session.start server (memory, ([] : List Message))).Awaits s server.readLimit server.writeLimit host [] [] := by
  refine ⟨available.inRange, calm, available.unrequested, [], ?_, by rw [idle]; rfl⟩
  have peer := available.peer
  have engaged {c : Connection} (connected : server.connection? = some c) (socket : c.socket = s)
      (empty : c.reader.buffer = []) :
      (Session.start server (memory, ([] : List Message))).Stage s server.readLimit server.writeLimit host [] := by
    rw [← empty]
    apply Session.Stage.engaged (.inl rfl) connected socket
    · rw [Channel.readLimit, connected]
      rfl
    · rw [Channel.writeLimit, connected]
      rfl
  split at peer
  · rename_i c state
    exact engaged (by rw [Channel.connection?, state]) peer.1 peer.2
  · rename_i l c state
    exact engaged (by rw [Channel.connection?, state]) peer.1 peer.2
  · rename_i l state
    obtain ⟨⟨rest, backlog⟩, inactive, patient⟩ := peer
    have none : server.connection? = none := by rw [Channel.connection?, state]
    refine .arriving rfl ⟨state, inactive, patient, ?_, ?_⟩ backlog
    · rw [Channel.readLimit, none]
      rfl
    · rw [Channel.writeLimit, none]
      rfl
  · cases peer

theorem start_orderly (handler : Handler ρ) (memory : ρ) {client server : Channel} {host : Host} {s : SocketId}
    {c : Connection} (requests : List Message) (available : server.Available host s) (calm : (host.link s).Calm)
    (toServer : (host.endpoint s).inbox = []) (toClient : (host.endpoint s.peer).inbox = [])
    (connected : client.connection? = some c) (socket : c.socket = s.peer) (fresh : c.reader.buffer = []) :
    (start client server memory host requests).Orderly handler
      ⟨c.writer.config.maxSize, c.reader.config.maxSize, server.writeLimit, server.readLimit⟩ memory requests s := by
  refine ⟨[], [], [], [], rfl, rfl, rfl, rfl, rfl, start_awaits available calm toServer memory, c, ?_, ?_⟩
  · exact ⟨connected, socket, rfl, rfl⟩
  · change c.reader.buffer ++ (host.endpoint s.peer).inbox = []
    rw [fresh, toClient]
    rfl

end Exchange

theorem checkReply_of_response {request reply : Message} (response : reply.type = .ok .response)
    (same : reply.callId = request.callId) : checkReply request reply = .ok () := by
  rw [checkReply, response]
  exact if_pos same

/-- A client sends its requests without waiting for replies, to a channel that serves its connection. Whatever parts of
the bytes are late on their way, however little room there is for them and in whatever order the two sides go on, the
handler is asked the first of the requests in order and the client receives the first of the handler's replies in order.
After a bounded number of rounds, whatever else is done in each of them, the handler was asked all of the requests and
the client received all of the replies, unless either side is held by a call to write until the other reads. That cannot
happen once all calls to send have returned, nor if there is room for all requests or for all replies. A reply that is a
response to its request passes the check. -/
theorem Channel.answers_pipelined_unless_jammed {ρ : Type} (handler : Handler ρ) (memory : ρ) {client server : Channel}
    {host : Host} {s : SocketId} {c : Connection} {requests : List Message} (available : server.Available host s)
    (calm : (host.link s).Calm) (toServer : (host.endpoint s).inbox = []) (toClient : (host.endpoint s.peer).inbox = [])
    (connected : client.connection? = some c) (socket : c.socket = s.peer) (fresh : c.reader.buffer = [])
    (valid : ∀ m ∈ requests, m.isRequest ∧ m.Passes c.writer.config.maxSize server.readLimit)
    (answers : handler.Answers server.writeLimit c.reader.config.maxSize) (rooms : Rooms) :
    let start := Exchange.start client server memory host requests
    let replies := handler.replies memory requests
    replies.length = requests.length ∧
      (∀ moves, let e := start.run handler s rooms moves
        e.session.memory.2 <+: requests ∧ e.receives <+: replies.map .ok ∧
          e.sends <+: List.replicate requests.length (.ok ()) ∧
          ∀ rounds : List (List ExchangeMove), (∀ round ∈ rounds, Exchange.IsRound round) →
            4 * requests.length + 3 ≤ rounds.length →
            let last := e.run handler s rooms rounds.flatten
            last.Completes handler memory requests rooms ∨
              last.Stalled handler memory requests s rooms ∧ ¬ e.HasSent rooms) ∧
      ((streamOf requests).length ≤ rooms.toServer ∨ (streamOf replies).length ≤ rooms.toClient →
        ∀ moves, ¬ (start.run handler s rooms moves).Jammed rooms) ∧
      ∀ (i : Nat) (request reply : Message), requests[i]? = some request → replies[i]? = some reply →
        reply.type = .ok .response → reply.callId = request.callId → checkReply request reply = .ok () := by
  intro start replies
  have orderly := Exchange.start_orderly handler memory requests available calm toServer toClient connected socket fresh
  have reached moves := (orderly.run valid answers rooms moves).1
  refine ⟨answers.length_replies memory requests, fun moves => ?_, fun roomy moves => ?_, ?_⟩
  · intro e
    obtain ⟨asked, received, sent⟩ := (reached moves).in_order
    refine ⟨asked, received, sent, fun rounds fair enough => ?_⟩
    obtain ⟨last, returned⟩ := (reached moves).run valid answers rooms rounds.flatten
    obtain ahead | jammed := (reached moves).rounds valid answers rooms fair
    · left
      apply last.completes answers rooms
      exact Nat.le_trans (Nat.le_min.mpr ⟨Nat.le_trans enough (Nat.le_add_left ..), Nat.le_refl _⟩) ahead
    · refine .inr ⟨last.stalled jammed, fun sent => ?_⟩
      exact Bool.false_ne_true ((returned sent).2.symm.trans jammed.1)
  · exact (reached moves).not_jammed roomy
  · intro i request reply _ _ response same
    exact checkReply_of_response response same

/-- A channel that listens, and a client that has connected to it. -/
def listeningChannel : Channel := ⟨.listening 0 none, "socket", {}, 1⟩

def connectedChannel : Channel := ⟨.connected ⟨⟨0, false⟩, {}, {}⟩, "socket", {}, 0⟩

def connectedHost (near far : Endpoint) : Host where
  links := [⟨near, far⟩]
  listeners := [{ path := "socket", inode := 1, backlog := [⟨0, true⟩] }]
  controls := [{}, { listenPath := some "socket" }]

theorem connectedHost_calm {near far : Endpoint} (calm : near.Calm) (calm' : far.Calm) :
    listeningChannel.Available (connectedHost near far) ⟨0, true⟩ ∧ ((connectedHost near far).link ⟨0, true⟩).Calm :=
  ⟨⟨Nat.zero_lt_one, Link.Calm.steady ⟨calm', calm⟩, rfl, ⟨[], rfl⟩, rfl, rfl, rfl⟩, calm', calm⟩

theorem connectedHost_undisturbed : listeningChannel.Available (connectedHost {} {}) ⟨0, true⟩ ∧
    ((connectedHost {} {}).link ⟨0, true⟩).Calm := by
  have calm : ({} : Endpoint).Calm := ⟨rfl, rfl, List.forall_mem_nil _, List.forall_mem_nil _⟩
  exact connectedHost_calm calm calm

/-- Two requests to a listening channel; of each the last bytes come a step later, and the handler counts. -/
theorem Channel.answers_pipelined_unless_jammed_while_late :
    let near : Endpoint := { readTurns := [.fails (.ofKind .interrupted), .upTo 3] }
    let far : Endpoint := { readTurns := [.upTo 2], writeTurns := [.upTo 1, .upTo 6] }
    let host := connectedHost near far
    let handler : Handler Nat := fun count m => (count + 1, [.place (Message.response m.callId [UInt8.ofNat count])])
    let requests := [Message.request 7 1 2 [3, 4], Message.request 8 1 2 []]
    let round : List ExchangeMove := [.send, .serve 5, .serve 0, .receive 1, .receive 0]
    let rounds := List.replicate 11 round
    let rooms : Rooms := ⟨socketBuffer, socketBuffer⟩
    listeningChannel.Available host ⟨0, true⟩ ∧ (host.link ⟨0, true⟩).Calm ∧
      (∀ m ∈ requests, m.isRequest ∧ m.Passes defaultMaxFrameSize listeningChannel.readLimit) ∧
      handler.Answers listeningChannel.writeLimit defaultMaxFrameSize ∧
      ((Exchange.start connectedChannel listeningChannel 5 host requests).run handler ⟨0, true⟩ rooms rounds.flatten).receives =
        [.ok (Message.response 7 [5]), .ok (Message.response 8 [6])] := by
  intro near far host handler requests round rounds rooms
  have reads : ∀ turn ∈ far.readTurns, turn.IsBenign := List.forall_mem_singleton.mpr trivial
  have writes : ∀ turn ∈ far.writeTurns, turn.IsBenign :=
    List.forall_mem_cons.mpr ⟨Nat.zero_lt_succ _, List.forall_mem_singleton.mpr (Nat.zero_lt_succ _)⟩
  have clientReads : ∀ turn ∈ near.readTurns, turn.IsBenign :=
    List.forall_mem_cons.mpr ⟨rfl, List.forall_mem_singleton.mpr trivial⟩
  have nearCalm : near.Calm := ⟨rfl, rfl, clientReads, nofun⟩
  have farCalm : far.Calm := ⟨rfl, rfl, reads, writes⟩
  obtain ⟨available, calm⟩ := connectedHost_calm nearCalm farCalm
  have valid : ∀ m ∈ requests, m.isRequest ∧ m.Passes defaultMaxFrameSize listeningChannel.readLimit := by
    refine List.forall_mem_cons.mpr ⟨⟨rfl, rfl, by decide, by decide, by decide⟩, ?_⟩
    exact List.forall_mem_singleton.mpr ⟨rfl, rfl, by decide, by decide, by decide⟩
  have answers : handler.Answers listeningChannel.writeLimit defaultMaxFrameSize := by
    intro count m
    refine ⟨?_, Message.response m.callId [UInt8.ofNat count], rfl, rfl, ?_, ?_, ?_⟩
    · intro member
      cases List.mem_singleton.mp member
    all_goals
      change 5 ≤ _
      decide
  have fair : ∀ each ∈ rounds, Exchange.IsRound each := by
    intro each member
    obtain rfl := List.eq_of_mem_replicate member
    exact ⟨by simp [round], by simp [round], by simp [round]⟩
  have connected : connectedChannel.connection? = some ⟨⟨0, false⟩, {}, {}⟩ := rfl
  obtain ⟨-, goesOn, roomy, -⟩ :=
    answers_pipelined_unless_jammed handler 5 available calm rfl rfl connected rfl rfl valid answers rooms
  obtain ⟨-, -, -, ends⟩ := goesOn []
  obtain complete | ⟨stalled, -⟩ := ends rounds fair (by decide)
  · exact ⟨available, calm, valid, answers, complete.received⟩
  · exact absurd stalled.jammed (roomy (.inl (by decide)) rounds.flatten)

/-- Replies to every request with the same bytes. -/
def alwaysReply (value : Bytes) : Handler Unit := fun _ m => ((), [.place (Message.response m.callId value)])

/-- A second request and a first reply of a megabyte each. -/
theorem Exchange.megabytes_jam {large : Bytes} (size : large.length = 1048576) :
    let requests := [Message.request 1 2 3 [], Message.request 2 2 3 large]
    let start := Exchange.start connectedChannel listeningChannel () (connectedHost {} {}) requests
    (∀ m ∈ requests, m.isRequest ∧ m.Passes defaultMaxFrameSize listeningChannel.readLimit) ∧
      (alwaysReply large).Answers listeningChannel.writeLimit defaultMaxFrameSize ∧
      ∃ both : List ExchangeMove, ∀ more,
        let e := start.run (alwaysReply large) ⟨0, true⟩ ⟨socketBuffer, socketBuffer⟩ (both ++ more)
        e.unsent = [] ∧ e.session.memory.2 = [Message.request 1 2 3 []] ∧ e.receives = [] := by
  intro requests start
  have request : (Message.request 2 2 3 large).bytes.length = 1048592 := by
    simp [Message.request, Message.bytes, Body.bytes, Bytes.littleEndian, size]
  have response (callId : UInt16) : (Message.response callId large).bytes.length = 1048580 := by
    simp [Message.response, Message.bytes, Body.bytes, Bytes.littleEndian, size]
  have passes {m : Message} (valid : m.validate = .ok ()) (length : m.bytes.length ≤ 1048592) :
      m.Passes defaultMaxFrameSize defaultMaxFrameSize :=
    ⟨valid, Nat.le_trans length (by decide), Nat.le_trans length (by decide), Nat.le_trans length (by decide)⟩
  have valid : ∀ m ∈ requests, m.isRequest ∧ m.Passes defaultMaxFrameSize listeningChannel.readLimit :=
    List.forall_mem_cons.mpr ⟨⟨rfl, passes rfl (by decide)⟩,
      List.forall_mem_singleton.mpr ⟨rfl, passes rfl (Nat.le_of_eq request)⟩⟩
  have answers : (alwaysReply large).Answers listeningChannel.writeLimit defaultMaxFrameSize := by
    intro memory m
    refine ⟨?_, Message.response m.callId large, rfl, passes rfl ?_⟩
    · simp [alwaysReply]
    · rw [response]
      decide
  obtain ⟨available, calm⟩ := connectedHost_undisturbed
  have connected : connectedChannel.connection? = some ⟨⟨0, false⟩, {}, {}⟩ := rfl
  have orderly := Exchange.start_orderly (alwaysReply large) () requests available calm rfl rfl connected rfl rfl
  have full : socketBuffer < (frameOf (Message.request 2 2 3 large).bytes).length := by
    rw [frameOf_length, request]
    decide
  have fuller : socketBuffer < (streamOf ((alwaysReply large).replies () [Message.request 1 2 3 []])).length := by
    have alone : streamOf ((alwaysReply large).replies () [Message.request 1 2 3 []]) = frameOf (Message.response 1 large).bytes :=
      List.append_nil _
    rw [alone, frameOf_length, response]
    decide
  obtain ⟨jammed, asked, unsent, received⟩ := orderly.jams valid answers ⟨socketBuffer, socketBuffer⟩ rfl full fuller
  refine ⟨valid, answers, .send :: List.replicate 6 (.serve 0) ++ [.send], fun more => ?_⟩
  rw [Exchange.run_append, (orderly.run valid answers _ _).1.stays jammed]
  exact ⟨unsent, asked, received⟩

/-- A client that sends both its requests before it receives: the second is never served and no reply received,
whatever is done then. -/
theorem Channel.leaves_pipelined_unanswered :
    let large : Bytes := List.replicate 1048576 0
    let requests := [Message.request 1 2 3 [], Message.request 2 2 3 large]
    let host := connectedHost {} {}
    let start := Exchange.start connectedChannel listeningChannel () host requests
    listeningChannel.Available host ⟨0, true⟩ ∧ (host.link ⟨0, true⟩).Calm ∧
      (∀ m ∈ requests, m.isRequest ∧ m.Passes defaultMaxFrameSize listeningChannel.readLimit) ∧
      (alwaysReply large).Answers listeningChannel.writeLimit defaultMaxFrameSize ∧
      ∃ both : List ExchangeMove, ∀ more,
        let e := start.run (alwaysReply large) ⟨0, true⟩ ⟨socketBuffer, socketBuffer⟩ (both ++ more)
        e.unsent = [] ∧ e.session.memory.2 = [Message.request 1 2 3 []] ∧ e.receives = [] := by
  obtain ⟨available, calm⟩ := connectedHost_undisturbed
  exact ⟨available, calm, Exchange.megabytes_jam List.length_replicate⟩

end CallWire
