import CallWire.Proofs.AcceptLoop
import CallWire.Proofs.InboxGains

/-! What a peer does at its end, and what others do elsewhere. Neither is of account to what a session owes; and a session
whose stream has ended is as far from its end afterwards as before. -/

namespace CallWire

namespace Host
variable {host : Host} {s t : SocketId}

theorem link_setLink_of_ne (other : t.connection ≠ s.connection) (l : Link) : (host.setLink t l).link s = host.link s := by
  unfold link setLink
  rw [List.getD_eq_getElem?_getD, List.getElem?_set_ne other, List.getD_eq_getElem?_getD]

end Host

theorem Endpoint.read_undisturbed (limit : Nat) {e : Endpoint} (reads : e.readTurns = []) :
    (e.read limit).2.readTurns = [] ∧ (e.read limit).2.writeTurns = e.writeTurns := by
  unfold read
  split
  · rename_i front
    cases front.symm.trans reads
  · split
    · split
      · exact ⟨reads, rfl⟩
      · split
        · exact ⟨reads, rfl⟩
        · exact ⟨reads, rfl⟩
    · refine ⟨?_, rfl⟩
      dsimp only
      rw [reads]
      rfl

theorem Endpoint.read_inbox (limit : Nat) {e : Endpoint} (reads : e.readTurns = []) :
    (e.read limit).2.inbox = e.inbox.drop limit := by
  unfold read
  split
  · rename_i front
    cases front.symm.trans reads
  · split
    · have nothing : e.inbox = [] := List.isEmpty_iff.mp ‹_›
      rw [nothing, List.drop_nil]
      split
      · rfl
      · split
        · exact nothing
        · exact nothing
    · rw [reads]
      rfl

namespace Encounter
variable {ρ : Type} {handler : Handler ρ} {channel : Channel} {s t : SocketId} {e later : Encounter ρ} {service : Service ρ}

/-- What others do on another connection is of no account to a session. -/
theorem Owes.elsewhere (owes : e.Owes handler channel s service) (other : t.connection ≠ s.connection) (l : Link) :
    Owes handler channel s { e with host := e.host.setLink t l } service := by
  have link : (e.host.setLink t l).link s = e.host.link s := Host.link_setLink_of_ne other l
  have near : (e.host.setLink t l).endpoint s = e.host.endpoint s := congrArg Link.near link
  -- What a session owes depends on its own link and on nothing else of the host.
  have flows (flows : e.Flows channel s) : Flows channel s { e with host := e.host.setLink t l } := by
    constructor
    · show ((e.host.setLink t l).link s).Steady
      rw [link]
      exact flows.steady
    · show ((e.host.setLink t l).endpoint s).isEnded = true → e.unsent = []
      rw [near]
      exact flows.whole
    · exact flows.unrequested
    · exact flows.role
  let next : Encounter ρ := { e with host := e.host.setLink t l }
  have same : next.coming s = e.coming s := by
    unfold coming
    rw [near]
  have due (buffer : Bytes) : next.due handler channel s buffer = e.due handler channel s buffer := due_eq same rfl buffer
  cases owes with
  | arriving phase vacant backlog =>
    rw [← due]
    exact .arriving phase { vacant with toFlows := flows vacant.toFlows } backlog
  | attaching phase vacant =>
    rw [← due]
    exact .attaching phase { vacant with toFlows := flows vacant.toFlows }
  | serving phase engaged =>
    rw [← due]
    exact .serving phase { engaged with toFlows := flows engaged.toFlows }
  | parting phase connected unrequested role => exact .parting phase connected unrequested role
  | failing phase fatal => exact .failing phase fatal
  | settled phase state inactive => exact .settled phase state inactive

theorem Faithful.elsewhere {total : Service ρ} {before : Bytes} (faithful : e.Faithful handler channel s total before)
    (other : t.connection ≠ s.connection) (l : Link) :
    Faithful handler channel s total before { e with host := e.host.setLink t l } := by
  have far : (e.host.setLink t l).endpoint s.peer = e.host.endpoint s.peer :=
    Host.endpoint_setLink_of_ne (p := s.peer) other l
  refine ⟨(Host.setLink_length ..).symm ▸ faithful.inRange, faithful.kin, ?_⟩
  obtain ⟨replied, service, owes, split, written, paired⟩ := faithful.owed
  refine ⟨replied, service, owes.elsewhere other l, split, ?_, paired⟩
  rw [← written]
  unfold Encounter.written
  rw [far]

theorem move_aside (inRange : s.connection < e.host.links.length) {m : CallWire.Move} (peer : m ≠ .serve) :
    e.Aside s (e.move handler s m) := by
  cases m with
  | serve => exact absurd rfl peer
  | send count => exact send_aside inRange count
  | finish => exact finish_aside inRange
  | receive limit => exact receive_aside inRange limit

/-- What a peer does is the same whatever the session is at. -/
theorem move_session {m : CallWire.Move} (peer : m ≠ .serve) (session : Session (ρ × List Message)) :
    move handler s { e with session } m = { e.move handler s m with session } := by
  cases m with
  | serve => exact absurd rfl peer
  | send count =>
    simp only [move]
    rcases (e.host.link s.peer).write (e.unsent.take count) with ⟨outcome, link⟩
    cases outcome with
    | accepted | failed => rfl
  | finish =>
    simp only [move]
    split
    · rfl
    · rfl
  | receive limit => rfl

/-- What a peer does leaves its end as open as it was, and disturbs no call there. -/
theorem move_far (inRange : s.connection < e.host.links.length) {m : CallWire.Move} (peer : m ≠ .serve)
    (undisturbed : (e.host.endpoint s.peer).readTurns = [] ∧ (e.host.endpoint s.peer).writeTurns = []) :
    ((e.move handler s m).host.endpoint s.peer).isEnded = (e.host.endpoint s.peer).isEnded ∧
      ((e.move handler s m).host.endpoint s.peer).readTurns = [] ∧
      ((e.move handler s m).host.endpoint s.peer).writeTurns = [] := by
  have inRange : s.peer.connection < e.host.links.length := inRange
  obtain ⟨reads, writes⟩ := undisturbed
  cases m with
  | serve => exact absurd rfl peer
  | send count =>
    simp only [move]
    obtain ⟨error, turns, front, -⟩ | ⟨-, failed⟩ | ⟨moved, rest, -, -, accepted, -⟩ :=
      (e.host.link s.peer).write_cases (e.unsent.take count)
    · cases front.symm.trans writes
    · simp only [failed, Host.setLink_link inRange]
      exact ⟨trivial, reads, writes⟩
    · have tail : (e.host.link s.peer).near.writeTurns.tail = [] := by
        rw [show (e.host.link s.peer).near.writeTurns = [] from writes]
        rfl
      simp only [accepted, Host.endpoint, Host.link_setLink inRange, Link.written, tail]
      exact ⟨trivial, reads, trivial⟩
  | finish =>
    simp only [move]
    split
    · simp only [Host.shutdown, Host.onLink, Host.endpoint, Host.link_setLink inRange, Link.shutdown]
      exact ⟨Bool.or_false _, reads, writes⟩
    · exact ⟨rfl, reads, writes⟩
  | receive limit =>
    obtain ⟨-, ended⟩ := Endpoint.read_conserves limit (e.host.endpoint s.peer)
    obtain ⟨reads, rest⟩ := Endpoint.read_undisturbed limit reads
    simp only [move, Host.endpoint_setEndpoint inRange]
    exact ⟨ended, reads, rest.trans writes⟩

/-- Nothing that a peer does opens the stream again. -/
theorem move_ended (inRange : s.connection < e.host.links.length) {m : CallWire.Move} (peer : m ≠ .serve)
    (ended : (e.host.endpoint s).isEnded = true) : ((e.move handler s m).host.endpoint s).isEnded = true := by
  have near : (e.host.link s.peer).far.isEnded = true := by
    rw [Host.link_peer]
    exact ended
  have moved (l : Link) (kept : l.far.isEnded = true) : ((e.host.setLink s.peer l).endpoint s).isEnded = true := by
    rw [Host.setLink_peer, Host.endpoint, Host.link_setLink inRange]
    exact kept
  cases m with
  | serve => exact absurd rfl peer
  | send count =>
    simp only [move]
    obtain ⟨error, turns, -, failed⟩ | ⟨-, failed⟩ | ⟨taken, rest, -, unended, -⟩ :=
      (e.host.link s.peer).write_cases (e.unsent.take count)
    · rw [failed]
      exact moved _ near
    · rw [failed]
      exact moved _ near
    · cases near.symm.trans unended
  | finish =>
    simp only [move]
    split
    · exact moved _ (by simp [Link.shutdown])
    · exact ended
  | receive limit => exact moved _ near

/-- A session whose stream has ended has the same way to go whatever its peer does. -/
theorem Owes.ending_aside (owes : e.Owes handler channel s service) (aside : e.Aside s later)
    (stays : (e.host.endpoint s).isEnded = true → (later.host.endpoint s).isEnded = true) (ending : e.Ending s) :
    later.Ending s ∧ later.rank s = e.rank s := by
  have session := aside.session
  -- Once the stream has ended all of it has arrived, and what is to come is just what is held.
  have same (whole : (e.host.endpoint s).isEnded = true → e.unsent = []) (ended : (e.host.endpoint s).isEnded = true) :
      later.held s = e.held s := by
    have coming := aside.coming
    simp only [Encounter.coming, whole ended, aside.whole whole (stays ended), List.append_nil] at coming
    rw [held, held, coming, session]
  unfold Ending rank
  rw [session]
  have ended (phase : e.session.phase = .arriving ∨ e.session.phase = .attaching s ∨ e.session.phase = .checking ∨
      e.session.phase = .reading) : (e.host.endpoint s).isEnded = true := by
    unfold Ending at ending
    obtain phase | phase | phase | phase := phase
    all_goals
      rw [phase] at ending
      exact ending
  cases owes with
  | arriving phase vacant =>
    have ended := ended (.inl phase)
    rw [phase]
    exact ⟨stays ended, congrArg (· + 6) (same vacant.whole ended)⟩
  | attaching phase vacant =>
    have ended := ended (.inr (.inl phase))
    rw [phase]
    exact ⟨stays ended, congrArg (· + 5) (same vacant.whole ended)⟩
  | serving phase engaged =>
    simp only [List.mem_cons, List.not_mem_nil, or_false] at phase
    have ended := ended (phase.imp_right .inr)
    have same := same engaged.whole ended
    obtain phase | phase | phase := phase
    all_goals
      rw [phase]
      exact ⟨stays ended, congrArg (· + _) same⟩
  | parting phase =>
    simp only [List.mem_cons, List.not_mem_nil, or_false] at phase
    obtain phase | phase := phase
    all_goals
      rw [phase]
      exact ⟨trivial, rfl⟩
  | failing phase | settled phase =>
    rw [phase]
    exact ⟨trivial, rfl⟩

theorem ending_of_ended (ended : (e.host.endpoint s).isEnded = true) : e.Ending s := by
  unfold Ending
  split
  all_goals first | exact ended | trivial

/-- A peer whose bytes are taken sends some of them. -/
theorem send_shortens (count : Nat) (some : e.unsent ≠ []) (undisturbed : (e.host.endpoint s.peer).writeTurns = [])
    (unended : (e.host.endpoint s).isEnded = false) :
    (e.move handler s (.send (count + 1))).unsent.length < e.unsent.length := by
  have far : (e.host.link s.peer).far.isEnded = false := by
    rw [Host.link_peer]
    exact unended
  have writes : (e.host.link s.peer).near.writeTurns = [] := undisturbed
  have accepted : (e.host.link s.peer).write (e.unsent.take (count + 1)) =
      (.accepted (e.unsent.take (count + 1)).length,
        { near := { (e.host.link s.peer).near with writeTurns := [] }
          far := { (e.host.link s.peer).far with
            inbox := (e.host.link s.peer).far.inbox ++ e.unsent.take (count + 1) } }) := by
    simp only [Link.write, writes, far, Link.portion, Bool.false_eq_true, if_false, List.tail_nil]
  have positive := List.length_pos_iff.mpr some
  simp only [move, accepted, List.length_drop, List.length_take]
  omega

theorem unsent_le {m : CallWire.Move} (peer : m ≠ .serve) : (e.move handler s m).unsent.length ≤ e.unsent.length := by
  cases m with
  | serve => exact absurd rfl peer
  | send count =>
    simp only [move]
    split
    · exact (List.drop_sublist ..).length_le
    · exact Nat.le_refl _
  | finish =>
    simp only [move]
    split
    · exact Nat.le_refl _
    · exact Nat.le_refl _
  | receive limit => exact Nat.le_refl _

/-- What has come for a peer becomes no more by what it does. -/
theorem inbox_le (inRange : s.connection < e.host.links.length) {m : CallWire.Move} (peer : m ≠ .serve) :
    ((e.move handler s m).host.endpoint s.peer).inbox.length ≤ (e.host.endpoint s.peer).inbox.length := by
  have written := congrArg List.length (@move_aside _ handler s e inRange m peer).written
  have more : e.received.length ≤ (e.move handler s m).received.length := by
    cases m with
    | serve => exact absurd rfl peer
    | send count =>
      simp only [move]
      split
      · exact Nat.le_refl _
      · exact Nat.le_refl _
    | finish =>
      simp only [move]
      split
      · exact Nat.le_refl _
      · exact Nat.le_refl _
    | receive limit =>
      simp only [move, List.length_append]
      exact Nat.le_add_right ..
  simp only [Encounter.written, List.length_append] at written
  omega

theorem receive_inbox (inRange : s.connection < e.host.links.length) (reads : (e.host.endpoint s.peer).readTurns = [])
    (limit : Nat) :
    ((e.move handler s (.receive limit)).host.endpoint s.peer).inbox = (e.host.endpoint s.peer).inbox.drop limit := by
  have inRange : s.peer.connection < e.host.links.length := inRange
  simp only [move, Host.endpoint_setEndpoint inRange, Endpoint.read_inbox limit reads]

/-- A peer that has nothing more to send ends the stream. -/
theorem finish_ended (inRange : s.connection < e.host.links.length) (nothing : e.unsent = []) :
    ((e.move handler s .finish).host.endpoint s).isEnded = true := by
  simp only [move, nothing, List.isEmpty_nil, if_true, Host.shutdown, Host.onLink, Host.setLink_peer, Host.endpoint,
    Host.link_setLink inRange]
  simp [Link.shutdown, Link.swap]

end Encounter
end CallWire
