import CallWire.Channel.Basic
import CallWire.Proofs.ReaderConservation

/-! Bytes on a connection whose turns do not disturb it. Reading takes them off one end whole and in order,
writing adds them to the other, and descriptors, timeouts and the end of a direction leave them alone. -/

namespace CallWire

def ReadTurn.IsBenign : ReadTurn → Prop
  | .upTo _ => True
  | .fails error => error.isInterruption = true

def WriteTurn.IsBenign : WriteTurn → Prop
  | .upTo count => 0 < count
  | .fails error => error.isInterruption = true

/-- Nothing but interruptions goes wrong for the near end. -/
structure Link.Steady (l : Link) : Prop where
  unreset : l.near.isReset = false
  reads : ∀ turn ∈ l.near.readTurns, turn.IsBenign
  writes : ∀ turn ∈ l.near.writeTurns, turn.IsBenign
  taken : l.far.isEnded = false

namespace Host
variable {host : Host} {s : SocketId} {l : Link}

theorem link_setLink (inRange : s.connection < host.links.length) : (host.setLink s l).link s = l := by
  unfold link setLink
  rw [List.getD_eq_getElem?_getD, List.getElem?_set_self inRange]
  cases s.isAccepted <;> rfl

theorem setLink_link (inRange : s.connection < host.links.length) : host.setLink s (host.link s) = host := by
  have own : host.links.set s.connection (host.links.getD s.connection {}) = host.links := by
    rw [List.getD_eq_getElem?_getD, List.getElem?_eq_getElem inRange]
    exact List.set_getElem_self inRange
  unfold setLink link
  cases s.isAccepted
  · simp only [Bool.false_eq_true, if_false, own]
  · simp only [if_true, Link.swap_swap, own]

theorem link_peer (host : Host) (s : SocketId) : host.link s.peer = (host.link s).swap := by
  unfold link SocketId.peer
  cases s.isAccepted <;> rfl

theorem setLink_peer (host : Host) (s : SocketId) (l : Link) : host.setLink s.peer l = host.setLink s l.swap := by
  unfold setLink SocketId.peer
  cases s.isAccepted <;> rfl

theorem endpoint_peer (host : Host) (s : SocketId) : host.endpoint s.peer = (host.link s).far := by
  rw [endpoint, link_peer]
  rfl

@[simp] theorem setLink_length (host : Host) (s : SocketId) (l : Link) :
    (host.setLink s l).links.length = host.links.length := List.length_set

theorem link_setEndpoint (inRange : s.connection < host.links.length) (e : Endpoint) :
    (host.setEndpoint s e).link s = { host.link s with near := e } := link_setLink inRange

theorem endpoint_setEndpoint (inRange : s.connection < host.links.length) (e : Endpoint) :
    (host.setEndpoint s e).endpoint s = e := by
  rw [endpoint, link_setEndpoint inRange]

theorem setEndpoint_peer (host : Host) (s : SocketId) (e : Endpoint) :
    host.setEndpoint s.peer e = host.setLink s { host.link s with far := e } := by
  rw [setEndpoint, onLink, setLink_peer, link_peer]
  rfl

theorem endpoint_peer_setEndpoint (inRange : s.connection < host.links.length) (e : Endpoint) :
    (host.setEndpoint s e).endpoint s.peer = host.endpoint s.peer := by
  rw [endpoint_peer, endpoint_peer, link_setEndpoint inRange]

theorem setEndpoint_setEndpoint (inRange : s.connection < host.links.length) (first second : Endpoint) :
    (host.setEndpoint s first).setEndpoint s second = host.setEndpoint s second := by
  unfold setEndpoint onLink
  rw [link_setLink inRange]
  unfold setLink
  rw [List.set_set]

structure SameInboxes (before after : Host) : Prop where
  length : after.links.length = before.links.length
  inbox : ∀ s, (after.endpoint s).inbox = (before.endpoint s).inbox

theorem SameInboxes.trans {first second third : Host} (left : first.SameInboxes second)
    (right : second.SameInboxes third) : first.SameInboxes third :=
  ⟨right.length.trans left.length, fun s => (right.inbox s).trans (left.inbox s)⟩

theorem onLink_sameInboxes (host : Host) (t : SocketId) {change : Link → Link}
    (kept : ∀ l, (change l).near.inbox = l.near.inbox ∧ (change l).far.inbox = l.far.inbox) :
    host.SameInboxes (host.onLink t change) := by
  refine ⟨setLink_length .., fun s => ?_⟩
  have same := kept (host.link t)
  unfold onLink setLink endpoint link at *
  rw [List.getD_eq_getElem?_getD, List.getElem?_set]
  by_cases own : t.connection = s.connection
  · rw [if_pos own, ← own]
    by_cases inRange : t.connection < host.links.length
    · rw [if_pos inRange]
      rcases ours : t.isAccepted with _ | _ <;> rcases s.isAccepted with _ | _
      all_goals simp [ours, Link.swap] at same ⊢
      all_goals first | exact same.1 | exact same.2
    · rw [if_neg inRange, List.getD_eq_getElem?_getD, List.getElem?_eq_none (Nat.not_lt.mp inRange)]
  · rw [if_neg own, List.getD_eq_getElem?_getD]

theorem shutdown_sameInboxes (host : Host) (t : SocketId) (direction : Direction) :
    host.SameInboxes (host.shutdown t direction) := host.onLink_sameInboxes t fun _ => ⟨rfl, rfl⟩

theorem release_sameInboxes (host : Host) (t : SocketId) : host.SameInboxes (host.release t) := by
  refine host.onLink_sameInboxes t fun l => ?_
  unfold Link.release
  split
  · exact ⟨rfl, rfl⟩
  · exact ⟨rfl, rfl⟩

theorem unregister_sameInboxes (host : Host) (c : ControlId) : host.SameInboxes (host.unregister c) := by
  unfold unregister
  split
  · exact ⟨rfl, fun _ => rfl⟩
  · have start : host.SameInboxes (host.setControl c { host.control c with active := none }) := ⟨rfl, fun _ => rfl⟩
    exact start.trans (release_sameInboxes _ _)

theorem closeListener_sameInboxes (host : Host) (l : ListenerId) : host.SameInboxes (host.closeListener l) := by
  have reset (waiting : List SocketId) (host : Host) :
      host.SameInboxes (waiting.foldl (fun host s => host.onLink s (Link.close true)) host) := by
    induction waiting generalizing host with
    | nil => exact ⟨rfl, fun _ => rfl⟩
    | cons s rest ih =>
      have first : host.SameInboxes (host.onLink s (Link.close true)) := host.onLink_sameInboxes s fun _ => ⟨rfl, rfl⟩
      exact first.trans (ih _)
  exact (reset _ host).trans ⟨rfl, fun _ => rfl⟩

theorem dropListener_sameInboxes (host : Host) (l : ListenerId) : host.SameInboxes (host.dropListener l) := by
  have file (after : Host) (same : after.links = host.links) : host.SameInboxes (after.closeListener l) := by
    have start : host.SameInboxes after := by
      refine ⟨by rw [same], fun s => ?_⟩
      rw [endpoint, endpoint, link, link, same]
    exact start.trans (closeListener_sameInboxes after l)
  apply file
  split
  · split
    · rfl
    · rfl
  · rfl

theorem inbox_le_inFlight (inRange : s.connection < host.links.length) :
    (host.endpoint s).inbox.length ≤ host.inFlight := by
  let weight (l : Link) : Nat := l.near.inbox.length + l.far.inbox.length
  have member : weight host.links[s.connection] ∈ host.links.map weight := List.mem_map_of_mem (List.getElem_mem inRange)
  have bound : weight host.links[s.connection] ≤ host.inFlight := le_total member
  refine Nat.le_trans ?_ bound
  unfold endpoint link
  rw [List.getD_eq_getElem?_getD, List.getElem?_eq_getElem inRange, Option.getD_some]
  split
  · exact Nat.le_add_left _ _
  · exact Nat.le_add_right _ _

end Host

namespace Endpoint

/-- How calls to read end once all that came was read. -/
def ending (e : Endpoint) : ReadOutcome := if e.isEnded then .received [] else .waiting

/-- The end with so much left to read, and all else as it was. -/
def Left (origin : Endpoint) (content : Bytes) (e : Endpoint) : Prop :=
  ∃ turns, (∀ turn ∈ turns, ReadTurn.IsBenign turn) ∧ e = { origin with inbox := content, readTurns := turns }

theorem read_conserves (limit : Nat) (e : Endpoint) :
    (e.read limit).1.content ++ (e.read limit).2.inbox = e.inbox ∧ (e.read limit).2.isEnded = e.isEnded := by
  unfold read
  split
  · exact ⟨rfl, rfl⟩
  · split
    · split
      · exact ⟨rfl, rfl⟩
      · split
        · exact ⟨rfl, rfl⟩
        · exact ⟨rfl, rfl⟩
    · exact ⟨List.take_append_drop .., rfl⟩

theorem allowance_pos {limit : Nat} (asked : 0 < limit) (turns : List ReadTurn) : 0 < allowance limit turns := by
  unfold allowance
  split
  · omega
  · exact asked

theorem conveyor {origin : Endpoint} (unreset : origin.isReset = false) :
    Conveyor Endpoint origin.ending origin.Left where
  quiet := by
    unfold ending
    split
    · rfl
    · rfl
  read := by
    rintro limit content e asked ⟨turns, benign, rfl⟩
    show origin.ending.Conveys origin.Left content (Endpoint.read limit { origin with inbox := content, readTurns := turns })
    unfold Endpoint.read
    split
    · rename_i error rest front
      cases front
      have again : (ReadTurn.fails error).IsBenign := benign _ (by simp)
      exact .interruption again ⟨rest, fun turn member => benign turn (by simp [member]), rfl⟩
    · have stays : origin.Left content { origin with inbox := content, readTurns := turns } := ⟨turns, benign, rfl⟩
      cases content with
      | nil =>
        rw [if_pos List.isEmpty_nil, if_neg (by simp [unreset])]
        unfold ending
        split
        · exact .ending rfl stays
        · exact .ending rfl stays
      | cons first rest =>
        have count := allowance_pos asked turns
        refine .chunk ?_ (List.take_append_drop _ (first :: rest)).symm
          ⟨turns.tail, fun turn member => benign turn (List.mem_of_mem_tail member), rfl⟩
        intro nothing
        rcases List.take_eq_nil_iff.mp nothing with zero | empty
        · exact absurd zero (Nat.ne_of_gt count)
        · cases empty

end Endpoint

/-- The link after the near end wrote, with these turns left. -/
def Link.written (l : Link) (turns : List WriteTurn) (content : Bytes) : Link :=
  { near := { l.near with writeTurns := turns }, far := { l.far with inbox := l.far.inbox ++ content } }

theorem Link.Steady.written {l : Link} (steady : l.Steady) {turns : List WriteTurn}
    (benign : ∀ turn ∈ turns, turn.IsBenign) (content : Bytes) : (l.written turns content).Steady :=
  ⟨steady.unreset, steady.reads, benign, steady.taken⟩

theorem Link.write_cases (l : Link) (content : Bytes) :
    (∃ error rest, l.near.writeTurns = .fails error :: rest ∧ l.write content = (.failed error, l.written rest [])) ∨
    (l.far.isEnded = true ∧ l.write content = (.failed .brokenPipe, l)) ∨
    ∃ moved rest, content = moved ++ rest ∧ l.far.isEnded = false ∧
      l.write content = (.accepted moved.length, l.written l.near.writeTurns.tail moved) ∧
      (content ≠ [] → (∀ turn ∈ l.near.writeTurns, turn.IsBenign) → moved ≠ []) := by
  unfold Link.write
  split
  · rename_i error rest front
    exact .inl ⟨error, rest, front, by simp [Link.written]⟩
  · split
    · rename_i ended
      exact .inr (.inl ⟨ended, rfl⟩)
    · rename_i ended
      right
      right
      unfold Link.portion
      split
      · rename_i count rest front
        refine ⟨content.take count, content.drop count, (List.take_append_drop ..).symm,
          eq_false_of_ne_true ended, rfl, ?_⟩
        intro some benign nothing
        have positive : (WriteTurn.upTo count).IsBenign := benign _ (by simp [front])
        rcases List.take_eq_nil_iff.mp nothing with zero | empty
        · exact absurd zero (Nat.ne_of_gt positive)
        · exact some empty
      · exact ⟨content, [], (List.append_nil _).symm, eq_false_of_ne_true ended, rfl, fun some _ => some⟩

/-- Where nothing but interruptions goes wrong, a call to write is interrupted or moves a byte at least. -/
theorem Link.Steady.write {l : Link} (steady : l.Steady) {content : Bytes} (some : content ≠ []) :
    (∃ error rest, l.near.writeTurns = .fails error :: rest ∧ error.isInterruption = true ∧
      l.write content = (.failed error, l.written rest [])) ∨
    ∃ moved rest, moved ≠ [] ∧ content = moved ++ rest ∧
      l.write content = (.accepted moved.length, l.written l.near.writeTurns.tail moved) := by
  rcases l.write_cases content with ⟨error, rest, front, failed⟩ | ⟨ended, _⟩ | ⟨moved, rest, split, _, accepted, more⟩
  · have again : (WriteTurn.fails error).IsBenign := steady.writes _ (by simp [front])
    exact .inl ⟨error, rest, front, again, failed⟩
  · rw [steady.taken] at ended
    cases ended
  · exact .inr ⟨moved, rest, more some steady.writes, split, accepted⟩

namespace FrameWriter

/-- The induction is on the calls; each one either uses up a turn or moves a byte at least. -/
theorem push_steady (calls : Nat) (content : Bytes) {l : Link} (steady : l.Steady)
    (enough : l.near.writeTurns.length + content.length ≤ calls) :
    ∃ turns, (∀ turn ∈ turns, WriteTurn.IsBenign turn) ∧ push calls content l = (.ok (), l.written turns content) := by
  induction calls generalizing content l with
  | zero =>
    obtain rfl : content = [] := List.length_eq_zero_iff.mp (by omega)
    exact ⟨l.near.writeTurns, steady.writes, by simp [push, Link.written]⟩
  | succ calls ih =>
    cases content with
    | nil => exact ⟨l.near.writeTurns, steady.writes, by simp [push, Link.written]⟩
    | cons first others =>
      have some : first :: others ≠ [] := List.cons_ne_nil first others
      -- An interrupted turn is used up; any other takes a byte at least.
      rcases steady.write some with ⟨error, rest, front, again, failed⟩ | ⟨moved, rest, some, split, accepted⟩
      · have benign : ∀ turn ∈ rest, turn.IsBenign := fun turn member => steady.writes turn (by simp [front, member])
        obtain ⟨turns, kept, pushed⟩ := ih (first :: others) (steady.written benign []) (by
          simp only [front, List.length_cons, Link.written] at enough ⊢
          omega)
        refine ⟨turns, kept, ?_⟩
        have write : ByteSink.write (first :: others) l = (.failed error, l.written rest []) := failed
        simp only [push, write, again, if_true, pushed]
        simp [Link.written]
      · have benign : ∀ turn ∈ l.near.writeTurns.tail, turn.IsBenign :=
          fun turn member => steady.writes turn (List.mem_of_mem_tail member)
        have shorter := List.length_pos_iff.mpr some
        have length := congrArg List.length split
        obtain ⟨turns, kept, pushed⟩ := ih rest (steady.written benign moved) (by
          simp only [List.length_append, Link.written, List.length_tail] at length ⊢
          omega)
        refine ⟨turns, kept, ?_⟩
        obtain ⟨count, size⟩ : ∃ count, moved.length = count + 1 := ⟨moved.length - 1, by omega⟩
        have write : ByteSink.write (first :: others) l =
            (.accepted (count + 1), l.written l.near.writeTurns.tail moved) := by
          rw [← size]
          exact accepted
        have remains : (first :: others).drop (count + 1) = rest := by rw [split, ← size, List.drop_left]
        simp only [push, write, remains, pushed]
        simp [Link.written, split]

theorem send_refused (writer : FrameWriter) {σ : Type} [ByteSink σ] (sink : σ) {m : Message} {error : ChannelError}
    (refused : encodeMessage writer.config.maxSize m [] = .error error) :
    writer.send m.bytes sink = (.error error, sink) := by
  unfold encodeMessage Message.length at refused
  unfold send
  split at refused
  · rw [if_pos ‹_›]
    cases refused
    rfl
  · rw [if_neg ‹_›]
    cases encoded : encodeFrame m.bytes with
    | error other =>
      rw [encoded] at refused
      cases refused
      rfl
    | ok frame =>
      rw [encoded] at refused
      cases refused

/-- A message that a frame can hold goes out as that frame. -/
theorem send_steady (writer : FrameWriter) {l : Link} (steady : l.Steady) {m : Message} {frame : Bytes}
    (fits : encodeMessage writer.config.maxSize m [] = .ok frame) :
    ∃ turns, (∀ turn ∈ turns, WriteTurn.IsBenign turn) ∧
      writer.send m.bytes l = (.ok (), l.written turns (frameOf m.bytes)) := by
  obtain ⟨turns, benign, pushed⟩ :=
    push_steady (l.near.writeTurns.length + (frameOf m.bytes).length) (frameOf m.bytes) steady (Nat.le_refl _)
  refine ⟨turns, benign, ?_⟩
  unfold encodeMessage Message.length at fits
  split at fits
  · cases fits
  · unfold encodeFrame at fits
    split at fits
    · have pushed' : push (ByteSink.weight l + (frameOf m.bytes).length) (frameOf m.bytes) l = _ := pushed
      rw [send, if_neg ‹_›, encodeFrame, if_pos ‹_›]
      simp only [pushed', flush]
      rw [settle]
      rfl
    · cases fits

end FrameWriter
end CallWire
