import CallWire.Cli.Program
import CallWire.Proofs.ReceptionProgress

/-! Sessions of one server are isolated from each other. What a peer receives is decided by its own bytes, whatever came
before it and however that ended; and under a fair schedule every peer is served. -/

namespace CallWire
namespace Reception
open Visitor (ServedInTurn)
variable {once : Bool} {streams : List Bytes} {x : Reception} {schedule : ℕ → Move}

/-- After so many moves of the schedule. -/
def after (x : Reception) (schedule : ℕ → Move) : ℕ → Reception
  | 0 => x
  | now + 1 => (x.after schedule now).move (schedule now)

/-- Everybody moves again and again. -/
def IsFair (schedule : ℕ → Move) : Prop := ∀ turn now, ∃ later, now ≤ later ∧ (schedule later).turn = some turn

/-- The bytes that have come for a peer and that it has yet to read. -/
def unread (x : Reception) (who : Nat) : Nat := x.visitors[who]?.elim 0 fun v => (v.endpoint x.host).inbox.length

section
variable (sound : x.Sound once streams)
include sound

theorem Sound.after (schedule : ℕ → Move) (now : ℕ) : (x.after schedule now).Sound once streams := by
  induction now with
  | zero => exact sound
  | succ now ih => exact ih.move (schedule now)

theorem Nears.move {rank : ℕ ×ₗ ℕ ×ₗ ℕ} {turn : Turn} (nears : x.Nears rank turn) (m : Move) :
    (x.move m).Nears rank turn ∧ (m.turn = some turn → (x.move m).Passes rank) := by
  obtain passes | ⟨stage, work, pending, rfl⟩ := nears
  · have passes := passes.trans (fun settled => settled.move sound m) fun pending => pending.move sound m
    exact ⟨.inl passes, fun _ => passes⟩
  · exact ⟨pending.move sound m, fun own => pending.move_own sound own⟩

/-- Whoever has to move does so in the end. -/
theorem Sound.passes_after (fair : IsFair schedule) {rank : ℕ ×ₗ ℕ ×ₗ ℕ} {turn : Turn} {now : ℕ}
    (nears : (x.after schedule now).Nears rank turn) : ∃ later, now ≤ later ∧ (x.after schedule later).Passes rank := by
  obtain ⟨due, late, own⟩ := fair turn now
  have still (count : ℕ) : (x.after schedule (now + count)).Nears rank turn := by
    induction count with
    | zero => exact nears
    | succ count ih => exact (ih.move (sound.after schedule _) _).1
  obtain ⟨count, rfl⟩ := Nat.exists_eq_add_of_le late
  exact ⟨now + count + 1, by omega, ((still count).move (sound.after schedule _) _).2 own⟩

/-- The induction is on what is still to be done. -/
theorem Sound.settles (fair : IsFair schedule) : ∃ now, (x.after schedule now).Settled := by
  have reached (rank : ℕ ×ₗ ℕ ×ₗ ℕ) : ∀ now, (x.after schedule now).Passes rank → ∃ now, (x.after schedule now).Settled := by
    induction rank using WellFoundedLT.induction with
    | ind rank ih =>
      rintro now (settled | ⟨stage, work, turn, pending, less⟩)
      · exact ⟨now, settled⟩
      · obtain ⟨later, -, passes⟩ := sound.passes_after fair (.inr ⟨stage, work, pending, rfl⟩)
        exact ih _ less later passes
  obtain settled | ⟨stage, work, turn, pending⟩ := sound.outlook
  · exact ⟨0, settled⟩
  · obtain ⟨now, -, passes⟩ := @Sound.passes_after once streams x schedule sound fair _ turn 0 (.inr ⟨stage, work, pending, rfl⟩)
    exact reached _ now passes

theorem ByPeer.unread_le {y : Reception} {who : Nat} {v w : Visitor} (own : x.ByPeer who v w y) (other : Nat) :
    y.unread other ≤ x.unread other := by
  have spares := own.spares
  have fewer := own.unread
  have found := own.found
  have inside := (List.getElem?_eq_some_iff.mp found).1
  obtain ⟨link, rfl⟩ := own.moved
  unfold Reception.unread
  dsimp only
  rw [List.getElem?_set]
  split
  · rename_i same
    subst same
    rw [found]
    exact fewer
  · rename_i different
    cases present : x.visitors[other]? with
    | none => exact Nat.le_refl _
    | some u =>
      have same := spares.others u.socket.peer (Visitor.connection_ne sound.apart found present different)
      exact Nat.le_of_eq (congrArg (fun e => e.inbox.length) same)

theorem Sound.unread_receive (settled : x.Settled) (who count : Nat) :
    (x.move (.receive who count)).unread who = 0 ∨ (x.move (.receive who count)).unread who < x.unread who := by
  simp only [Reception.move]
  cases found : x.visitors[who]? with
  | none =>
    left
    simp [Reception.act, unread, found]
  | some v =>
    obtain ⟨inside, -⟩ := List.getElem?_eq_some_iff.mp found
    have inRange : v.socket.connection < x.host.links.length :=
      sound.inRange _ (List.mem_map_of_mem (List.mem_of_getElem? found))
    obtain ⟨-, served, -⟩ := sound.idle settled.dismissed
    have took := @Encounter.receive_inbox _ echoHandler v.socket (v.encounter x.server x.host) inRange
      (served who v found).undisturbed.1 (count + 1)
    have here : (x.act who (.receive (count + 1))).unread who = ((v.endpoint x.host).inbox.drop (count + 1)).length := by
      simp only [Reception.act, found, unread, List.getElem?_set_self inside, Option.elim_some]
      exact congrArg List.length took
    have before : x.unread who = (v.endpoint x.host).inbox.length := by rw [unread, found, Option.elim_some]
    rw [here, before, List.length_drop]
    omega

/-- In the end there is nothing to do but to read what has come. -/
theorem Settled.unread_le (settled : x.Settled) (m : Move) (who : Nat) : (x.move m).unread who ≤ x.unread who := by
  obtain same | ⟨_, _, _, own⟩ := settled.changes sound m
  · rw [same]
  · exact own.unread_le sound who

theorem Settled.stays {now later : ℕ} (settled : (x.after schedule now).Settled) (late : now ≤ later) :
    (x.after schedule later).Settled ∧ ∀ who, (x.after schedule later).unread who ≤ (x.after schedule now).unread who := by
  induction later, late using Nat.le_induction with
  | base => exact ⟨settled, fun who => Nat.le_refl _⟩
  | succ later late ih =>
    have between := sound.after schedule later
    obtain ⟨settled, least⟩ := ih
    exact ⟨settled.move between _, fun who => Nat.le_trans (settled.unread_le between _ who) (least who)⟩

/-- Whoever reads again and again has read everything in the end. -/
theorem Sound.drains (fair : IsFair schedule) {now : ℕ} (settled : (x.after schedule now).Settled) (who : Nat) :
    ∃ drained, now ≤ drained ∧ (x.after schedule drained).unread who = 0 := by
  obtain ⟨bound, few⟩ : ∃ bound, (x.after schedule now).unread who ≤ bound := ⟨_, Nat.le_refl _⟩
  induction bound generalizing now with
  | zero => exact ⟨now, Nat.le_refl _, Nat.le_zero.mp few⟩
  | succ bound ih =>
    obtain ⟨due, late, own⟩ := fair (.receive who) now
    obtain ⟨count, move⟩ : ∃ count, schedule due = .receive who count := by
      cases moved : schedule due with
      | receive other count =>
        simp only [moved, Move.turn, Option.some.injEq, Turn.receive.injEq] at own
        exact ⟨count, own ▸ rfl⟩
      | serve | run | connect | send | finish | leave => simp [moved, Move.turn] at own
    obtain ⟨settled, least⟩ := settled.stays sound late
    have least := least who
    have read := (sound.after schedule due).unread_receive settled who count
    have next : x.after schedule (due + 1) = (x.after schedule due).move (.receive who count) := by rw [← move]; rfl
    rw [← next] at read
    have settled : (x.after schedule (due + 1)).Settled := next ▸ settled.move (sound.after schedule due) _
    obtain ⟨drained, later, none⟩ := ih settled (by omega)
    exact ⟨drained, by omega, none⟩

/-- After some time nobody has anything left to do. -/
theorem Sound.finishes (fair : IsFair schedule) (count : Nat) :
    ∃ now, ∀ later, now ≤ later → (x.after schedule later).Settled ∧ ∀ who < count, (x.after schedule later).unread who = 0 := by
  induction count with
  | zero =>
    obtain ⟨now, settled⟩ := sound.settles fair
    exact ⟨now, fun later late => ⟨(settled.stays sound late).1, nofun⟩⟩
  | succ count ih =>
    obtain ⟨now, before⟩ := ih
    obtain ⟨settled, -⟩ := before now (Nat.le_refl _)
    obtain ⟨drained, late, none⟩ := sound.drains fair settled count
    refine ⟨drained, fun later after => ⟨(before later (by omega)).1, fun who inside => ?_⟩⟩
    obtain earlier | rfl := Nat.lt_succ_iff_lt_or_eq.mp inside
    · exact (before later (by omega)).2 who earlier
    · have least := ((before drained late).1.stays sound after).2 who
      omega

/-- At any time a peer has received the first of what is meant for it, and all of that when its session is over. -/
theorem Sound.received {who : Nat} {v : Visitor} (found : x.visitors[who]? = some v) :
    streams[who]? = some v.stream ∧
      v.received ++ (v.endpoint x.host).inbox <+: echoesFor once who v.stream ∧
      (v.isDismissed x.host → v.received ++ (v.endpoint x.host).inbox = echoesFor once who v.stream) := by
  refine ⟨?_, ?_⟩
  · obtain ⟨inside, rfl⟩ := List.getElem?_eq_some_iff.mp found
    rw [← sound.split, List.getElem?_append_left (by simpa using inside), List.getElem?_map, found]
    rfl
  -- Whoever was served before has all that was meant for it, so only the last visitor needs a look.
  · have whole {former : List Visitor} (served : ServedInTurn once x.host former) (earlier : former[who]? = some v) :
        v.received ++ (v.endpoint x.host).inbox <+: echoesFor once who v.stream ∧
          (v.isDismissed x.host → v.received ++ (v.endpoint x.host).inbox = echoesFor once who v.stream) := by
      have answered := (served who v earlier).answered
      exact ⟨answered ▸ List.prefix_rfl, fun _ => answered⟩
    cases sound.stance with
    | idle _ served => exact whole served found
    | @queued former last l all served _ _ queued =>
      rw [all] at found
      obtain earlier | ⟨-, rfl⟩ := Visitor.former_or_last found
      · exact whole served earlier
      · refine ⟨?_, fun dismissed => ?_⟩
        · rw [queued.nothing]
          exact List.nil_prefix
        · cases queued.present.symm.trans dismissed
    | @engaged former last all served engaged first =>
      rw [all] at found
      obtain earlier | ⟨rfl, rfl⟩ := Visitor.former_or_last found
      · exact whole served earlier
      · refine ⟨?_, fun dismissed => ?_⟩
        · rw [echoesFor_first v.stream fun once => by rw [first once]; rfl]
          obtain ⟨-, channel, l, asked, tended⟩ := engaged
          exact tended.echoes
        · cases engaged.present.symm.trans dismissed

/-- How a server ends that serves once. -/
theorem Sound.ending {result : Except Failure Unit} (ended : x.server.ended = some result) :
    once = true ∧ ∃ stream, streams.head? = some stream ∧
      x.server.session.phase = .finished (sessionResult defaultMaxFrameSize stream) ∧
      result = servedOnce (sessionResult defaultMaxFrameSize stream) := by
  obtain ⟨idle, -⟩ := sound.idle (sound.settled_of_ended (by simp [ended])).dismissed
  have only : once = true := by
    by_contra again
    simp [sound.lasting (by simpa using again)] at ended
  cases idle with
  | fresh _ listens | parted _ listens => simp [listens.going] at ended
  | failed _ failed => simp [failed.going] at ended
  | ended phase ended' =>
    obtain ⟨stream, first, rfl⟩ := sound.verdict only _ phase
    rw [ended] at ended'
    exact ⟨only, stream, first, phase, Option.some.inj ended'⟩

end

/-- Everybody has been served who is to be, and has read the answer. -/
structure Complete (once : Bool) (streams : List Bytes) (x : Reception) : Prop where
  received : ∀ who v, x.visitors[who]? = some v → v.received = echoesFor once who v.stream
  everybody : once = false → x.visitors.map Visitor.stream = streams
  first : once = true → ∀ stream, streams.head? = some stream →
    (x.visitors.map Visitor.stream).head? = some stream ∧
      x.server.ended = some (servedOnce (sessionResult defaultMaxFrameSize stream))

/-- Where everybody is served, each has the echoes of what it sent. -/
theorem Complete.answers (complete : x.Complete false streams) :
    x.visitors.map (fun v => (v.stream, v.received)) = streams.map fun stream => (stream, echoesOf defaultMaxFrameSize stream) := by
  rw [← complete.everybody rfl, List.map_map]
  refine List.map_congr_left fun v member => ?_
  obtain ⟨who, found⟩ := List.getElem?_of_mem member
  exact congrArg (Prod.mk v.stream) (complete.received who v found)

theorem Sound.completes (sound : x.Sound once streams) (settled : x.Settled)
    (read : ∀ who < streams.length, x.unread who = 0) : x.Complete once streams := by
  obtain ⟨idle, served, fresh⟩ := sound.idle settled.dismissed
  have parts := congrArg List.length sound.split
  rw [List.length_append, List.length_map] at parts
  refine ⟨fun who v found => ?_, fun again => ?_, fun only stream first => ?_⟩
  · obtain ⟨inside, -⟩ := List.getElem?_eq_some_iff.mp found
    have nothing := read who (by omega)
    rw [unread, found, Option.elim_some, List.length_eq_zero_iff] at nothing
    have answered := (served who v found).answered
    rwa [nothing, List.append_nil] at answered
  · obtain ended | ⟨-, none⟩ := settled.nobody
    · simp [sound.lasting again] at ended
    · rw [← sound.split, none, List.append_nil]
  · have some : x.visitors ≠ [] := by
      intro none
      obtain ended | ⟨-, nobody⟩ := settled.nobody
      · obtain ⟨result, ended⟩ := Option.isSome_iff_exists.mp ended
        obtain ⟨-, _, -, phase, -⟩ := sound.ending ended
        cases phase.symm.trans ((fresh only).mpr none)
      · simp [← sound.split, none, nobody] at first
    obtain ended | ⟨arriving, -⟩ := settled.nobody
    · obtain ⟨result, ended⟩ := Option.isSome_iff_exists.mp ended
      obtain ⟨-, stream', first', -, rfl⟩ := sound.ending ended
      cases first.symm.trans first'
      refine ⟨?_, ended⟩
      rw [← first, ← sound.split, List.head?_append_of_ne_nil _ (by simpa using some)]
    · exact absurd ((fresh only).mp arriving) some

end Reception

end CallWire
