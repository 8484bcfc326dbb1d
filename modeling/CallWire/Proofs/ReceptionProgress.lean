import CallWire.Proofs.ReceptionSteps

/-! Every peer is served in the end. Each move leaves what is still to be done as it is or brings it nearer to the end, and
there always is someone whose next move does the latter: the server, a peer that has bytes to send, or one that is to come. -/

namespace CallWire
namespace Reception
open Visitor (ServedInTurn)

/-- Who is to move. -/
inductive Turn
  | serve
  | connect
  | send (who : Nat)
  | finish (who : Nat)
  | receive (who : Nat)

def Move.turn : Move → Option Turn
  | .serve | .run => some .serve
  | .connect => some .connect
  | .send who _ => some (.send who)
  | .finish who => some (.finish who)
  | .receive who _ => some (.receive who)
  | .leave _ => none

/-- Everybody who came was dismissed, and nobody else is going to be served. -/
structure Settled (x : Reception) : Prop where
  dismissed : x.visitors.all (·.isDismissed x.host)
  nobody : x.server.ended.isSome ∨ x.server.session.phase = .arriving ∧ x.coming = []

/-- The number of peers that are still to come. -/
def left (x : Reception) : Nat := if x.server.ended.isSome then 0 else x.coming.length

/-- What a peer does next that has not ended its stream. -/
def nextOf (v : Visitor) (who : Nat) : Turn := if v.unsent.isEmpty then .finish who else .send who

theorem nextOf_cases (v : Visitor) (who : Nat) :
    nextOf v who = .send who ∧ v.unsent ≠ [] ∨ nextOf v who = .finish who ∧ v.unsent = [] := by
  unfold nextOf
  split
  · exact .inr ⟨rfl, List.isEmpty_iff.mp ‹_›⟩
  · exact .inl ⟨rfl, mt List.isEmpty_iff.mpr ‹_›⟩

/-- Whose turn it is has something left to send, or its stream to end. -/
theorem action_of_nextOf {v : Visitor} {place who : Nat} {m : CallWire.Move}
    (own : (∃ count, m = .send (count + 1)) ∧ nextOf v place = .send who ∨ m = .finish ∧ nextOf v place = .finish who) :
    who = place ∧ ((∃ count, m = .send (count + 1)) ∧ v.unsent ≠ [] ∨ m = .finish ∧ v.unsent = []) := by
  obtain ⟨next, some⟩ | ⟨next, none⟩ := nextOf_cases v place
  · rw [next] at own
    obtain ⟨sends, same⟩ | ⟨-, same⟩ := own
    · cases same
      exact ⟨rfl, .inl ⟨sends, some⟩⟩
    · cases same
  · rw [next] at own
    obtain ⟨-, same⟩ | ⟨ends, same⟩ := own
    · cases same
    · cases same
      exact ⟨rfl, .inr ⟨ends, none⟩⟩

/-- What has to be done next, and a bound on how much there is of its kind. -/
inductive Pending (x : Reception) : Nat → Nat → Turn → Prop
  | waiting {former : List Visitor} {v : Visitor} {l : ListenerId} (all : x.visitors = former ++ [v])
      (queued : v.Queued x.host) (phase : x.server.session.phase = .finished (.ok ()))
      (listens : x.server.Listens x.host l [v.socket]) : Pending x 3 0 .serve
  | sending {former : List Visitor} {v : Visitor} (all : x.visitors = former ++ [v]) (engaged : v.Engaged x.server x.host)
      (more : ¬ v.IsEnding x.server x.host) : Pending x 2 v.unsent.length (nextOf v former.length)
  | serving {former : List Visitor} {v : Visitor} (all : x.visitors = former ++ [v]) (engaged : v.Engaged x.server x.host)
      (ending : v.IsEnding x.server x.host) : Pending x 1 (v.distance x.server x.host) .serve
  | turning {result} (dismissed : x.visitors.all (·.isDismissed x.host)) (idle : x.server.Idle x.host)
      (going : x.server.ended = none) (phase : x.server.session.phase = .finished result) : Pending x 0 1 .serve
  | inviting (dismissed : x.visitors.all (·.isDismissed x.host)) (idle : x.server.Idle x.host)
      (phase : x.server.session.phase = .arriving) (some : x.coming ≠ []) : Pending x 0 0 .connect

def rank (x : Reception) (stage work : Nat) : ℕ ×ₗ ℕ ×ₗ ℕ := toLex (x.left, toLex (stage, work))

/-- Less is to be done than this. -/
def Passes (x : Reception) (rank : ℕ ×ₗ ℕ ×ₗ ℕ) : Prop :=
  x.Settled ∨ ∃ stage work turn, x.Pending stage work turn ∧ x.rank stage work < rank

/-- Less is to be done than this, or the same by the same turn. -/
def Nears (x : Reception) (rank : ℕ ×ₗ ℕ ×ₗ ℕ) (turn : Turn) : Prop :=
  x.Passes rank ∨ ∃ stage work, x.Pending stage work turn ∧ x.rank stage work = rank

variable {once : Bool} {streams : List Bytes} {x y : Reception} {stage work : Nat} {turn : Turn}

section
variable {left : Nat}

theorem rank_lt_of_left (less : y.left < left) (rest : ℕ ×ₗ ℕ) : y.rank stage work < toLex (left, rest) :=
  Prod.Lex.toLex_lt_toLex.mpr (.inl less)

theorem rank_lt_of_stage {stage' work' : Nat} (least : y.left ≤ left) (earlier : stage < stage') :
    y.rank stage work < toLex (left, toLex (stage', work')) := by
  obtain less | same := Nat.lt_or_eq_of_le least
  · exact rank_lt_of_left less _
  · exact Prod.Lex.toLex_lt_toLex.mpr (.inr ⟨same, Prod.Lex.toLex_lt_toLex.mpr (.inl earlier)⟩)

theorem rank_lt_of_work {work' : Nat} (least : y.left ≤ left) (less : work < work') :
    y.rank stage work < toLex (left, toLex (stage, work')) := by
  obtain lower | same := Nat.lt_or_eq_of_le least
  · exact rank_lt_of_left lower _
  · exact Prod.Lex.toLex_lt_toLex.mpr (.inr ⟨same, Prod.Lex.toLex_lt_toLex.mpr (.inr ⟨rfl, less⟩)⟩)

end

theorem left_le (y : Reception) : y.left ≤ y.coming.length := by
  unfold left
  split
  · exact Nat.zero_le _
  · exact Nat.le_refl _

theorem left_of_going (going : x.server.ended = none) : x.left = x.coming.length := by
  simp [left, going]

theorem Pending.going (pending : x.Pending stage work turn) : x.server.ended = none := by
  cases pending with
  | waiting _ _ _ listens => exact listens.going
  | sending _ engaged | serving _ engaged =>
    obtain ⟨-, channel, l, asked, tended⟩ := engaged
    exact tended.going
  | turning _ _ going => exact going
  | inviting _ idle phase =>
    cases idle with
    | fresh _ listens | parted _ listens => exact listens.going
    | failed _ failed => exact failed.going
    | ended other => cases phase.symm.trans other

theorem pending_of_engaged {former : List Visitor} {v : Visitor} (all : x.visitors = former ++ [v])
    (engaged : v.Engaged x.server x.host) : ∃ stage work turn, x.Pending stage work turn ∧ stage < 3 := by
  by_cases ending : v.IsEnding x.server x.host
  · exact ⟨1, _, _, .serving all engaged ending, by decide⟩
  · exact ⟨2, _, _, .sending all engaged ending, by decide⟩

theorem settled_or_pending (dismissed : x.visitors.all (·.isDismissed x.host)) (idle : x.server.Idle x.host) :
    x.Settled ∨ ∃ work turn, x.Pending 0 work turn ∧ (x.server.session.phase = .arriving → work = 0) := by
  by_cases ended : x.server.ended.isSome
  · exact .inl ⟨dismissed, .inl ended⟩
  · have going : x.server.ended = none := by simpa using ended
    by_cases phase : x.server.session.phase = .arriving
    · by_cases none : x.coming = []
      · exact .inl ⟨dismissed, .inr ⟨phase, none⟩⟩
      · exact .inr ⟨0, _, .inviting dismissed idle phase none, fun _ => rfl⟩
    · have finished : ∃ result, x.server.session.phase = .finished result := by
        cases idle with
        | fresh phase' => exact absurd phase' phase
        | parted phase | failed phase | ended phase => exact ⟨_, phase⟩
      obtain ⟨result, finished⟩ := finished
      exact .inr ⟨1, _, .turning dismissed idle going finished, fun arriving => absurd arriving phase⟩

/-- There is nothing more to do, or someone has to do it. -/
theorem Sound.outlook (sound : x.Sound once streams) : x.Settled ∨ ∃ stage work turn, x.Pending stage work turn := by
  cases sound.stance with
  | idle idle served =>
    obtain settled | ⟨work, turn, pending, -⟩ := settled_or_pending served.dismissed idle
    · exact .inl settled
    · exact .inr ⟨0, work, turn, pending⟩
  | queued all _ phase listens queued => exact .inr ⟨3, 0, _, .waiting all queued phase listens⟩
  | engaged all _ engaged =>
    obtain ⟨stage, work, turn, pending, -⟩ := pending_of_engaged all engaged
    exact .inr ⟨stage, work, turn, pending⟩

/-- When the peer that came last is dismissed, nobody is being served. -/
theorem Sound.idle_of_last (sound : x.Sound once streams) {former : List Visitor} {v : Visitor}
    (all : x.visitors = former ++ [v]) (gone : v.isDismissed x.host) : x.server.Idle x.host ∧ x.visitors.all (·.isDismissed x.host) := by
  have last {former' : List Visitor} {v' : Visitor} (all' : x.visitors = former' ++ [v']) : v'.isDismissed x.host = true := by
    obtain ⟨-, same⟩ := List.append_inj' (all.symm.trans all') rfl
    cases same
    exact gone
  cases sound.stance with
  | idle idle served => exact ⟨idle, served.dismissed⟩
  | queued all _ _ _ queued => cases queued.present.symm.trans (last all)
  | engaged all _ engaged => cases engaged.present.symm.trans (last all)

theorem Sound.passes_of_left (sound : y.Sound once streams) {left : Nat} (less : y.left < left) (rest : ℕ ×ₗ ℕ) :
    y.Passes (toLex (left, rest)) := by
  obtain settled | ⟨stage, work, turn, pending⟩ := sound.outlook
  · exact .inl settled
  · exact .inr ⟨stage, work, turn, pending, rank_lt_of_left less rest⟩

/-- A server that has ended has nobody left. -/
theorem Sound.settled_of_ended (sound : x.Sound once streams) (ended : x.server.ended.isSome) : x.Settled := by
  obtain settled | ⟨stage, work, turn, pending⟩ := sound.outlook
  · exact settled
  · simp [pending.going] at ended

/-- Nobody being served, the next peer is invited or all is settled, unless a session has just ended. -/
theorem passes_of_idle {stage' work' : Nat} {left : Nat} (dismissed : y.visitors.all (·.isDismissed y.host))
    (idle : y.server.Idle y.host) (least : y.left ≤ left)
    (less : 0 < stage' ∨ 0 < work' ∧ y.server.session.phase = .arriving ∧ stage' = 0) :
    y.Passes (toLex (left, toLex (stage', work'))) := by
  obtain settled | ⟨work, turn, pending, none⟩ := settled_or_pending dismissed idle
  · exact .inl settled
  · obtain earlier | ⟨positive, phase, rfl⟩ := less
    · exact .inr ⟨0, work, turn, pending, rank_lt_of_stage least earlier⟩
    · rw [none phase] at pending
      exact .inr ⟨0, 0, turn, pending, rank_lt_of_work least positive⟩

theorem Passes.trans {z : Reception} {r : ℕ ×ₗ ℕ ×ₗ ℕ} (passes : y.Passes r) (settled : y.Settled → z.Settled)
    (next : ∀ {stage work turn}, y.Pending stage work turn → z.Nears (y.rank stage work) turn) : z.Passes r := by
  obtain done | ⟨stage, work, turn, pending, less⟩ := passes
  · exact .inl (settled done)
  · obtain (done | ⟨stage, work, turn, pending, lesser⟩) | ⟨stage, work, pending, same⟩ := next pending
    · exact .inl done
    · exact .inr ⟨stage, work, turn, pending, lt_trans lesser less⟩
    · exact .inr ⟨stage, work, turn, pending, same ▸ less⟩

section
variable (sound : x.Sound once streams)
include sound

/-- A step of the server while a peer is served. -/
theorem Sound.serve_engaged {former : List Visitor} {v : Visitor} (all : x.visitors = former ++ [v])
    (engaged : v.Engaged x.server x.host) {y : Reception} (moved : x.move .serve = y) :
    y.visitors = former ++ [v] ∧ y.left ≤ x.left ∧
      (y.server.Idle y.host ∧ y.visitors.all (·.isDismissed y.host) ∨
        v.Engaged y.server y.host ∧ y.left = x.left ∧
          (v.IsEnding x.server x.host → v.IsEnding y.server y.host ∧
            v.distance y.server y.host < v.distance x.server x.host)) := by
  subst moved
  have later := sound.serve
  obtain ⟨unfinished, channel, l, asked, tended⟩ := engaged
  obtain ⟨⟨asked', tended'⟩, -⟩ := tended.step unfinished
  have left : (x.move .serve).left = x.left := by
    rw [left_of_going tended.going, left_of_going tended'.going]
    rfl
  refine ⟨all, Nat.le_of_eq left, ?_⟩
  by_cases atEnd : ∃ result, (x.server.step x.host).1.session.phase = .finished result
  · obtain ⟨result, phase⟩ := atEnd
    exact .inl (later.idle_of_last all (tended'.settled phase).2.1.dismissed)
  · refine .inr ⟨⟨fun result phase => atEnd ⟨result, phase⟩, channel, l, asked', tended'⟩, left, ?_⟩
    exact tended.step_ending unfinished

/-- A server with a peer in its backlog goes on to serve that one, or ends if it has had its only one. -/
theorem Sound.serve_waiting {former : List Visitor} {v : Visitor} {l : ListenerId} (all : x.visitors = former ++ [v])
    (queued : v.Queued x.host) (phase : x.server.session.phase = .finished (.ok ()))
    (listens : x.server.Listens x.host l [v.socket]) : (x.move .serve).Passes (x.rank 3 0) := by
  have later := sound.serve
  have own : x.move .serve = { x with server := (x.server.step x.host).1, host := (x.server.step x.host).2 } := rfl
  cases kept : x.server.once with
  | false =>
    obtain ⟨again, listens'⟩ := listens.step_again phase kept
    rw [again] at own
    have engaged : v.Engaged (x.move .serve).server (x.move .serve).host := by
      rw [own]
      exact queued.engaged listens' rfl
    have all' : (x.move .serve).visitors = former ++ [v] := all
    obtain ⟨stage, work, turn, pending, less⟩ := pending_of_engaged all' engaged
    refine .inr ⟨stage, work, turn, pending, rank_lt_of_stage (Nat.le_of_eq ?_) less⟩
    rw [left_of_going listens.going, left_of_going pending.going]
    rfl
  | true =>
    obtain ⟨next, after, stepped, -, ended, -⟩ := listens.step_once phase kept
    rw [stepped] at own
    exact .inl (later.settled_of_ended (by simp [own, ended]))

/-- A server whose last session is over turns to the next peer, or ends. -/
theorem Sound.serve_turning (dismissed : x.visitors.all (·.isDismissed x.host)) (idle : x.server.Idle x.host)
    (going : x.server.ended = none) : (x.move .serve).Passes (x.rank 0 1) := by
  obtain ⟨idle', links, -⟩ := idle.step
  obtain ended | arriving := idle.step_turns
  · exact .inl (sound.serve.settled_of_ended ended)
  · have same (v : Visitor) : v.isDismissed (x.move .serve).host = v.isDismissed x.host := by
      show v.isDismissed (x.server.step x.host).2 = v.isDismissed x.host
      rw [Visitor.isDismissed, Visitor.isDismissed, Visitor.endpoint, Visitor.endpoint, Host.endpoint, Host.endpoint,
        Host.link, Host.link, links]
    have dismissed' : (x.move .serve).visitors.all (·.isDismissed (x.move .serve).host) := by
      simp only [same]
      exact dismissed
    refine passes_of_idle dismissed' idle' ?_ (.inr ⟨by decide, arriving, rfl⟩)
    rw [left_of_going going]
    exact left_le _

/-- A step of the server lessens the work, unless the turn is a peer's. -/
theorem Pending.serve (pending : x.Pending stage work turn) :
    (x.move .serve).Passes (x.rank stage work) ∨ turn ≠ .serve ∧
      ∃ stage' work', (x.move .serve).Pending stage' work' turn ∧ (x.move .serve).rank stage' work' = x.rank stage work := by
  cases pending with
  | waiting all queued phase listens => exact .inl (sound.serve_waiting all queued phase listens)
  | @sending former v all engaged more =>
    obtain ⟨all', least, ⟨idle, dismissed⟩ | ⟨engaged', same, -⟩⟩ := sound.serve_engaged all engaged rfl
    · exact .inl (passes_of_idle dismissed idle least (.inl (by decide)))
    · by_cases ending : v.IsEnding (x.move .serve).server (x.move .serve).host
      · exact .inl (.inr ⟨1, _, _, .serving all' engaged' ending, rank_lt_of_stage least (by decide)⟩)
      · refine .inr ⟨?_, 2, _, .sending all' engaged' ending, ?_⟩
        · obtain ⟨turn, -⟩ | ⟨turn, -⟩ := nextOf_cases v former.length
          all_goals simp [turn]
        · rw [rank, rank, same]
  | serving all engaged ending =>
    obtain ⟨all', least, ⟨idle, dismissed⟩ | ⟨engaged', -, nearer⟩⟩ := sound.serve_engaged all engaged rfl
    · exact .inl (passes_of_idle dismissed idle least (.inl (by decide)))
    · obtain ⟨ending', less⟩ := nearer ending
      exact .inl (.inr ⟨1, _, _, .serving all' engaged' ending', rank_lt_of_work least less⟩)
  | turning dismissed idle going => exact .inl (sound.serve_turning dismissed idle going)
  | inviting dismissed idle phase some =>
    have own : x.move .serve = { x with server := (x.server.step x.host).1, host := (x.server.step x.host).2 } := rfl
    rw [idle.step_waits (.inr phase)] at own
    rw [own]
    exact .inr ⟨by simp, 0, 0, .inviting dismissed idle phase some, rfl⟩

theorem Settled.serve (settled : x.Settled) : x.move .serve = x := by
  obtain ⟨idle, -⟩ := sound.idle settled.dismissed
  have waits := idle.step_waits (settled.nobody.imp_right And.left)
  simp only [Reception.move, waits]

theorem Pending.serve_nears (pending : x.Pending stage work turn) : (x.move .serve).Nears (x.rank stage work) turn := by
  obtain passes | ⟨-, same⟩ := pending.serve sound
  · exact .inl passes
  · exact .inr same

/-- A server that goes on for a while does what is its turn. -/
theorem Pending.goOn (pending : x.Pending stage work turn) (count : Nat) :
    (x.goOn count).Nears (x.rank stage work) turn ∧ (turn = .serve → 0 < count → (x.goOn count).Passes (x.rank stage work)) := by
  induction count with
  | zero => exact ⟨.inr ⟨stage, work, pending, rfl⟩, fun _ none => absurd none (Nat.lt_irrefl 0)⟩
  | succ count ih =>
    have between := sound.goOn count
    rw [goOn_succ]
    obtain ⟨passes | ⟨stage', work', pending', same⟩, -⟩ := ih
    · have passes := passes.trans (fun settled => (settled.serve between).symm ▸ settled) fun pending => pending.serve_nears between
      exact ⟨.inl passes, fun _ _ => passes⟩
    · rw [← same]
      refine ⟨pending'.serve_nears between, fun own _ => ?_⟩
      obtain passes | ⟨other, -⟩ := pending'.serve between
      · exact passes
      · exact absurd own other

section
variable {who : Nat} {v w : Visitor} (own : x.ByPeer who v w y)
include own

theorem Sound.byPeer_idle (dismissed : x.visitors.all (·.isDismissed x.host)) (idle : x.server.Idle x.host) :
    y.visitors.all (·.isDismissed y.host) ∧ y.server.Idle y.host := by
  have served := own.servedInTurn own.found (sound.idle dismissed).2.1 sound.apart
  obtain ⟨-, ⟨link, rfl⟩, -⟩ := own
  exact ⟨served.dismissed, idle.of_same ⟨rfl, rfl, rfl⟩ rfl⟩

/-- What a peer does leaves the work as it is, or lessens it. -/
theorem Pending.byPeer (pending : x.Pending stage work turn) : y.Nears (x.rank stage work) turn := by
  have later := sound.byPeer own
  have split (former : List Visitor) (last : Visitor) (all : x.visitors = former ++ [last]) := own.of_concat all
  have idle := sound.byPeer_idle own
  obtain ⟨found, ⟨link, rfl⟩, socket, -, -, queued', engaged', ending', shorter, -⟩ := own
  cases pending with
  | @waiting former last l all queued phase listens =>
    have listens : x.server.Listens (x.host.setLink v.socket link) l [last.socket] := listens.of_same ⟨rfl, rfl, rfl⟩ rfl
    right
    obtain ⟨earlier, changed⟩ | ⟨rfl, -, changed⟩ := split _ _ all
    · have other := sound.last_apart all v (List.mem_of_getElem? earlier)
      exact ⟨3, 0, .waiting changed (queued.elsewhere other link) phase listens, rfl⟩
    · have listens : x.server.Listens (x.host.setLink v.socket link) l [w.socket] := by
        rw [socket]
        exact listens
      exact ⟨3, 0, .waiting changed (queued' queued) phase listens, rfl⟩
  | @sending former last all engaged more =>
    obtain ⟨earlier, changed⟩ | ⟨rfl, -, changed⟩ := split _ _ all
    · have other := sound.last_apart all v (List.mem_of_getElem? earlier)
      have same := @Visitor.encounter_elsewhere last x.host x.server v.socket other link
      have pending := Pending.sending changed (engaged.elsewhere other link) (mt same.1.mp more)
      rw [List.length_set] at pending
      exact .inr ⟨2, _, pending, rfl⟩
    · by_cases ending : w.IsEnding x.server (x.host.setLink v.socket link)
      · exact .inl (.inr ⟨1, _, _, .serving changed (engaged' engaged) ending, rank_lt_of_stage (Nat.le_refl _) (by decide)⟩)
      · have pending := Pending.sending changed (engaged' engaged) ending
        obtain less | same := Nat.lt_or_eq_of_le shorter
        · exact .inl (.inr ⟨2, _, _, pending, rank_lt_of_work (Nat.le_refl _) less⟩)
        · right
          have turn : nextOf w former.length = nextOf v former.length := by
            simp only [nextOf, List.isEmpty_iff_length_eq_zero, same]
          rw [turn, same] at pending
          exact ⟨2, _, pending, rfl⟩
  | @serving former last all engaged ending =>
    right
    obtain ⟨earlier, changed⟩ | ⟨rfl, -, changed⟩ := split _ _ all
    · have other := sound.last_apart all v (List.mem_of_getElem? earlier)
      have same := @Visitor.encounter_elsewhere last x.host x.server v.socket other link
      have pending := Pending.serving changed (engaged.elsewhere other link) (same.1.mpr ending)
      rw [same.2] at pending
      exact ⟨1, _, pending, rfl⟩
    · obtain ⟨ending, same⟩ := ending' engaged ending
      have pending := Pending.serving changed (engaged' engaged) ending
      rw [same] at pending
      exact ⟨1, _, pending, rfl⟩
  | turning dismissed alone going phase =>
    obtain ⟨dismissed, alone⟩ := idle dismissed alone
    exact .inr ⟨0, 1, .turning dismissed alone going phase, rfl⟩
  | inviting dismissed alone phase some =>
    obtain ⟨dismissed, alone⟩ := idle dismissed alone
    exact .inr ⟨0, 0, .inviting dismissed alone phase some, rfl⟩

end

/-- Whoever is admitted is one of those who were to come. -/
theorem Sound.welcome_left (dismissed : x.visitors.all (·.isDismissed x.host)) :
    x.welcome = x ∧ (x.server.session.phase ≠ .arriving ∨ x.coming = []) ∨ x.welcome.left < x.left := by
  obtain ⟨idle, -⟩ := sound.idle dismissed
  unfold Reception.welcome
  split
  · rename_i none
    exact .inl ⟨rfl, .inr none⟩
  · rename_i stream rest coming
    have taken {l : ListenerId} (listens : x.server.Listens x.host l []) (y : Reception) (kept : y.server = x.server)
        (fewer : y.coming = rest) : y.left < x.left := by
      rw [left_of_going listens.going, left_of_going (kept ▸ listens.going), coming, fewer]
      exact Nat.lt_succ_self _
    cases idle with
    | fresh _ listens | parted _ listens =>
      rw [listens.listens.connect]
      exact .inr (taken listens _ rfl rfl)
    | failed phase failed =>
      obtain ⟨error, refused⟩ := failed.room.connect
      rw [refused]
      exact .inl ⟨rfl, .inl (by simp [phase])⟩
    | ended phase _ room =>
      obtain ⟨error, refused⟩ := room.connect
      rw [refused]
      exact .inl ⟨rfl, .inl (by simp [phase])⟩

/-- A peer that has to send sends, and one that has sent all ends its stream. -/
theorem Pending.act (pending : x.Pending stage work turn) {who : Nat} {m : CallWire.Move}
    (own : (∃ count, m = .send (count + 1)) ∧ turn = .send who ∨ m = .finish ∧ turn = .finish who) :
    (x.act who m).Passes (x.rank stage work) := by
  have peer : m ≠ .serve := by
    obtain ⟨⟨count, rfl⟩, -⟩ | ⟨rfl, -⟩ := own
    · exact nofun
    · exact nofun
  cases pending with
  | waiting | serving | turning | inviting => simp at own
  | @sending former v all engaged more =>
    obtain ⟨rfl, action⟩ := action_of_nextOf own
    have found : x.visitors[former.length]? = some v := by rw [all, List.getElem?_concat_length]
    rcases moved : (v.encounter x.server x.host).move echoHandler v.socket m with e
    obtain ⟨acted, byPeer⟩ := sound.act_byPeer found peer moved
    let w : Visitor := { v with unsent := e.unsent, received := e.received }
    have all' : (x.act former.length m).visitors = former ++ [w] := by
      obtain ⟨earlier, -⟩ | ⟨-, -, changed⟩ := byPeer.of_concat all
      · simp at earlier
      · exact changed
    have engaged' := byPeer.engaged engaged
    have least : (x.act former.length m).left = x.left := by
      rw [acted]
      rfl
    have same : (x.act former.length m).server = x.server := by rw [acted]
    rw [← same] at engaged'
    have done (ending : w.IsEnding (x.act former.length m).server (x.act former.length m).host) :
        (x.act former.length m).Passes (x.rank 2 v.unsent.length) :=
      .inr ⟨1, _, _, .serving all' engaged' ending, rank_lt_of_stage (Nat.le_of_eq least) (by decide)⟩
    have inRange : v.socket.connection < x.host.links.length :=
      sound.inRange _ (List.mem_map_of_mem (List.mem_of_getElem? found))
    obtain ⟨⟨count, rfl⟩, some⟩ | ⟨rfl, none⟩ := action
    · by_cases ending : w.IsEnding (x.act former.length (.send (count + 1))).server (x.act former.length (.send (count + 1))).host
      · exact done ending
      -- A stream that had ended would make the session one that is ending.
      · have unended : (x.host.endpoint v.socket).isEnded = false := by
          by_contra ended
          exact more (Encounter.ending_of_ended (Bool.eq_true_of_not_eq_false ended))
        obtain ⟨-, channel, l, asked, tended⟩ := engaged
        have less : w.unsent.length < v.unsent.length := by
          have shorter := @Encounter.send_shortens _ echoHandler v.socket (v.encounter x.server x.host) count some
            tended.undisturbed.2 unended
          rw [moved] at shorter
          exact shorter
        exact .inr ⟨2, _, _, .sending all' engaged' ending, rank_lt_of_work (Nat.le_of_eq least) less⟩
    · refine done (Encounter.ending_of_ended ?_)
      have ended := @Encounter.finish_ended _ echoHandler v.socket (v.encounter x.server x.host) inRange none
      rw [moved] at ended
      rw [acted]
      exact ended

/-- A move leaves the work as it is, or lessens it. -/
theorem Pending.move (pending : x.Pending stage work turn) (m : Move) : (x.move m).Nears (x.rank stage work) turn := by
  have later := sound.move m
  cases sound.changes m with
  | nothing same =>
    rw [same]
    exact .inr ⟨stage, work, pending, rfl⟩
  | served count went =>
    rw [went]
    exact (pending.goOn sound (count + 1)).1
  | admitted dismissed came =>
    rw [came] at later ⊢
    obtain ⟨same, -⟩ | less := sound.welcome_left dismissed
    · rw [same]
      exact .inr ⟨stage, work, pending, rfl⟩
    · exact .inl (later.passes_of_left less _)
  | byPeer own => exact pending.byPeer sound own

/-- Whose turn it is lessens the work. -/
theorem Pending.move_own (pending : x.Pending stage work turn) {m : Move} (own : m.turn = some turn) :
    (x.move m).Passes (x.rank stage work) := by
  -- A turn that is neither the server's nor a new peer's is the last visitor's.
  have sending : turn ≠ .serve → turn ≠ .connect → ∃ who, turn = .send who ∨ turn = .finish who := by
    intro serve connect
    cases pending with
    | waiting | serving | turning => exact absurd rfl serve
    | inviting => exact absurd rfl connect
    | @sending former v =>
      obtain ⟨next, -⟩ | ⟨next, -⟩ := nextOf_cases v former.length
      · exact ⟨_, .inl next⟩
      · exact ⟨_, .inr next⟩
  cases m with
  | serve =>
    cases own
    exact (pending.serve sound).resolve_right fun other => other.1 rfl
  | run =>
    cases own
    obtain ⟨count, same⟩ := x.move_run
    rw [same]
    exact (pending.goOn sound (count + 1)).2 rfl (Nat.succ_pos count)
  | connect =>
    have later := sound.move .connect
    have own : turn = .connect := (Option.some.inj own).symm
    cases pending with
    | inviting dismissed _ phase some =>
      rw [show x.move .connect = x.welcome from if_pos dismissed] at later ⊢
      obtain ⟨-, absent⟩ | less := sound.welcome_left dismissed
      · simp [phase, some] at absent
      · exact later.passes_of_left less _
    | waiting | serving | turning => cases own
    | @sending former v =>
      obtain ⟨turn, -⟩ | ⟨turn, -⟩ := nextOf_cases v former.length
      all_goals cases turn.symm.trans own
  | send who count => exact pending.act sound (.inl ⟨⟨count, rfl⟩, (Option.some.inj own).symm⟩)
  | finish who => exact pending.act sound (.inr ⟨rfl, (Option.some.inj own).symm⟩)
  | receive who count =>
    obtain rfl := Option.some.inj own
    obtain ⟨_, same | same⟩ := sending nofun nofun
    · cases same
    · cases same
  | leave who => cases own

theorem Settled.goOn (settled : x.Settled) (count : Nat) : x.goOn count = x := by
  induction count with
  | zero => rfl
  | succ count ih => rw [goOn_succ, ih, settled.serve sound]

/-- When all is settled nothing happens but what the peers do. -/
theorem Settled.changes (settled : x.Settled) (m : Move) :
    x.move m = x ∨ ∃ who v w, x.ByPeer who v w (x.move m) := by
  cases sound.changes m with
  | nothing same => exact .inl same
  | served count went => exact .inl (went.trans (settled.goOn sound (count + 1)))
  | admitted dismissed came =>
    have none : x.left = 0 := by
      obtain ended | ⟨-, none⟩ := settled.nobody
      · simp [Reception.left, ended]
      · simp [Reception.left, none]
    obtain ⟨same, -⟩ | less := sound.welcome_left dismissed
    · exact .inl (came.trans same)
    · exact absurd (none ▸ less) (Nat.not_lt_zero _)
  | byPeer own => exact .inr ⟨_, _, _, own⟩

/-- What is settled stays settled. -/
theorem Settled.move (settled : x.Settled) (m : Move) : (x.move m).Settled := by
  obtain same | ⟨who, v, w, own⟩ := settled.changes sound m
  · rwa [same]
  · obtain ⟨idle, -⟩ := sound.idle settled.dismissed
    obtain ⟨dismissed, -⟩ := sound.byPeer_idle own settled.dismissed idle
    have moved := own.moved
    generalize x.move m = y at own dismissed moved ⊢
    obtain ⟨link, rfl⟩ := moved
    exact ⟨dismissed, settled.nobody⟩

end

end Reception
end CallWire
