import CallWire.Proofs.FrameTransfer
import Mathlib.Data.List.Forall2
import Mathlib.Logic.Function.Iterate

/-! A send as the calls it makes, one a step, over the buffer that its writer keeps from one send to the next. Every
write offers what is left of the message's own frame, the first call that neither moves on nor is interrupted decides
the result, and interruptions change nothing but the number of calls. -/

namespace CallWire

/-- A call to a sink with its answer. -/
inductive SinkCall
  | wrote (offered : Bytes) (outcome : WriteOutcome)
  | flushed (result : Except IoError Unit)

namespace SinkCall

def accepted : SinkCall → Bytes
  | wrote offered (.accepted count) => offered.take count
  | _ => []

/-- The result of a send that a call decides; after any other call the send goes on. -/
def decides : SinkCall → Option (Except ChannelError Unit)
  | wrote _ (.accepted count) => if count = 0 then some (.error .connectionClosed) else none
  | wrote _ (.failed error) => if error.isInterruption then none else some (.error (.io error))
  | flushed (.ok _) => some (.ok ())
  | flushed (.error error) => if error.isInterruption then none else some (.error (.io error))

end SinkCall

/-- Every write offers just what the writes before it have left of the frame. -/
def OffersRest (frame : Bytes) (calls : List SinkCall) : Prop :=
  ∀ before offered outcome after, calls = before ++ .wrote offered outcome :: after →
    offered ≠ [] ∧ before.flatMap SinkCall.accepted ++ offered = frame

section
variable {frame : Bytes} {calls : List SinkCall}

theorem OffersRest.append (offers : OffersRest frame calls) {last : SinkCall}
    (rest : ∀ offered outcome, last = .wrote offered outcome →
      offered ≠ [] ∧ calls.flatMap SinkCall.accepted ++ offered = frame) : OffersRest frame (calls ++ [last]) := by
  intro before offered outcome after split
  rcases after.eq_nil_or_concat with rfl | ⟨others, final, rfl⟩
  · obtain ⟨rfl, same⟩ := List.append_inj' split rfl
    exact rest offered outcome (List.cons.inj same).1
  · rw [List.concat_eq_append, ← List.cons_append, ← List.append_assoc] at split
    exact offers before offered outcome others (List.append_inj' split rfl).1

end

inductive DeliveryPhase
  | writing (offset : Nat)
  | flushing
  | ended (result : Except ChannelError Unit)

namespace DeliveryPhase

def afterWrite (offset : Nat) : WriteOutcome → DeliveryPhase
  | .accepted 0 => ended (.error .connectionClosed)
  | .accepted count => writing (offset + count)
  | .failed error => if error.isInterruption then writing offset else ended (.error (.io error))

def afterFlush : Except IoError Unit → DeliveryPhase
  | .ok _ => ended (.ok ())
  | .error error => if error.isInterruption then flushing else ended (.error (.io error))

theorem afterWrite_accepted {offset count : Nat} (positive : count = 0 → False) :
    afterWrite offset (.accepted count) = writing (offset + count) := by
  cases count with
  | zero => exact (positive rfl).elim
  | succ => rfl

end DeliveryPhase

/-- A message on its way: the writer's buffer, and the calls that were made for it. -/
structure Delivery (σ : Type) where
  buffer : Bytes
  sink : σ
  phase : DeliveryPhase
  calls : List SinkCall := []

namespace Delivery
variable {σ : Type} [ByteSink σ] {account : σ → Bytes} {d : Delivery σ} {content held : Bytes} {offset : Nat}

/-- A send begins with the buffer that the send before it has left. A message over the limit does not touch it. -/
def start (config : FrameConfig) (held content : Bytes) (sink : σ) : Delivery σ :=
  if config.maxSize < content.length then
    ⟨held, sink, .ended (.error (.frameTooLarge content.length config.maxSize)), []⟩
  else
    let cleared : Bytes := []
    match encodeFrame content with
    | .error error => ⟨cleared, sink, .ended (.error error), []⟩
    | .ok frame => ⟨cleared ++ frame, sink, .writing 0, []⟩

def offer (d : Delivery σ) (offset : Nat) : Delivery σ :=
  let offered := d.buffer.drop offset
  let answer := ByteSink.write offered d.sink
  { d with
    sink := answer.2, phase := .afterWrite offset answer.1, calls := d.calls ++ [.wrote offered answer.1] }

def flush (d : Delivery σ) : Delivery σ :=
  let answer := ByteSink.flush d.sink
  { d with sink := answer.2, phase := .afterFlush answer.1, calls := d.calls ++ [.flushed answer.1] }

def next (d : Delivery σ) : Delivery σ :=
  match d.phase with
  | .writing offset => if offset < d.buffer.length then d.offer offset else { d with phase := .flushing }
  | .flushing => d.flush
  | .ended _ => d

def accepted (d : Delivery σ) : Bytes := d.calls.flatMap SinkCall.accepted

/-- The steps come to an end, and this is it. -/
def FinishesAs (d last : Delivery σ) : Prop :=
  (∃ steps, next^[steps] d = last) ∧ ∃ result, last.phase = .ended result

theorem phase_offer : (d.offer offset).phase = .afterWrite offset (ByteSink.write (d.buffer.drop offset) d.sink).1 := rfl

theorem phase_flush : d.flush.phase = .afterFlush (ByteSink.flush d.sink).1 := rfl

theorem next_offer (writing : d.phase = .writing offset) (short : offset < d.buffer.length) : d.next = d.offer offset := by
  simp only [next, writing, if_pos short]

theorem next_full (writing : d.phase = .writing offset) (full : d.buffer.length ≤ offset) :
    d.next = { d with phase := .flushing } := by
  simp only [next, writing, if_neg (Nat.not_lt.mpr full)]

theorem next_flush (flushing : d.phase = .flushing) : d.next = d.flush := by
  simp only [next, flushing]

theorem next_ended {result} (ended : d.phase = .ended result) : d.next = d := by
  simp only [next, ended]

theorem FinishesAs.unique {first second : Delivery σ} (one : d.FinishesAs first) (two : d.FinishesAs second) :
    first = second := by
  obtain ⟨⟨steps, rfl⟩, result, ended⟩ := one
  obtain ⟨⟨others, rfl⟩, other, stopped⟩ := two
  rcases Nat.le_total steps others with fewer | more
  · obtain ⟨extra, rfl⟩ := Nat.exists_eq_add_of_le' fewer
    rw [Function.iterate_add_apply]
    exact (Function.iterate_fixed (next_ended ended) extra).symm
  · obtain ⟨extra, rfl⟩ := Nat.exists_eq_add_of_le' more
    rw [Function.iterate_add_apply]
    exact Function.iterate_fixed (next_ended stopped) extra

theorem FinishesAs.of_next {last : Delivery σ} (later : d.next.FinishesAs last) : d.FinishesAs last := by
  obtain ⟨⟨steps, rfl⟩, ended⟩ := later
  exact ⟨⟨steps + 1, rfl⟩, ended⟩

theorem FinishesAs.of_ended {result} (ended : d.phase = .ended result) : d.FinishesAs d :=
  ⟨⟨0, rfl⟩, result, ended⟩

/-! ### What the steps come to -/

theorem finishes_flush (flushing : d.phase = .flushing) {last : Delivery σ} (later : d.flush.FinishesAs last) :
    d.FinishesAs last := by
  apply FinishesAs.of_next
  rwa [next_flush flushing]

theorem finishes_offer (writing : d.phase = .writing offset) (some : d.buffer.drop offset ≠ []) {last : Delivery σ}
    (later : (d.offer offset).FinishesAs last) : d.FinishesAs last := by
  have short : offset < d.buffer.length := Nat.not_le.mp fun full => some (List.drop_of_length_le full)
  apply FinishesAs.of_next
  rwa [next_offer writing short]

/-- An interruption takes weight off the sink, so that the calls there may be do not run out. -/
theorem finishes_flushing (calls : Nat) (flushing : d.phase = .flushing) (enough : ByteSink.weight d.sink ≤ calls) :
    ∃ last, d.FinishesAs last ∧ last.phase = .ended (FrameWriter.settle calls d.sink).1 ∧
      last.sink = (FrameWriter.settle calls d.sink).2 := by
  generalize same : d.sink = sink at enough
  fun_induction FrameWriter.settle calls sink generalizing d with
  | case1 calls sink _ next flushed =>
    subst same
    have phase : d.flush.phase = .ended (.ok ()) := by
      rw [phase_flush, flushed]
      rfl
    exact ⟨d.flush, finishes_flush flushing (.of_ended phase), phase, congrArg Prod.snd flushed⟩
  | case2 sink error next flushed again =>
    have lighter := ByteSink.flush_interrupted sink error (by rw [flushed]) again
    omega
  | case3 sink error next flushed again calls ih =>
    subst same
    have phase : d.flush.phase = .flushing := by
      rw [phase_flush, flushed]
      exact if_pos again
    have lighter : ByteSink.weight next < ByteSink.weight d.sink := by
      simpa only [flushed] using ByteSink.flush_interrupted d.sink error (by rw [flushed]) again
    obtain ⟨last, finishes, ended⟩ := ih phase (congrArg Prod.snd flushed) (by omega)
    exact ⟨last, finishes_flush flushing finishes, ended⟩
  | case4 calls sink error next flushed fatal =>
    subst same
    have phase : d.flush.phase = .ended (.error (.io error)) := by
      rw [phase_flush, flushed]
      exact if_neg fatal
    exact ⟨d.flush, finishes_flush flushing (.of_ended phase), phase, congrArg Prod.snd flushed⟩

/-- Every call moves on in the buffer or takes weight off the sink. -/
theorem finishes_writing (calls : Nat) (writing : d.phase = .writing offset)
    (enough : ByteSink.weight d.sink + (d.buffer.drop offset).length ≤ calls) :
    ∃ last, d.FinishesAs last ∧
      match FrameWriter.push calls (d.buffer.drop offset) d.sink with
      | (.ok _, next) => last.phase = .ended (FrameWriter.flush next).1 ∧ last.sink = (FrameWriter.flush next).2
      | (.error error, next) => last.phase = .ended (.error error) ∧ last.sink = next := by
  generalize left : d.buffer.drop offset = rest at enough
  generalize same : d.sink = sink at enough
  -- On the turns of the writer's own loop; the fuel that it has left covers the weight, so it never runs out.
  fun_induction FrameWriter.push calls rest sink generalizing d offset with
  | case1 calls sink =>
    subst same
    obtain ⟨last, finishes, ended⟩ := finishes_flushing (d := { d with phase := .flushing })
      (ByteSink.weight d.sink) rfl (Nat.le_refl _)
    refine ⟨last, .of_next ?_, ended⟩
    rwa [next_full writing (List.drop_eq_nil_iff.mp left)]
  | case2 first rest sink =>
    rw [List.length_cons] at enough
    -- The weight covers a rest that is not empty, so the fuel cannot have run out.
    omega
  | case3 calls rest sink some next written =>
    subst same left
    have phase : (d.offer offset).phase = .ended (.error .connectionClosed) := by
      rw [phase_offer, written]
      rfl
    exact ⟨d.offer offset, finishes_offer writing some (.of_ended phase), phase, congrArg Prod.snd written⟩
  | case4 calls rest sink some count next positive written ih =>
    subst same left
    have phase : (d.offer offset).phase = .writing (offset + count) := by
      rw [phase_offer, written]
      exact DeliveryPhase.afterWrite_accepted positive
    have lighter : ByteSink.weight next ≤ ByteSink.weight d.sink := by
      simpa only [written] using ByteSink.write_weight (d.buffer.drop offset) d.sink
    have moved : 0 < count := Nat.pos_of_ne_zero positive
    have length := List.length_pos_iff.mpr some
    obtain ⟨last, finishes, ended⟩ := ih phase List.drop_drop.symm (congrArg Prod.snd written) (by
      rw [List.length_drop]
      omega)
    exact ⟨last, finishes_offer writing some finishes, ended⟩
  | case5 calls rest sink some error next written again ih =>
    subst same left
    have phase : (d.offer offset).phase = .writing offset := by
      rw [phase_offer, written]
      exact if_pos again
    have lighter : ByteSink.weight next < ByteSink.weight d.sink := by
      simpa only [written] using ByteSink.write_interrupted (d.buffer.drop offset) d.sink error (by rw [written]) again
    obtain ⟨last, finishes, ended⟩ := ih phase rfl (congrArg Prod.snd written) (by omega)
    exact ⟨last, finishes_offer writing some finishes, ended⟩
  | case6 calls rest sink some error next written fatal =>
    subst same left
    have phase : (d.offer offset).phase = .ended (.error (.io error)) := by
      rw [phase_offer, written]
      exact if_neg fatal
    exact ⟨d.offer offset, finishes_offer writing some (.of_ended phase), phase, congrArg Prod.snd written⟩

/-- Whatever the buffer held before, the steps end with the result of the send, and leave the sink as it does. -/
theorem start_finishes (writer : FrameWriter) (held content : Bytes) (sink : σ) :
    ∃ last, (start writer.config held content sink).FinishesAs last ∧
      last.phase = .ended (writer.send content sink).1 ∧ last.sink = (writer.send content sink).2 := by
  unfold start FrameWriter.send
  by_cases large : writer.config.maxSize < content.length
  · rw [if_pos large, if_pos large]
    exact ⟨_, .of_ended rfl, rfl, rfl⟩
  · rw [if_neg large, if_neg large]
    cases encodeFrame content with
    | error error => exact ⟨_, .of_ended rfl, rfl, rfl⟩
    | ok frame =>
      obtain ⟨last, finishes, ended⟩ := finishes_writing (d := ⟨frame, sink, .writing 0, []⟩)
        (ByteSink.weight sink + frame.length) rfl (Nat.le_refl _)
      refine ⟨last, finishes, ?_⟩
      simp only [List.drop_zero] at ended ⊢
      generalize FrameWriter.push (ByteSink.weight sink + frame.length) frame sink = pushed at ended ⊢
      obtain ⟨_ | _, next⟩ := pushed
      · exact ended
      · exact ended

end Delivery

/-! ### The calls judged by the frame -/

/-- How far the calls of a send have brought it. The last call of all is the only one that decides anything. -/
inductive DeliveryStage (frame : Bytes) : DeliveryPhase → List SinkCall → Prop
  | writing {offset calls} (undecided : ∀ call ∈ calls, call.decides = none)
      (taken : calls.flatMap SinkCall.accepted = frame.take offset) : DeliveryStage frame (.writing offset) calls
  | flushing {calls} (undecided : ∀ call ∈ calls, call.decides = none)
      (taken : calls.flatMap SinkCall.accepted = frame) : DeliveryStage frame .flushing calls
  | ended {calls last result} (undecided : ∀ call ∈ calls, call.decides = none) (decided : last.decides = some result)
      (front : (calls ++ [last]).flatMap SinkCall.accepted <+: frame)
      (whole : result = .ok () → (calls ++ [last]).flatMap SinkCall.accepted = frame) :
      DeliveryStage frame (.ended result) (calls ++ [last])

namespace SinkCall
variable {call : SinkCall} {error : IoError}

@[simp] theorem accepted_failed (offered : Bytes) (error : IoError) : (wrote offered (.failed error)).accepted = [] := rfl

@[simp] theorem accepted_flushed (answer : Except IoError Unit) : (flushed answer).accepted = [] := rfl

@[simp] theorem decides_done (done : Unit) : (flushed (.ok done)).decides = some (.ok ()) := rfl

@[simp] theorem decides_accepted {offered : Bytes} {count : Nat} {result : Except ChannelError Unit} :
    (wrote offered (.accepted count)).decides = some result ↔ count = 0 ∧ result = .error .connectionClosed := by
  rw [decides]
  split_ifs with none
  · simp only [Option.some.injEq, none, true_and, eq_comm]
  · simp only [none, false_and]

@[simp] theorem decides_failed_write (offered : Bytes) {answer : IoError} {result : Except ChannelError Unit} :
    (wrote offered (.failed answer)).decides = some result ↔
      answer.isInterruption = false ∧ result = .error (.io answer) := by
  rw [decides]
  split_ifs with again
  · simp only [again, Bool.true_eq_false, false_and]
  · simp only [Option.some.injEq, Bool.eq_false_iff.mpr again, true_and, eq_comm]

/-- A flush that fails decides as a write that fails does. -/
@[simp] theorem decides_failed_flush {answer : IoError} {result : Except ChannelError Unit} :
    (flushed (.error answer)).decides = some result ↔
      answer.isInterruption = false ∧ result = .error (.io answer) :=
  decides_failed_write []

theorem decides_sent : call.decides = some (.ok ()) ↔ call = .flushed (.ok ()) := by
  rcases call with ⟨offered, count | answer⟩ | answer | _ <;> simp

theorem decides_closed :
    call.decides = some (.error .connectionClosed) ↔ ∃ offered, call = .wrote offered (.accepted 0) := by
  rcases call with ⟨offered, count | answer⟩ | answer | _ <;> simp

theorem decides_failed : call.decides = some (.error (.io error)) ↔ error.isInterruption = false ∧
    ((∃ offered, call = .wrote offered (.failed error)) ∨ call = .flushed (.error error)) := by
  have same (answer : IoError) : answer.isInterruption = false ∧ error = answer ↔
      error.isInterruption = false ∧ answer = error := by
    constructor
    · exact fun ⟨fatal, same⟩ => ⟨same ▸ fatal, same.symm⟩
    · exact fun ⟨fatal, same⟩ => ⟨same ▸ fatal, same.symm⟩
  rcases call with ⟨offered, count | answer⟩ | answer | _ <;> simp [same]

end SinkCall

namespace DeliveryStage
variable {frame : Bytes} {calls : List SinkCall} {offset : Nat}

theorem undecided_append (undecided : ∀ call ∈ calls, call.decides = none) {last : SinkCall}
    (going : last.decides = none) : ∀ call ∈ calls ++ [last], call.decides = none :=
  List.forall_mem_append.mpr ⟨undecided, List.forall_mem_singleton.mpr going⟩

theorem write (stage : DeliveryStage frame (.writing offset) calls) (outcome : WriteOutcome) :
    DeliveryStage frame (.afterWrite offset outcome) (calls ++ [.wrote (frame.drop offset) outcome]) := by
  cases stage with
  | writing undecided taken =>
    cases outcome with
    | accepted count =>
      have grown : (calls ++ [SinkCall.wrote (frame.drop offset) (.accepted count)]).flatMap SinkCall.accepted =
          frame.take (offset + count) := by
        rw [List.flatMap_append, taken, List.flatMap_singleton, SinkCall.accepted, List.take_add]
      cases count with
      | zero =>
        refine ended undecided rfl ?_ (by simp)
        rw [grown]
        exact List.take_prefix _ _
      | succ count => exact writing (undecided_append undecided rfl) grown
    | failed error =>
      have kept : (calls ++ [SinkCall.wrote (frame.drop offset) (.failed error)]).flatMap SinkCall.accepted =
          frame.take offset := by
        rw [List.flatMap_append, taken, List.flatMap_singleton, SinkCall.accepted_failed, List.append_nil]
      by_cases again : error.isInterruption = true
      · rw [DeliveryPhase.afterWrite, if_pos again]
        exact writing (undecided_append undecided (if_pos again)) kept
      · rw [DeliveryPhase.afterWrite, if_neg again]
        refine ended undecided (if_neg again) ?_ (by simp)
        rw [kept]
        exact List.take_prefix _ _

theorem full (stage : DeliveryStage frame (.writing offset) calls) (full : frame.length ≤ offset) :
    DeliveryStage frame .flushing calls := by
  cases stage with
  | writing undecided taken => exact flushing undecided (taken.trans (List.take_of_length_le full))

theorem flush (stage : DeliveryStage frame .flushing calls) (answer : Except IoError Unit) :
    DeliveryStage frame (.afterFlush answer) (calls ++ [.flushed answer]) := by
  cases stage with
  | flushing undecided taken =>
    have same : (calls ++ [SinkCall.flushed answer]).flatMap SinkCall.accepted = frame := by
      rw [List.flatMap_append, taken, List.flatMap_singleton, SinkCall.accepted_flushed, List.append_nil]
    cases answer with
    | ok => exact ended undecided rfl (by simp only [same, List.prefix_rfl]) fun _ => same
    | error error =>
      by_cases again : error.isInterruption = true
      · rw [DeliveryPhase.afterFlush, if_pos again]
        exact flushing (undecided_append undecided (if_pos again)) same
      · rw [DeliveryPhase.afterFlush, if_neg again]
        exact ended undecided (if_neg again) (by simp only [same, List.prefix_rfl]) fun _ => same

theorem front {phase} (stage : DeliveryStage frame phase calls) : calls.flatMap SinkCall.accepted <+: frame := by
  cases stage with
  | writing _ taken =>
    rw [taken]
    exact List.take_prefix _ _
  | flushing _ taken => simp only [taken, List.prefix_rfl]
  | ended _ _ front => exact front

theorem whole (stage : DeliveryStage frame (.ended (.ok ())) calls) : calls.flatMap SinkCall.accepted = frame := by
  cases stage with
  | ended _ _ _ whole => exact whole rfl

theorem ended_iff {result other} (stage : DeliveryStage frame (.ended result) calls) :
    result = other ↔ ∃ call ∈ calls, call.decides = some other := by
  cases stage with
  | @ended calls last _ undecided decided =>
    constructor
    · rintro rfl
      exact ⟨last, by simp, decided⟩
    · rintro ⟨call, member, decides⟩
      rcases List.mem_append.mp member with earlier | final
      · cases (undecided call earlier).symm.trans decides
      · rw [List.mem_singleton.mp final] at decides
        exact Option.some.inj (decided.symm.trans decides)

end DeliveryStage

/-- How a send stands that was let through to its sink. -/
structure Delivery.Sound {σ : Type} (content : Bytes) (d : Delivery σ) : Prop where
  buffer : d.buffer = frameOf content
  offers : OffersRest (frameOf content) d.calls
  stage : DeliveryStage (frameOf content) d.phase d.calls

/-- What a send has come to, told by the calls it made. -/
structure Delivery.Settled {σ : Type} (config : FrameConfig) (content : Bytes) (d : Delivery σ) : Prop where
  front : d.accepted <+: frameOf content
  offers : OffersRest (frameOf content) d.calls
  sent : d.phase = .ended (.ok ()) ↔ d.accepted = frameOf content ∧ .flushed (.ok ()) ∈ d.calls
  closed : d.phase = .ended (.error .connectionClosed) ↔ ∃ offered, .wrote offered (.accepted 0) ∈ d.calls
  failed : ∀ error, d.phase = .ended (.error (.io error)) ↔ error.isInterruption = false ∧
    ((∃ offered, .wrote offered (.failed error) ∈ d.calls) ∨ .flushed (.error error) ∈ d.calls)
  large : config.maxSize < content.length →
    d.phase = .ended (.error (.frameTooLarge content.length config.maxSize)) ∧ d.calls = []
  unannounced : content.length ≤ config.maxSize → maxFrameLength < content.length →
    d.phase = .ended (.error (.frameTooLarge content.length maxFrameLength)) ∧ d.calls = []

namespace Delivery

section
variable {σ : Type} {d : Delivery σ} {config : FrameConfig} {content : Bytes}

theorem start_silent (config : FrameConfig) (held content : Bytes) (sink : σ) :
    (start config held content sink).calls = [] ∧ (start config held content sink).sink = sink := by
  unfold start
  split
  · exact ⟨rfl, rfl⟩
  · split
    · exact ⟨rfl, rfl⟩
    · exact ⟨rfl, rfl⟩

theorem Sound.settled (sound : d.Sound content) {result} (ended : d.phase = .ended result)
    (fits : content.length ≤ config.maxSize) (announced : content.length ≤ maxFrameLength) :
    d.Settled config content := by
  have stage := ended ▸ sound.stage
  -- Only one call can decide a delivery, so each result is told by the calls.
  have judged : ∀ other, d.phase = .ended other ↔ ∃ call ∈ d.calls, call.decides = some other := by
    intro other
    rw [ended, DeliveryPhase.ended.injEq]
    exact stage.ended_iff
  refine ⟨stage.front, sound.offers, ?_, ?_, ?_, ?_, ?_⟩
  · rw [judged]
    simp only [SinkCall.decides_sent]
    constructor
    · rintro ⟨_, member, rfl⟩
      obtain rfl := stage.ended_iff.mpr ⟨_, member, SinkCall.decides_sent.mpr rfl⟩
      exact ⟨stage.whole, member⟩
    · rintro ⟨-, member⟩
      exact ⟨_, member, rfl⟩
  · rw [judged]
    simp only [SinkCall.decides_closed]
    constructor
    · rintro ⟨_, member, offered, rfl⟩
      exact ⟨offered, member⟩
    · rintro ⟨offered, member⟩
      exact ⟨_, member, offered, rfl⟩
  · intro error
    rw [judged]
    simp only [SinkCall.decides_failed]
    constructor
    · rintro ⟨_, member, fatal, ⟨offered, rfl⟩ | rfl⟩
      · exact ⟨fatal, .inl ⟨offered, member⟩⟩
      · exact ⟨fatal, .inr member⟩
    · rintro ⟨fatal, ⟨offered, member⟩ | member⟩
      · exact ⟨_, member, fatal, .inl ⟨offered, rfl⟩⟩
      · exact ⟨_, member, fatal, .inr rfl⟩
  · intro large
    omega
  · intro _ large
    omega

/-- A message that is refused is not offered to the sink. -/
theorem settled_of_refused {size maximum} (refused : d.phase = .ended (.error (.frameTooLarge size maximum)))
    (silent : d.calls = [])
    (large : config.maxSize < content.length → size = content.length ∧ maximum = config.maxSize)
    (unannounced : content.length ≤ config.maxSize → size = content.length ∧ maximum = maxFrameLength) :
    d.Settled config content := by
  have nothing : d.accepted = [] := by rw [accepted, silent, List.flatMap_nil]
  constructor
  · rw [nothing]
    exact List.nil_prefix
  · intro before offered outcome after split
    simp [silent] at split
  · simp [refused, silent]
  · simp [refused, silent]
  · simp [refused, silent]
  · intro exceeds
    obtain ⟨rfl, rfl⟩ := large exceeds
    exact ⟨refused, silent⟩
  · intro fits _
    obtain ⟨rfl, rfl⟩ := unannounced fits
    exact ⟨refused, silent⟩

end

variable {σ : Type} [ByteSink σ] {d last : Delivery σ} {config : FrameConfig} {content held : Bytes} {sink : σ}

theorem Sound.next (sound : d.Sound content) : d.next.Sound content := by
  obtain ⟨buffer, offers, stage⟩ := sound
  cases phase : d.phase with
  | writing offset =>
    rw [phase] at stage
    by_cases short : offset < d.buffer.length
    · rw [next_offer phase short]
      refine ⟨buffer, offers.append ?_, ?_⟩
      · intro offered outcome same
        cases same
        -- What is offered is what the frame has beyond the bytes that were taken.
        cases stage with
        | writing undecided taken =>
          refine ⟨fun nothing => ?_, ?_⟩
          · exact Nat.not_le.mpr short (List.drop_eq_nil_iff.mp nothing)
          · rw [taken, buffer, List.take_append_drop]
      · have further := stage.write (ByteSink.write (d.buffer.drop offset) d.sink).1
        rwa [← buffer] at further ⊢
    · rw [next_full phase (Nat.not_lt.mp short)]
      rw [buffer] at short
      exact ⟨buffer, offers, stage.full (Nat.not_lt.mp short)⟩
  | flushing =>
    rw [phase] at stage
    rw [next_flush phase]
    refine ⟨buffer, offers.append ?_, stage.flush _⟩
    intro offered outcome same
    cases same
  | ended result =>
    rw [next_ended phase]
    exact ⟨buffer, offers, stage⟩

theorem Sound.iterate (sound : d.Sound content) (steps : Nat) : (Delivery.next^[steps] d).Sound content := by
  induction steps generalizing d with
  | zero => exact sound
  | succ steps ih => exact ih sound.next

theorem settled_of_finishes (finishes : (start config held content sink).FinishesAs last) :
    last.Settled config content := by
  unfold start at finishes
  by_cases large : config.maxSize < content.length
  · rw [if_pos large] at finishes
    rw [← FinishesAs.unique (.of_ended rfl) finishes]
    exact settled_of_refused rfl rfl (fun _ => ⟨rfl, rfl⟩) (fun fits => by omega)
  · rw [if_neg large] at finishes
    by_cases announced : content.length ≤ maxFrameLength
    · rw [show encodeFrame content = .ok (frameOf content) from if_pos announced] at finishes
      obtain ⟨⟨steps, rfl⟩, result, ended⟩ := finishes
      have fresh : Sound content ⟨frameOf content, sink, .writing 0, []⟩ := by
        refine ⟨rfl, ?_, .writing (by simp) rfl⟩
        intro before offered outcome after split
        simp at split
      exact (fresh.iterate steps).settled ended (by omega) announced
    · rw [show encodeFrame content = .error (.frameTooLarge content.length maxFrameLength) from if_neg announced]
        at finishes
      rw [← FinishesAs.unique (.of_ended rfl) finishes]
      exact settled_of_refused rfl rfl (fun exceeds => by omega) (fun _ => ⟨rfl, rfl⟩)

theorem accepted_offer {offset : Nat} : (d.offer offset).accepted = d.accepted ++
    SinkCall.accepted (.wrote (d.buffer.drop offset) (ByteSink.write (d.buffer.drop offset) d.sink).1) := by
  rw [accepted, offer, List.flatMap_append, List.flatMap_singleton]
  rfl

theorem accepted_flush : d.flush.accepted = d.accepted := by
  rw [accepted, flush, List.flatMap_append, List.flatMap_singleton, SinkCall.accepted_flushed, List.append_nil]
  rfl

/-- The sink gets what the calls tell. -/
theorem account_next {account : σ → Bytes} (accounts : ByteSink.Account σ account) {base : Bytes}
    (grown : account d.sink = base ++ d.accepted) : account d.next.sink = base ++ d.next.accepted := by
  cases phase : d.phase with
  | writing offset =>
    by_cases short : offset < d.buffer.length
    · rw [next_offer phase short, accepted_offer, ← List.append_assoc, ← grown]
      cases written : ByteSink.write (d.buffer.drop offset) d.sink with
      | mk outcome next =>
        rw [show (d.offer offset).sink = next from congrArg Prod.snd written]
        cases outcome with
        | accepted count => exact accounts.accepted _ _ _ _ written
        | failed error => exact (accounts.failed _ _ _ _ written).trans (List.append_nil _).symm
    · rw [next_full phase (Nat.not_lt.mp short)]
      exact grown
  | flushing =>
    rw [next_flush phase, accepted_flush, ← grown]
    exact accounts.flushed d.sink
  | ended result => rwa [next_ended phase]

theorem account_finishes {account : σ → Bytes} (accounts : ByteSink.Account σ account) {base : Bytes}
    (grown : account d.sink = base ++ d.accepted) (finishes : d.FinishesAs last) :
    account last.sink = base ++ last.accepted := by
  obtain ⟨⟨steps, rfl⟩, -⟩ := finishes
  induction steps generalizing d with
  | zero => exact grown
  | succ steps ih => exact ih (account_next accounts grown)

end Delivery

/-! ### Without the interruptions -/

def WriteItem.interrupts : WriteItem → Bool
  | .accept _ => false
  | .error cause => cause.isInterruption

namespace WriteScript
variable {script quiet : WriteScript}

def interrupts : Except IoError Unit → Bool
  | .ok _ => false
  | .error error => error.isInterruption

/-- The answers of a script that are no interruptions. -/
def calm (script : WriteScript) : WriteScript :=
  { items := script.items.filter (!·.interrupts), flushes := script.flushes.filter (!interrupts ·) }

structure Calms (script quiet : WriteScript) : Prop where
  items : script.items.filter (!·.interrupts) = quiet.items
  flushes : script.flushes.filter (!interrupts ·) = quiet.flushes

theorem calms_calm (script : WriteScript) : script.Calms script.calm := ⟨rfl, rfl⟩

theorem Calms.write (calms : script.Calms quiet) (content : Bytes) :
    (∃ error, error.isInterruption = true ∧ (script.write content).1 = .failed error ∧
        (script.write content).2.Calms quiet) ∨
      (script.write content).1 = (quiet.write content).1 ∧ (script.write content).2.Calms (quiet.write content).2 := by
  obtain ⟨items, flushes⟩ := calms
  unfold WriteScript.write
  match front : script.items with
  | [] =>
    rw [front, List.filter_nil] at items
    rw [← items]
    exact .inr ⟨rfl, rfl, flushes⟩
  | .accept count :: rest =>
    rw [front, List.filter_cons_of_pos rfl] at items
    rw [← items]
    exact .inr ⟨rfl, rfl, flushes⟩
  | .error error :: rest =>
    by_cases again : error.isInterruption = true
    · rw [front, List.filter_cons_of_neg (by simp [WriteItem.interrupts, again])] at items
      exact .inl ⟨error, again, rfl, items, flushes⟩
    · rw [front, List.filter_cons_of_pos (by simp [WriteItem.interrupts, again])] at items
      rw [← items]
      exact .inr ⟨rfl, rfl, flushes⟩

theorem Calms.flush (calms : script.Calms quiet) :
    (∃ error, error.isInterruption = true ∧ script.flush.1 = .error error ∧ script.flush.2.Calms quiet) ∨
      script.flush.1 = quiet.flush.1 ∧ script.flush.2.Calms quiet.flush.2 := by
  obtain ⟨items, flushes⟩ := calms
  unfold WriteScript.flush
  match front : script.flushes with
  | [] =>
    rw [front, List.filter_nil] at flushes
    rw [← flushes]
    exact .inr ⟨rfl, items, rfl⟩
  | .ok _ :: rest =>
    rw [front, List.filter_cons_of_pos rfl] at flushes
    rw [← flushes]
    exact .inr ⟨rfl, items, rfl⟩
  | .error error :: rest =>
    by_cases again : error.isInterruption = true
    · rw [front, List.filter_cons_of_neg (by simp [interrupts, again])] at flushes
      exact .inl ⟨error, again, rfl, items, flushes⟩
    · rw [front, List.filter_cons_of_pos (by simp [interrupts, again])] at flushes
      rw [← flushes]
      exact .inr ⟨rfl, items, rfl⟩

end WriteScript

namespace Delivery
variable {d u last : Delivery WriteScript} {config : FrameConfig} {held content : Bytes} {script quiet : WriteScript}

/-- A send and the same without interruptions, which has come as far. -/
structure Calms (d u : Delivery WriteScript) : Prop where
  buffer : d.buffer = u.buffer
  phase : d.phase = u.phase
  sink : d.sink.Calms u.sink
  accepted : d.accepted = u.accepted

/-- An interrupted call takes the calm send nowhere, any other call is its next one too. -/
theorem Calms.next (calms : d.Calms u) : d.next.Calms u ∨ d.next.Calms u.next := by
  obtain ⟨buffer, phase, sink, accepted⟩ := calms
  cases stage : u.phase with
  | writing offset =>
    by_cases short : offset < d.buffer.length
    · rw [next_offer (phase.trans stage) short, next_offer stage (buffer ▸ short)]
      -- The calm send makes only the calls that were not interrupted.
      rcases sink.write (d.buffer.drop offset) with ⟨error, again, failed, calms⟩ | ⟨same, calms⟩
      · have failed : (ByteSink.write (d.buffer.drop offset) d.sink).1 = .failed error := failed
        refine .inl ⟨buffer, ?_, calms, ?_⟩
        · rw [phase_offer, failed, stage]
          exact if_pos again
        · rw [accepted_offer, failed, accepted, SinkCall.accepted_failed, List.append_nil]
      · have same : (ByteSink.write (d.buffer.drop offset) d.sink).1 =
            (ByteSink.write (u.buffer.drop offset) u.sink).1 := buffer ▸ same
        refine .inr ⟨buffer, ?_, ?_, ?_⟩
        · rw [phase_offer, phase_offer, same]
        · simp only [offer, ← buffer]
          exact calms
        · rw [accepted_offer, accepted_offer, same, accepted, buffer]
    · rw [next_full (phase.trans stage) (Nat.not_lt.mp short), next_full stage (buffer ▸ Nat.not_lt.mp short)]
      exact .inr ⟨buffer, rfl, sink, accepted⟩
  | flushing =>
    rw [next_flush (phase.trans stage), next_flush stage]
    rcases sink.flush with ⟨error, again, failed, calms⟩ | ⟨same, calms⟩
    · have failed : (ByteSink.flush d.sink).1 = .error error := failed
      refine .inl ⟨buffer, ?_, calms, accepted_flush.trans accepted⟩
      rw [phase_flush, failed, stage]
      exact if_pos again
    · have same : (ByteSink.flush d.sink).1 = (ByteSink.flush u.sink).1 := same
      refine .inr ⟨buffer, ?_, calms, ?_⟩
      · rw [phase_flush, phase_flush, same]
      · rw [accepted_flush, accepted_flush, accepted]
  | ended result =>
    rw [next_ended (phase.trans stage)]
    exact .inl ⟨buffer, phase, sink, accepted⟩

theorem Calms.finishes (calms : d.Calms u) (finishes : d.FinishesAs last) :
    ∃ final, u.FinishesAs final ∧ last.Calms final := by
  obtain ⟨⟨steps, rfl⟩, result, ended⟩ := finishes
  induction steps generalizing d u with
  | zero => exact ⟨u, .of_ended (calms.phase.symm.trans ended), calms⟩
  | succ steps ih =>
    rcases calms.next with still | moved
    · exact ih still ended
    · obtain ⟨final, finishes, same⟩ := ih moved ended
      exact ⟨final, finishes.of_next, same⟩

theorem start_calms (calms : script.Calms quiet) (config : FrameConfig) (held content : Bytes) :
    (start config held content script).Calms (start config held content quiet) := by
  unfold start
  split
  · exact ⟨rfl, rfl, calms, rfl⟩
  · split
    · exact ⟨rfl, rfl, calms, rfl⟩
    · exact ⟨rfl, rfl, calms, rfl⟩

end Delivery

namespace FrameWriter
variable {σ : Type} [ByteSink σ] {writer : FrameWriter} {held : Bytes} {contents : List Bytes}

/-- The writer sends one message after the other, whatever becomes of each, and goes on with the buffer it is left with. -/
inductive Performs (writer : FrameWriter) : Bytes → σ → List Bytes → List (Delivery σ) → Prop
  | none {held sink} : Performs writer held sink [] []
  | one {held sink content rest d others} (first : (Delivery.start writer.config held content sink).FinishesAs d)
      (later : Performs writer d.buffer d.sink rest others) : Performs writer held sink (content :: rest) (d :: others)

theorem Performs.unique {sink : σ} {first second : List (Delivery σ)} (one : writer.Performs held sink contents first)
    (two : writer.Performs held sink contents second) : first = second := by
  induction one generalizing second with
  | none =>
    cases two
    rfl
  | one finishes later ih =>
    cases two with
    | one finishes' later' =>
      obtain rfl := finishes.unique finishes'
      rw [ih later']

/-- The sends that the steps come to are those of `sendEach`. -/
theorem exists_performs {account : σ → Bytes} (accounts : ByteSink.Account σ account) (writer : FrameWriter)
    (held : Bytes) (contents : List Bytes) (sink : σ) :
    ∃ sendings, writer.Performs held sink contents sendings ∧
      sendings.map Delivery.phase = (writer.sendEach contents sink).1.map .ended ∧
      account (writer.sendEach contents sink).2 = account sink ++ sendings.flatMap Delivery.accepted ∧
      List.Forall₂ (Delivery.Settled writer.config) contents sendings := by
  induction contents generalizing held sink with
  | nil => exact ⟨[], .none, rfl, (List.append_nil _).symm, .nil⟩
  | cons content rest ih =>
    obtain ⟨d, finishes, ended, left⟩ := Delivery.start_finishes writer held content sink
    obtain ⟨others, performs, results, grown, settled⟩ := ih d.buffer d.sink
    refine ⟨d :: others, .one finishes performs, ?_, ?_, .cons (Delivery.settled_of_finishes finishes) settled⟩
    · rw [List.map_cons, ended, results, left]
      rfl
    · obtain ⟨silent, fresh⟩ := Delivery.start_silent writer.config held content sink
      have first : account d.sink = account sink ++ d.accepted := by
        apply Delivery.account_finishes accounts _ finishes
        rw [fresh, Delivery.accepted, silent]
        exact (List.append_nil _).symm
      rw [List.flatMap_cons, ← List.append_assoc, ← first, ← grown, left]
      rfl

theorem Performs.calm {script quiet : WriteScript} {sendings : List (Delivery WriteScript)}
    (performs : writer.Performs held script contents sendings) (calms : script.Calms quiet) :
    ∃ others, writer.Performs held quiet contents others ∧
      sendings.map Delivery.phase = others.map Delivery.phase ∧
      sendings.map Delivery.accepted = others.map Delivery.accepted := by
  induction performs generalizing quiet with
  | none => exact ⟨[], .none, rfl, rfl⟩
  | one finishes later ih =>
    obtain ⟨u, ended, same⟩ := (Delivery.start_calms calms _ _ _).finishes finishes
    obtain ⟨others, performs, phases, parts⟩ := ih same.sink
    rw [same.buffer] at performs
    refine ⟨u :: others, .one ended performs, ?_, ?_⟩
    · rw [List.map_cons, List.map_cons, same.phase, phases]
    · rw [List.map_cons, List.map_cons, same.accepted, parts]

/-- One writer sends any messages one after the other into a stream that answers by any script, with any bytes still
in the writer's buffer at first. Every send comes to an end. The stream gets a front part of the message's own frame,
all of it if the send succeeds, and the results and what the stream gets do not depend on the interruptions. -/
theorem sends_settle (writer : FrameWriter) (held : Bytes) (contents : List Bytes) (script : WriteScript) :
    ∃ sendings : List (Delivery WriteScript),
      (∀ others, writer.Performs held script contents others ↔ others = sendings) ∧
      sendings.map Delivery.phase = (writer.sendEach contents script).1.map .ended ∧
      (writer.sendEach contents script).2.accepted = script.accepted ++ sendings.flatMap Delivery.accepted ∧
      List.Forall₂ (Delivery.Settled writer.config) contents sendings ∧
      ∀ other others, WriteScript.calm other = WriteScript.calm script → writer.Performs held other contents others →
        others.map Delivery.phase = sendings.map Delivery.phase ∧
          others.map Delivery.accepted = sendings.map Delivery.accepted := by
  obtain ⟨sendings, performs, results, grown, settled⟩ :=
    exists_performs WriteScript.account writer held contents script
  refine ⟨sendings, ?_, results, grown, settled, ?_⟩
  · intro others
    constructor
    · intro performs'
      exact performs'.unique performs
    · rintro rfl
      exact performs
  · intro other others same performs'
    obtain ⟨calmed, still, phases, parts⟩ := performs.calm script.calms_calm
    obtain ⟨calmed', still', phases', parts'⟩ := performs'.calm other.calms_calm
    rw [same] at still'
    obtain rfl := still.unique still'
    exact ⟨phases'.trans phases.symm, parts'.trans parts.symm⟩

/-- The first of four sends fails in the middle of its frame, the second finds the stream closed and the third message
is over the limit; the fourth gets its own frame through. Another script differs from this one in its interruptions. -/
theorem sends_settle_after_failures :
    let interrupted := IoError.ofKind .interrupted
    let writer : FrameWriter := ⟨{ maxSize := 5 }⟩
    let contents : List Bytes := [[0x43, 2, 7, 0], [1, 2], [1, 2, 3, 4, 5, 6], [8]]
    let script : WriteScript :=
      ⟨[.accept 3, .error interrupted, .accept 2, .error .brokenPipe, .accept 0], [.error interrupted], [], 0, 0⟩
    let other : WriteScript :=
      ⟨[.error interrupted, .accept 3, .accept 2, .error .brokenPipe, .error interrupted, .accept 0], [], [], 0, 0⟩
    ∃ sendings, writer.Performs [9, 9] script contents sendings ∧
      sendings.map Delivery.phase = [.ended (.error (.io .brokenPipe)), .ended (.error .connectionClosed),
        .ended (.error (.frameTooLarge 6 5)), .ended (.ok ())] ∧
      sendings.flatMap Delivery.accepted = [4, 0, 0, 0, 0x43] ++ [] ++ [] ++ [1, 0, 0, 0, 8] ∧
      ∀ others, writer.Performs [9, 9] other contents others → others.map Delivery.phase = sendings.map Delivery.phase := by
  intro interrupted writer contents script other
  obtain ⟨sendings, performs, results, grown, -, calm⟩ := sends_settle writer [9, 9] contents script
  refine ⟨sendings, (performs sendings).mpr rfl, results, grown.symm, ?_⟩
  intro others performs'
  exact (calm other others rfl performs').1

end FrameWriter
end CallWire
