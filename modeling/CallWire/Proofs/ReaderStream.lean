import CallWire.Frame.Reader
import CallWire.Proofs.FrameDecoding

/-! A frame reader over a source whose remaining bytes are known. What it answers is determined by its
buffer and those bytes together; in which chunks they come, and how often the source is interrupted,
makes no difference. -/

namespace CallWire

/-- What a source with these bytes left may do when it is asked. After the last byte every call ends
in the same way. -/
inductive ReadOutcome.Conveys {σ : Type} (ending : ReadOutcome) (left : Bytes → σ → Prop) (content : Bytes) :
    ReadOutcome × σ → Prop where
  | chunk {piece rest next} (some : piece ≠ []) (split : content = piece ++ rest) (later : left rest next) :
      Conveys ending left content (.received piece, next)
  | interruption {error next} (again : error.isInterruption = true) (later : left content next) :
      Conveys ending left content (.failed error, next)
  | ending {next} (empty : content = []) (later : left [] next) : Conveys ending left content (ending, next)

/-- A way to tell how many bytes a source has left. -/
structure Conveyor (σ : Type) [ByteSource σ] (ending : ReadOutcome) (left : Bytes → σ → Prop) : Prop where
  read : ∀ limit content source, 0 < limit → left content source →
    ending.Conveys left content (ByteSource.read limit source)
  quiet : ending.invitesAnother = false

section
variable {σ : Type} [ByteSource σ] {ending : ReadOutcome} {left : Bytes → σ → Prop}

theorem ByteSource.lighter_of_received {limit : Nat} {piece : Bytes} {source next : σ} (some : piece ≠ [])
    (read : ByteSource.read limit source = (.received piece, next)) : weight next < weight source := by
  have lighter := read_lighter limit source
  rw [read] at lighter
  exact lighter (by simpa [ReadOutcome.invitesAnother] using some)

theorem ByteSource.lighter_of_interrupted {limit : Nat} {error : IoError} {source next : σ}
    (again : error.isInterruption = true) (read : ByteSource.read limit source = (.failed error, next)) :
    weight next < weight source := by
  have lighter := read_lighter limit source
  rw [read] at lighter
  exact lighter again

theorem Conveyor.received (conveyor : Conveyor σ ending left) {limit : Nat} {content piece : Bytes} {source next : σ}
    (asked : 0 < limit) (holds : left content source) (some : piece ≠ [])
    (read : ByteSource.read limit source = (.received piece, next)) :
    ∃ rest, content = piece ++ rest ∧ left rest next := by
  have conveyed := conveyor.read limit content source asked holds
  rw [read] at conveyed
  cases conveyed with
  | chunk _ split later => exact ⟨_, split, later⟩
  | ending =>
    have quiet := conveyor.quiet
    simp [ReadOutcome.invitesAnother, some] at quiet

theorem Conveyor.interrupted (conveyor : Conveyor σ ending left) {limit : Nat} {content : Bytes} {source next : σ}
    {error : IoError} (asked : 0 < limit) (holds : left content source) (again : error.isInterruption = true)
    (read : ByteSource.read limit source = (.failed error, next)) : left content next := by
  have conveyed := conveyor.read limit content source asked holds
  rw [read] at conveyed
  cases conveyed with
  | interruption _ later => exact later
  | ending =>
    have quiet := conveyor.quiet
    simp [ReadOutcome.invitesAnother, again] at quiet

theorem Conveyor.ended (conveyor : Conveyor σ ending left) {limit : Nat} {content : Bytes} {source next : σ}
    {outcome : ReadOutcome} (asked : 0 < limit) (holds : left content source)
    (quiet : outcome.invitesAnother = false) (read : ByteSource.read limit source = (outcome, next)) :
    outcome = ending ∧ content = [] ∧ left [] next := by
  have conveyed := conveyor.read limit content source asked holds
  rw [read] at conveyed
  cases conveyed with
  | chunk some => simp [ReadOutcome.invitesAnother, some] at quiet
  | interruption again => simp [ReadOutcome.invitesAnother, again] at quiet
  | ending empty later => exact ⟨rfl, empty, later⟩

end

namespace FrameReader
variable {σ : Type}

/-- What a reader answers that has these bytes and can get no more. -/
def atEnd (ending : ReadOutcome) (input : Bytes) : Outcome (Option Bytes) :=
  match ending with
  | .received _ => if input.isEmpty then .done (.ok none) else .done (.error .connectionClosed)
  | .failed error => .done (.error (.io error))
  | .waiting => .waiting

/-- The answer to all bytes there are, and those that remain. -/
def answer (limit : Nat) (ending : ReadOutcome) (input : Bytes) : Outcome (Option Bytes) × Bytes :=
  match decodeFrame limit input with
  | .error error => (.done (.error error), input)
  | .ok none => (atEnd ending input, input)
  | .ok (some (frame, rest)) => (.done (.ok (some frame)), rest)

/-- The reader answered as to all bytes there are, and what remains of them is in its buffer or still
to come. -/
def Answered (left : Bytes → σ → Prop) (config : FrameConfig) (expected : Outcome (Option Bytes) × Bytes)
    (result : Outcome (Option Bytes) × FrameReader × σ) : Prop :=
  ∃ content, result.1 = expected.1 ∧ result.2.1.config = config ∧
    result.2.1.buffer ++ content = expected.2 ∧ left content result.2.2

private theorem answered_at_end {left : Bytes → σ → Prop} {ending : ReadOutcome} {reader : FrameReader} {next : σ}
    {outcome : Outcome (Option Bytes)} (incomplete : decodeFrame reader.config.maxSize reader.buffer = .ok none)
    (same : atEnd ending reader.buffer = outcome) (later : left [] next) :
    Answered left reader.config (answer reader.config.maxSize ending (reader.buffer ++ []))
      (outcome, reader, next) := by
  rw [answer, List.append_nil, incomplete]
  exact ⟨[], same.symm, rfl, List.append_nil _, later⟩

variable [ByteSource σ]

/-- The induction is on the calls that the source's weight allows; a call after which the reader goes on
has moved bytes into the buffer or was interrupted, and neither changes the two together. -/
theorem pull_answered {ending : ReadOutcome} {left : Bytes → σ → Prop} (conveyor : Conveyor σ ending left)
    (calls : Nat) (reader : FrameReader) (source : σ) {content : Bytes} (holds : left content source)
    (enough : ByteSource.weight source ≤ calls) :
    Answered left reader.config (answer reader.config.maxSize ending (reader.buffer ++ content))
      (pull calls reader source) := by
  have asked : 0 < readChunkSize := by decide
  fun_induction pull calls reader source generalizing content with
  | case1 calls reader source error decoded =>
    have all := decodeFrame_append_error decoded content
    exact ⟨content, by simp [answer, all], rfl, by simp [answer, all], holds⟩
  | case2 calls reader source frame rest decoded =>
    have all := decodeFrame_append_some decoded content
    exact ⟨content, by simp [answer, all], rfl, by simp [answer, all], holds⟩
  | case3 calls reader source incomplete next read =>
    obtain ⟨rfl, rfl, later⟩ := conveyor.ended asked holds rfl read
    exact answered_at_end incomplete rfl later
  | case4 reader source incomplete error next read again =>
    have lighter := ByteSource.lighter_of_interrupted again read
    omega
  | case5 reader source incomplete error next read again calls ih =>
    have lighter := ByteSource.lighter_of_interrupted again read
    exact ih (conveyor.interrupted asked holds again read) (by omega)
  | case6 calls reader source incomplete error next read fatal =>
    obtain ⟨rfl, rfl, later⟩ := conveyor.ended asked holds (by simpa [ReadOutcome.invitesAnother] using fatal) read
    exact answered_at_end incomplete rfl later
  | case7 calls reader source incomplete next read empty =>
    obtain ⟨rfl, rfl, later⟩ := conveyor.ended asked holds rfl read
    exact answered_at_end incomplete (if_pos empty) later
  | case8 calls reader source incomplete next read nonempty =>
    obtain ⟨rfl, rfl, later⟩ := conveyor.ended asked holds rfl read
    exact answered_at_end incomplete (if_neg nonempty) later
  | case9 reader source incomplete piece next some read =>
    have lighter := ByteSource.lighter_of_received some read
    omega
  | case10 reader source incomplete piece next some read calls ih =>
    have lighter := ByteSource.lighter_of_received some read
    obtain ⟨rest, rfl, later⟩ := conveyor.received asked holds some read
    have moved := ih later (by omega)
    rwa [List.append_assoc] at moved

theorem tryRead_answered {ending : ReadOutcome} {left : Bytes → σ → Prop} (conveyor : Conveyor σ ending left)
    (reader : FrameReader) (source : σ) {content : Bytes} (holds : left content source) :
    Answered left reader.config (answer reader.config.maxSize ending (reader.buffer ++ content))
      (reader.tryRead source) :=
  pull_answered conveyor _ reader source holds (Nat.le_refl _)

/-- Asking again and again gives these frames, and then this end. -/
inductive Drains : FrameReader → σ → List Bytes → Except ChannelError Unit → Prop
  | frame {reader source frame next later frames ending}
      (one : tryRead reader source = (.done (.ok (some frame)), next, later))
      (others : Drains next later frames ending) : Drains reader source (frame :: frames) ending
  | finished {reader source next later} (none : tryRead reader source = (.done (.ok none), next, later)) :
      Drains reader source [] (.ok ())
  | failed {reader source error next later} (one : tryRead reader source = (.done (.error error), next, later)) :
      Drains reader source [] (.error error)

theorem Drains.unique {reader : FrameReader} {source : σ} {first second : List Bytes}
    {one other : Except ChannelError Unit} (left : Drains reader source first one)
    (right : Drains reader source second other) : first = second ∧ one = other := by
  induction left generalizing second with
  | frame given others ih =>
    cases right with
    | frame again more =>
      cases given.symm.trans again
      obtain ⟨rfl, same⟩ := ih more
      exact ⟨rfl, same⟩
    | finished again | failed again => cases given.symm.trans again
  | finished given =>
    cases right with
    | finished => exact ⟨rfl, rfl⟩
    | frame again | failed again => cases given.symm.trans again
  | failed given =>
    cases right with
    | failed again =>
      cases given.symm.trans again
      exact ⟨rfl, rfl⟩
    | frame again | finished again => cases given.symm.trans again

/-- Every frame shortens what buffer and source hold together, so the end is reached. -/
theorem drains_framesOf {left : Bytes → σ → Prop} (conveyor : Conveyor σ (.received []) left)
    (reader : FrameReader) (source : σ) {content : Bytes} (holds : left content source) :
    Drains reader source (framesOf reader.config.maxSize (reader.buffer ++ content)).1
      (framesOf reader.config.maxSize (reader.buffer ++ content)).2 := by
  generalize size : (reader.buffer ++ content).length = n
  induction n using Nat.strongRecOn generalizing reader source content with
  | ind n ih =>
    obtain ⟨later, outcome, config, remains, left⟩ := tryRead_answered conveyor reader source holds
    generalize given : reader.tryRead source = result at outcome config remains left
    obtain ⟨answered, next, after⟩ := result
    simp only [answer] at outcome remains
    cases decoded : decodeFrame reader.config.maxSize (reader.buffer ++ content) with
    | error error =>
      rw [decoded] at outcome
      subst outcome
      rw [framesOf_error decoded]
      exact .failed given
    | ok found =>
      cases found with
      | none =>
        rw [decoded] at outcome
        simp only [atEnd] at outcome
        rw [framesOf_none decoded]
        split at outcome
        · subst outcome
          rw [if_pos ‹_›]
          exact .finished given
        · subst outcome
          rw [if_neg ‹_›]
          exact .failed given
      | some found =>
        obtain ⟨frame, rest⟩ := found
        rw [decoded] at outcome remains
        change next.buffer ++ later = rest at remains
        subst outcome
        have shorter := decodeFrame_shrinks decoded
        have others := ih (next.buffer ++ later).length (by rw [remains]; omega) next after left rfl
        rw [config, remains] at others
        rw [framesOf_some decoded]
        exact .frame given others

theorem drains_iff {left : Bytes → σ → Prop} (conveyor : Conveyor σ (.received []) left)
    (reader : FrameReader) (source : σ) {content : Bytes} (holds : left content source) {frames : List Bytes}
    {ending : Except ChannelError Unit} :
    Drains reader source frames ending ↔
      framesOf reader.config.maxSize (reader.buffer ++ content) = (frames, ending) := by
  have drained := drains_framesOf conveyor reader source holds
  constructor
  · intro other
    obtain ⟨rfl, rfl⟩ := drained.unique other
    rfl
  · intro same
    rwa [same] at drained

end FrameReader
end CallWire
