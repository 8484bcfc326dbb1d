import CallWire.Channel.Connection
import CallWire.Proofs.MessageStream
import CallWire.Proofs.ReaderConservation

/-! Two drivers of one format. A codec is handed the chunks of a stream and asked for messages after each of them; a
frame reader fetches the chunks itself when it has no complete frame. They deliver the same messages and fail in the
same way, with the same bytes left. -/

namespace CallWire

namespace MessageCodec

def decode (limit : Nat) (buffer : Bytes) : Outcome (Option Message) × Bytes :=
  let (result, rest) := decodeMessage limit buffer
  (.done result, rest)

def decodeLast (limit : Nat) (buffer : Bytes) : Outcome (Option Message) × Bytes :=
  let (result, rest) := decodeLastMessage limit buffer
  (.done result, rest)

/-- Handed these chunks behind the buffer, and asked after each of them until it has no more and once more at the end,
the codec delivers these messages. A bad length ends it at once; what is left then includes the chunks to come. -/
inductive Fed (limit : Nat) :
    Bytes → List Bytes → List (Except ChannelError Message) → Except ChannelError Unit → Bytes → Prop
  | chunk {buffer chunk chunks first rest messages ending left}
      (drained : Delivers (decode limit) (buffer ++ chunk) first (.ok ()) rest)
      (others : Fed limit rest chunks messages ending left) :
      Fed limit buffer (chunk :: chunks) (first ++ messages) ending left
  | stopped {buffer chunk chunks messages error rest}
      (failed : Delivers (decode limit) (buffer ++ chunk) messages (.error error) rest) :
      Fed limit buffer (chunk :: chunks) messages (.error error) (rest ++ chunks.flatten)
  | ended {buffer messages ending left} (last : Delivers (decodeLast limit) buffer messages ending left) :
      Fed limit buffer [] messages ending left

theorem Fed.unique {limit : Nat} {buffer : Bytes} {chunks : List Bytes}
    {messages messages' : List (Except ChannelError Message)} {ending ending' : Except ChannelError Unit}
    {left left' : Bytes} (fed : Fed limit buffer chunks messages ending left)
    (other : Fed limit buffer chunks messages' ending' left') :
    messages = messages' ∧ ending = ending' ∧ left = left' := by
  induction fed generalizing messages' with
  | chunk drained others ih =>
    cases other with
    | chunk again more =>
      obtain ⟨rfl, _, rfl⟩ := drained.unique again
      obtain ⟨rfl, same⟩ := ih more
      exact ⟨rfl, same⟩
    | stopped again => cases (drained.unique again).2.1
  | stopped failed =>
    cases other with
    | chunk again more => cases (failed.unique again).2.1
    | stopped again =>
      obtain ⟨rfl, same, rfl⟩ := failed.unique again
      exact ⟨rfl, same, rfl⟩
  | ended last =>
    cases other with
    | ended again => exact last.unique again

theorem decode_answers (limit : Nat) : Answers (decode limit) (fun buffer input => buffer = input) limit fun _ => .ok () where
  ask := by
    rintro buffer _ rfl
    refine ⟨(answerTo limit _ buffer).2, ?_, rfl⟩
    unfold decode decodeMessage answerTo
    cases decodeFrame limit buffer with
    | error error => rfl
    | ok found => cases found <;> rfl
  fatal := by simp

theorem decodeLast_answers (limit : Nat) :
    Answers (decodeLast limit) (fun buffer input => buffer = input) limit betweenFrames where
  ask := by
    rintro buffer _ rfl
    refine ⟨(answerTo limit betweenFrames buffer).2, ?_, rfl⟩
    unfold decodeLast decodeLastMessage decodeMessage answerTo
    cases decodeFrame limit buffer with
    | error error => rfl
    | ok found =>
      cases found with
      | none => cases buffer <;> rfl
      | some found =>
        simp only
        cases messageOfFrame found.1 <;> rfl
  fatal := by
    intro input e
    unfold betweenFrames
    split <;> simp

/-- The chunks make no difference: what is drained from some of them stays in front of what the others complete. -/
theorem exists_fed (limit : Nat) (buffer : Bytes) (chunks : List Bytes) :
    ∃ frames left, Framed limit (buffer ++ chunks.flatten) frames left ∧
      Fed limit buffer chunks (frames.map messageOfFrame) (endOf limit betweenFrames left) left := by
  induction chunks generalizing buffer with
  | nil =>
    obtain ⟨left, framed⟩ := framed_framesOf limit buffer
    obtain ⟨_, delivered, rfl⟩ := (decodeLast_answers limit).delivers framed rfl
    rw [List.flatten_nil, List.append_nil]
    exact ⟨_, _, framed, .ended delivered⟩
  | cons chunk chunks ih =>
    obtain ⟨rest, framed⟩ := framed_framesOf limit (buffer ++ chunk)
    obtain ⟨_, delivered, rfl⟩ := (decode_answers limit).delivers framed rfl
    rw [List.flatten_cons, ← List.append_assoc]
    unfold endOf at delivered
    cases decoded : decodeFrame limit _ with
    | error error =>
      rw [decoded] at delivered
      refine ⟨_, _, framed.append_of_error decoded, ?_⟩
      rw [endOf, decodeFrame_append_error decoded]
      exact .stopped delivered
    | ok found =>
      rw [decoded] at delivered
      obtain ⟨frames, left, later, others⟩ := ih _
      refine ⟨_, left, framed.append later, ?_⟩
      rw [List.map_append]
      exact .chunk delivered others

end MessageCodec

namespace FrameReader
variable {σ : Type} [ByteSource σ]

def asMessage : Outcome (Option Bytes) → Outcome (Option Message)
  | .done (.ok (some frame)) => .done ((messageOfFrame frame).map some)
  | .done (.ok none) => .done (.ok none)
  | .done (.error error) => .done (.error error)
  | .waiting => .waiting

/-- The next frame as a message. -/
def nextMessage (state : FrameReader × σ) : Outcome (Option Message) × FrameReader × σ :=
  let (outcome, next) := state.1.tryRead state.2
  (asMessage outcome, next)

/-- A connection receives its messages in this way. -/
theorem readMessage_eq_nextMessage (c : Connection) (host : Host) :
    c.readMessage host =
      let (outcome, reader, endpoint) := nextMessage (c.reader, host.endpoint c.socket)
      (outcome, { c with reader }, host.setEndpoint c.socket endpoint) := by
  unfold Connection.readMessage nextMessage
  generalize c.reader.tryRead (host.endpoint c.socket) = result
  obtain ⟨outcome, reader, endpoint⟩ := result
  rcases outcome with (_ | _ | _) | _ <;> rfl

/-- An answer in frames is one in messages. -/
theorem asMessage_answer (limit : Nat) (input : Bytes) :
    asMessage (answer limit (.received []) input).1 = .done (answerTo limit betweenFrames input).1 ∧
      (answer limit (.received []) input).2 = (answerTo limit betweenFrames input).2 := by
  unfold answer answerTo
  cases decodeFrame limit input with
  | error error => exact ⟨rfl, rfl⟩
  | ok found =>
    cases found with
    | none => cases input <;> exact ⟨rfl, rfl⟩
    | some found => exact ⟨rfl, rfl⟩

/-- The reader has these bytes in its buffer or still to come. -/
def Holds (config : FrameConfig) (left : Bytes → σ → Prop) (state : FrameReader × σ) (input : Bytes) : Prop :=
  state.1.config = config ∧ ∃ content, state.1.buffer ++ content = input ∧ left content state.2

theorem nextMessage_answers {left : Bytes → σ → Prop} (conveyor : Conveyor σ (.received []) left)
    (config : FrameConfig) : Answers nextMessage (Holds config left) config.maxSize betweenFrames where
  ask := by
    rintro ⟨reader, source⟩ input ⟨rfl, content, rfl, holds⟩
    obtain ⟨later, outcome, same, kept, still⟩ := tryRead_answered conveyor reader source holds
    obtain ⟨message, rest⟩ := asMessage_answer reader.config.maxSize (reader.buffer ++ content)
    refine ⟨(reader.tryRead source).2, ?_, same, later, kept.trans rest, still⟩
    rw [← message, ← outcome]
    rfl
  fatal := (MessageCodec.decodeLast_answers config.maxSize).fatal

end FrameReader

/-- However a stream is cut into chunks, and whichever of the two drivers takes it: every frame is consumed and
delivered in its place, as the message in it or as the failure to be one, and the end is told by what is left, which
for a bad length begins with that length. -/
theorem MessageCodec.agrees_with_reader (reader : FrameReader) (chunks : List Bytes) (script : ReadScript)
    (steady : ReadScript.IsSteady script.items) (same : ReadScript.contentOf script.items = chunks.flatten) :
    let stream := framesOf reader.config.maxSize (reader.buffer ++ chunks.flatten)
    ∃ left : Bytes,
      reader.buffer ++ chunks.flatten = stream.1.flatMap frameOf ++ left ∧
      (∀ frame ∈ stream.1, headerSize ≤ frame.length ∧ frame.length ≤ reader.config.maxSize) ∧
      StreamEnd reader.config.maxSize left stream.2 ∧
      (∀ messages last behind, Fed reader.config.maxSize reader.buffer chunks messages last behind ↔
        messages = stream.1.map messageOfFrame ∧ last = stream.2 ∧ behind = left) ∧
      ∀ messages last behind,
        (∃ state : FrameReader × ReadScript, Delivers FrameReader.nextMessage (reader, script) messages last state ∧
          state.1.buffer ++ ReadScript.contentOf state.2.items = behind) ↔
        messages = stream.1.map messageOfFrame ∧ last = stream.2 ∧ behind = left := by
  obtain ⟨frames, left, framed, fed⟩ := exists_fed reader.config.maxSize reader.buffer chunks
  have answers := FrameReader.nextMessage_answers ReadScript.conveyor reader.config
  have holds : FrameReader.Holds reader.config (fun content script =>
      ReadScript.IsSteady script.items ∧ ReadScript.contentOf script.items = content) (reader, script)
      (reader.buffer ++ chunks.flatten) := ⟨rfl, chunks.flatten, rfl, steady, same⟩
  obtain ⟨last, delivered, _, content, kept, _, rfl⟩ := answers.delivers framed holds
  rw [framed.framesOf_eq]
  refine ⟨left, framed.split, framed.bounds, framed.streamEnd, ?_, ?_⟩
  · intro messages ending behind
    constructor
    · exact fun other => other.unique fed
    · rintro ⟨rfl, rfl, rfl⟩
      exact fed
  · intro messages ending behind
    constructor
    · rintro ⟨state, other, rfl⟩
      obtain ⟨rfl, rfl, rfl⟩ := other.unique delivered
      exact ⟨rfl, rfl, kept⟩
    · rintro ⟨rfl, rfl, rfl⟩
      exact ⟨last, delivered, kept⟩

/-- Between two responses a frame of unknown type, and behind them a length too small for a header. The codec gets three
chunks, the reader a byte, an interruption and the rest. -/
theorem MessageCodec.agrees_with_reader_past_invalid :
    let reader : FrameReader := ⟨[], ⟨16, none, none⟩⟩
    let chunks : List Bytes :=
      [[4, 0, 0, 0, 67, 2, 1], [0, 4, 0, 0, 0, 67, 9, 0, 0, 4, 0, 0, 0, 67, 2, 2, 0, 2, 0], [], [0, 0, 7]]
    let script : ReadScript :=
      ⟨[.data [4], .error (.ofKind .interrupted),
        .data [0, 0, 0, 67, 2, 1, 0, 4, 0, 0, 0, 67, 9, 0, 0, 4, 0, 0, 0, 67, 2, 2, 0, 2, 0, 0, 0, 7]], 0⟩
    let frames : List Bytes := [[67, 2, 1, 0], [67, 9, 0, 0], [67, 2, 2, 0]]
    let ending : Except ChannelError Unit := .error (.frameTooShort 2 4)
    ReadScript.IsSteady script.items ∧ ReadScript.contentOf script.items = chunks.flatten ∧
      (∀ messages last behind, Fed reader.config.maxSize reader.buffer chunks messages last behind ↔
        messages = frames.map messageOfFrame ∧ last = ending ∧ behind = [2, 0, 0, 0, 7]) ∧
      ∀ messages last behind,
        (∃ state : FrameReader × ReadScript, Delivers FrameReader.nextMessage (reader, script) messages last state ∧
          state.1.buffer ++ ReadScript.contentOf state.2.items = behind) ↔
        messages = frames.map messageOfFrame ∧ last = ending ∧ behind = [2, 0, 0, 0, 7] := by
  intro reader chunks script frames ending
  have steady : ReadScript.IsSteady script.items := by
    intro item member
    simp only [script, List.mem_cons, List.not_mem_nil, or_false] at member
    rcases member with rfl | rfl | rfl
    all_goals simp [IoError.isInterruption, IoError.ofKind]
  have stream : framesOf reader.config.maxSize (reader.buffer ++ chunks.flatten) = (frames, ending) := by
    rw [framesOf_some rfl, framesOf_some rfl, framesOf_some rfl, framesOf_error rfl]
    rfl
  obtain ⟨left, split, -, -, fed, pulled⟩ := agrees_with_reader reader chunks script steady rfl
  rw [stream] at split fed pulled
  obtain rfl : [2, 0, 0, 0, 7] = left := (List.append_right_inj (frames.flatMap frameOf)).mp split
  exact ⟨steady, rfl, fed, pulled⟩

end CallWire
