import CallWire.Proofs.FrameSending

/-! What one end sends is what the other end reads. A sink that goes on accepting gets the frames of all messages
within the limit, and a reader finds them there up to the first that is shorter than a header. -/

namespace CallWire

/-- A sink in this state accepts something of all that is written to it, unless it is interrupted, and stays so. -/
structure ByteSink.Willing (σ : Type) [ByteSink σ] (willing : σ → Prop) : Prop where
  accepted : ∀ content sink count next, willing sink → content ≠ [] → write content sink = (.accepted count, next) →
    0 < count ∧ willing next
  failed : ∀ content sink error next, willing sink → write content sink = (.failed error, next) →
    error.isInterruption = true ∧ willing next
  flushed : ∀ sink next, willing sink → flush sink = (.ok (), next) → willing next
  unflushed : ∀ sink error next, willing sink → flush sink = (.error error, next) →
    error.isInterruption = true ∧ willing next

namespace WriteScript

/-- Every call that the script has an answer for accepts a byte at least, or is interrupted. -/
structure IsSteady (script : WriteScript) : Prop where
  items : ∀ item ∈ script.items, match item with
    | .accept count => 0 < count
    | .error error => error.isInterruption = true
  flushes : ∀ error, .error error ∈ script.flushes → error.isInterruption = true

theorem willing : ByteSink.Willing WriteScript IsSteady where
  accepted := by
    intro content script count next steady some written
    have written : script.write content = (.accepted count, next) := written
    unfold write at written
    split at written
    · cases written
      exact ⟨List.length_pos_iff.mpr some, steady.items, steady.flushes⟩
    · rename_i limit rest front
      cases written
      have positive : 0 < limit := steady.items (.accept limit) (by simp [front])
      have some := List.length_pos_iff.mpr some
      refine ⟨?_, ?_, steady.flushes⟩
      · rw [List.length_take]
        omega
      · intro item member
        exact steady.items item (by simp [front, member])
    · cases written
  failed := by
    intro content script error next steady written
    have written : script.write content = (.failed error, next) := written
    unfold write at written
    split at written
    · cases written
    · cases written
    · rename_i rest front
      cases written
      refine ⟨steady.items (.error error) (by simp [front]), ?_, steady.flushes⟩
      intro item member
      exact steady.items item (by simp [front, member])
  flushed := by
    intro script next steady settled
    have settled : script.flush = (.ok (), next) := settled
    unfold flush at settled
    split at settled
    · cases settled
      exact ⟨steady.items, steady.flushes⟩
    · rename_i rest front
      cases settled
      refine ⟨steady.items, ?_⟩
      intro error member
      exact steady.flushes error (by simp [front, member])
  unflushed := by
    intro script error next steady settled
    have settled : script.flush = (.error error, next) := settled
    unfold flush at settled
    split at settled
    · cases settled
    · rename_i rest front
      cases settled
      refine ⟨steady.flushes error (by simp [front]), steady.items, ?_⟩
      intro other member
      exact steady.flushes other (by simp [front, member])

end WriteScript

namespace FrameWriter
variable {σ : Type} [ByteSink σ] {willing : σ → Prop}

/-- Every call moves a byte or takes weight off the sink, so that calls do not run out. -/
theorem push_willing (wills : ByteSink.Willing σ willing) (calls : Nat) (content : Bytes) (sink : σ)
    (ready : willing sink) (enough : ByteSink.weight sink + content.length ≤ calls) :
    (push calls content sink).1 = .ok () ∧ willing (push calls content sink).2 := by
  fun_induction push calls content sink with
  | case1 calls sink => exact ⟨rfl, ready⟩
  | case2 first rest sink =>
    rw [List.length_cons] at enough
    omega
  | case3 calls content sink some next written =>
    have moved := (wills.accepted _ _ _ _ ready some written).1
    omega
  | case4 calls content sink some count next positive written ih =>
    obtain ⟨moved, ready⟩ := wills.accepted _ _ _ _ ready some written
    apply ih ready
    have lighter : ByteSink.weight next ≤ ByteSink.weight sink := by
      simpa only [written] using ByteSink.write_weight content sink
    have length := List.length_pos_iff.mpr some
    rw [List.length_drop]
    omega
  | case5 calls content sink some error next written again ih =>
    apply ih (wills.failed _ _ _ _ ready written).2
    have lighter : ByteSink.weight next < ByteSink.weight sink := by
      simpa only [written] using ByteSink.write_interrupted content sink error (by rw [written]) again
    omega
  | case6 calls content sink some error next written fatal =>
    exact absurd (wills.failed _ _ _ _ ready written).1 fatal

theorem settle_willing (wills : ByteSink.Willing σ willing) (calls : Nat) (sink : σ) (ready : willing sink)
    (enough : ByteSink.weight sink ≤ calls) :
    (settle calls sink).1 = .ok () ∧ willing (settle calls sink).2 := by
  fun_induction settle calls sink with
  | case1 calls sink _ next flushed => exact ⟨rfl, wills.flushed _ _ ready flushed⟩
  | case2 sink error next flushed again =>
    have lighter := ByteSink.flush_interrupted sink error (by rw [flushed]) again
    omega
  | case3 sink error next flushed again calls ih =>
    apply ih (wills.unflushed _ _ _ ready flushed).2
    have lighter : ByteSink.weight next < ByteSink.weight sink := by
      simpa only [flushed] using ByteSink.flush_interrupted sink error (by rw [flushed]) again
    omega
  | case4 calls sink error next flushed fatal => exact absurd (wills.unflushed _ _ _ ready flushed).1 fatal

theorem send_willing (wills : ByteSink.Willing σ willing) (writer : FrameWriter) {content : Bytes} {sink : σ}
    (ready : willing sink) (fits : content.length ≤ writer.config.maxSize) (short : content.length ≤ maxFrameLength) :
    (writer.send content sink).1 = .ok () ∧ willing (writer.send content sink).2 := by
  have encoded : encodeFrame content = .ok (frameOf content) := if_pos short
  have pushed := push_willing wills (ByteSink.weight sink + (frameOf content).length) (frameOf content) sink ready
    (Nat.le_refl _)
  rw [send, if_neg (Nat.not_lt.mpr fits), encoded]
  simp only
  generalize push (ByteSink.weight sink + (frameOf content).length) (frameOf content) sink = result at pushed
  obtain ⟨result, next⟩ := result
  obtain ⟨rfl, ready⟩ := pushed
  exact settle_willing wills (ByteSink.weight next) next ready (Nat.le_refl _)

/-- Send one message after the other, whatever becomes of each. -/
def sendEach (writer : FrameWriter) : List Bytes → σ → List (Except ChannelError Unit) × σ
  | [], sink => ([], sink)
  | content :: rest, sink =>
    let (result, next) := writer.send content sink
    let (results, last) := sendEach writer rest next
    (result :: results, last)

/-- How sending a message ends if nothing but its size can be wrong. -/
def verdict (limit : Nat) (content : Bytes) : Except ChannelError Unit :=
  if content.length ≤ limit then .ok () else .error (.frameTooLarge content.length limit)

/-- A message within the limit leaves its frame, any other leaves the sink as it was. -/
theorem send_verdict (wills : ByteSink.Willing σ willing) {account : σ → Bytes} (accounts : ByteSink.Account σ account)
    (writer : FrameWriter) (small : writer.config.maxSize ≤ maxFrameLength) (content : Bytes) {sink : σ}
    (ready : willing sink) :
    (writer.send content sink).1 = verdict writer.config.maxSize content ∧
      account (writer.send content sink).2 =
        account sink ++ ([content].filter (·.length ≤ writer.config.maxSize)).flatMap frameOf ∧
      willing (writer.send content sink).2 := by
  by_cases fits : content.length ≤ writer.config.maxSize
  · obtain ⟨sent, ready⟩ := send_willing wills writer ready fits (Nat.le_trans fits small)
    obtain ⟨part, grown, adds⟩ := send_adds accounts writer content sink
    rw [sent] at adds
    cases adds
    refine ⟨?_, ?_, ready⟩
    · rw [sent, verdict, if_pos fits]
    · rw [grown]
      simp [fits]
  · have refused : writer.send content sink =
        (.error (.frameTooLarge content.length writer.config.maxSize), sink) := if_pos (Nat.not_le.mp fits)
    rw [refused, verdict, if_neg fits]
    refine ⟨rfl, ?_, ready⟩
    simp [fits]

theorem sendEach_verdicts (wills : ByteSink.Willing σ willing) {account : σ → Bytes}
    (accounts : ByteSink.Account σ account) (writer : FrameWriter) (small : writer.config.maxSize ≤ maxFrameLength)
    (contents : List Bytes) {sink : σ} (ready : willing sink) :
    (writer.sendEach contents sink).1 = contents.map (verdict writer.config.maxSize) ∧
      account (writer.sendEach contents sink).2 =
        account sink ++ (contents.filter (·.length ≤ writer.config.maxSize)).flatMap frameOf := by
  induction contents generalizing sink with
  | nil => exact ⟨rfl, (List.append_nil _).symm⟩
  | cons content rest ih =>
    obtain ⟨result, grown, ready⟩ := send_verdict wills accounts writer small content ready
    obtain ⟨results, others⟩ := ih ready
    constructor
    · exact congrArg₂ List.cons result results
    · have last : account (writer.sendEach (content :: rest) sink).2 =
          account (writer.sendEach rest (writer.send content sink).2).2 := rfl
      rw [last, others, grown, List.append_assoc, ← List.flatMap_append, ← List.filter_append, List.singleton_append]

end FrameWriter

/-- Frames of proper size are found in front of whatever follows them. -/
theorem framesOf_flatMap {limit : Nat} (small : limit < 2 ^ 32) {front : List Bytes}
    (proper : ∀ content ∈ front, headerSize ≤ content.length ∧ content.length ≤ limit) (rest : Bytes) :
    framesOf limit (front.flatMap frameOf ++ rest) =
      (front ++ (framesOf limit rest).1, (framesOf limit rest).2) := by
  induction front with
  | nil => rfl
  | cons content others ih =>
    obtain ⟨header, fits⟩ := proper content (by simp)
    have decoded : decodeFrame limit ((content :: others).flatMap frameOf ++ rest) =
        .ok (some (content, others.flatMap frameOf ++ rest)) := by
      apply decodeFrame_eq_some.mpr
      refine ⟨by simp, header, fits, by omega⟩
    rw [framesOf_some decoded, ih fun content member => proper content (by simp [member])]
    rfl

theorem framesOf_nil (limit : Nat) : framesOf limit [] = ([], .ok ()) := framesOf_none (decodeFrame_short limit (by decide))

theorem framesOf_short (limit : Nat) {content : Bytes} (short : content.length < headerSize) (rest : Bytes) :
    framesOf limit (frameOf content ++ rest) = ([], .error (.frameTooShort content.length headerSize)) := by
  apply framesOf_error
  apply decodeFrame_eq_error.mpr
  have small : content.length < 2 ^ 32 := Nat.lt_trans short (by decide)
  exact ⟨content.length, content ++ rest, small, by rw [frameOf, List.append_assoc], .inl ⟨short, rfl⟩⟩

/-- A writer and a reader with the same limit, between them a sink that goes on accepting and a source that delivers
what the sink accepted. Just the messages within the limit are sent. The reader gives out all of them and comes to the
end, or those in front of the first that is shorter than a header, and then fails on it. -/
theorem FrameWriter.transfers (writer : FrameWriter) (reader : FrameReader) {limit : Nat} (small : limit < 2 ^ 32)
    (sends : writer.config.maxSize = limit) (receives : reader.config.maxSize = limit) (fresh : reader.buffer = [])
    (contents : List Bytes) {script : WriteScript} (steady : script.IsSteady) :
    let sent := contents.filter (·.length ≤ limit)
    let after := (writer.sendEach contents script).2
    (writer.sendEach contents script).1 = contents.map (verdict limit) ∧
      after.accepted = script.accepted ++ sent.flatMap frameOf ∧
      ∀ source : ReadScript, ReadScript.IsSteady source.items →
        script.accepted ++ ReadScript.contentOf source.items = after.accepted →
        ((∀ content ∈ sent, headerSize ≤ content.length) →
          ∀ frames ending, reader.Drains source frames ending ↔ frames = sent ∧ ending = .ok ()) ∧
        ∀ front short back, sent = front ++ short :: back → (∀ content ∈ front, headerSize ≤ content.length) →
          short.length < headerSize →
          ∀ frames ending, reader.Drains source frames ending ↔
            frames = front ∧ ending = .error (.frameTooShort short.length headerSize) := by
  subst sends
  intro sent after
  obtain ⟨results, written⟩ := sendEach_verdicts WriteScript.willing WriteScript.account writer
    (Nat.le_of_lt_succ small) contents steady
  refine ⟨results, written, ?_⟩
  intro source calm delivers
  have content : ReadScript.contentOf source.items = sent.flatMap frameOf :=
    List.append_cancel_left (delivers.trans written)
  have within : ∀ content ∈ sent, content.length ≤ writer.config.maxSize := by
    intro content member
    simpa using (List.mem_filter.mp member).2
  -- With the delivered bytes known, what is drained is a matter of cutting them into frames.
  have drains : ∀ {frames ending}, reader.Drains source frames ending ↔
      framesOf writer.config.maxSize (sent.flatMap frameOf) = (frames, ending) := by
    intro frames ending
    rw [FrameReader.drains_iff ReadScript.conveyor reader source ⟨calm, rfl⟩, receives, fresh, content, List.nil_append]
  constructor
  · intro long frames ending
    have found := framesOf_flatMap small (fun content member => ⟨long content member, within content member⟩) []
    rw [List.append_nil, framesOf_nil, List.append_nil] at found
    rw [drains, found, Prod.mk.injEq, eq_comm, @eq_comm _ _ ending]
  · intro front short back split long less frames ending
    have members : ∀ content ∈ front, content ∈ sent := by
      intro content member
      rw [split]
      exact List.mem_append_left _ member
    have proper : ∀ content ∈ front, headerSize ≤ content.length ∧ content.length ≤ writer.config.maxSize :=
      fun content member => ⟨long content member, within content (members content member)⟩
    have found := framesOf_flatMap small proper (frameOf short ++ back.flatMap frameOf)
    rw [framesOf_short _ less, List.append_nil] at found
    rw [drains, split, List.flatMap_append, List.flatMap_cons, found, Prod.mk.injEq, eq_comm, @eq_comm _ _ ending]

/-- Of three messages one is over the limit and one has no room for a header; writes are partial and interrupted. -/
theorem FrameWriter.transfers_of_partial_writes :
    let interrupted := IoError.ofKind .interrupted
    let writer : FrameWriter := ⟨{ maxSize := 5 }⟩
    let reader : FrameReader := { config := { maxSize := 5 } }
    let script : WriteScript := ⟨[.accept 3, .error interrupted, .accept 2], [.error interrupted], [], 0, 0⟩
    let source : ReadScript := ⟨[.data [4, 0, 0], .error interrupted, .data [0, 0x43, 2, 7, 0, 1, 0, 0, 0, 9]], 0⟩
    (writer.sendEach [[0x43, 2, 7, 0], [1, 2, 3, 4, 5, 6], [9]] script).1 =
        [.ok (), .error (.frameTooLarge 6 5), .ok ()] ∧
      reader.Drains source [[0x43, 2, 7, 0]] (.error (.frameTooShort 1 4)) := by
  intro interrupted writer reader script source
  have again : interrupted.isInterruption = true := rfl
  have steady : script.IsSteady := by
    constructor
    · simp [script, again]
    · simp [script, again]
  have calm : ReadScript.IsSteady source.items := by simp [ReadScript.IsSteady, source, again]
  have small : 5 < 2 ^ 32 := by decide
  obtain ⟨results, written, drained⟩ := transfers writer reader small rfl rfl rfl
    [[0x43, 2, 7, 0], [1, 2, 3, 4, 5, 6], [9]] steady
  refine ⟨results, ?_⟩
  have short := (drained source calm (by rw [written]; rfl)).2 [[0x43, 2, 7, 0]] [9] [] rfl (by decide) (by decide)
  exact (short _ _).mpr ⟨rfl, rfl⟩

end CallWire
