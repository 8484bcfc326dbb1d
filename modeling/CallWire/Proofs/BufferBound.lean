import CallWire.Proofs.ReaderCalls

/-! How much a peer can make a frame reader hold. A buffer that decides nothing is shorter than the largest frame
with its length, and only such a buffer is added to, by one chunk. -/

namespace CallWire

/-- The front of a buffer is no whole frame, and no length that is refused. -/
structure Undecided (limit : Nat) (buffer : Bytes) : Prop where
  incomplete : ∀ frame rest, frame.length < 2 ^ 32 → buffer ≠ frameOf frame ++ rest
  unrefused : ∀ n rest, n < 2 ^ 32 → buffer = Bytes.littleEndian frameLengthWidth n ++ rest → headerSize ≤ n ∧ n ≤ limit

section
variable {limit : Nat} {buffer : Bytes}

theorem undecided_of_decodeFrame (incomplete : decodeFrame limit buffer = .ok none) : Undecided limit buffer := by
  have unrefused : ∀ n rest, n < 2 ^ 32 → buffer = Bytes.littleEndian frameLengthWidth n ++ rest →
      headerSize ≤ n ∧ n ≤ limit := by
    intro n rest small same
    rw [same, decodeFrame_announced limit small] at incomplete
    split at incomplete
    · cases incomplete
    · split at incomplete
      · cases incomplete
      · omega
  refine ⟨?_, unrefused⟩
  intro frame rest small same
  obtain ⟨header, fits⟩ := unrefused frame.length (frame ++ rest) small (same.trans (List.append_assoc ..))
  have whole := decodeFrame_eq_some.mpr ⟨same, header, fits, small⟩
  cases incomplete.symm.trans whole

theorem Undecided.length_le (undecided : Undecided limit buffer) : buffer.length ≤ limit + 3 := by
  by_cases short : buffer.length < frameLengthWidth
  · simp only [frameLengthWidth] at short
    omega
  · obtain ⟨n, rest, small, same⟩ := announced_of_length (Nat.not_lt.mp short)
    have bounds := undecided.unrefused n rest small same
    have partly : rest.length < n := by
      apply Nat.lt_of_not_le
      intro whole
      apply undecided.incomplete (rest.take n) (rest.drop n)
      · rwa [List.length_take_of_le whole]
      · rw [same, frameOf, List.length_take_of_le whole, List.append_assoc, List.take_append_drop]
    rw [same, List.length_append, Bytes.littleEndian_length]
    simp only [frameLengthWidth]
    omega

end

namespace FrameReader
variable {σ : Type} [ByteSource σ]

/-- A source that gives no more than it is asked for adds one chunk to a buffer that decides nothing. -/
theorem Fetch.bounded {reader : FrameReader} {source : σ} {made : List SourceCall}
    {result : Outcome (Option Bytes) × FrameReader × σ} (fetched : Fetch reader source made result)
    (modest : ∀ source : σ, (ByteSource.read readChunkSize source).1.content.length ≤ readChunkSize) :
    (∀ call ∈ made, Undecided reader.config.maxSize call.held ∧ call.outcome.content.length ≤ readChunkSize) ∧
      result.2.1.config = reader.config ∧
      result.2.1.buffer.length ≤ max reader.buffer.length (reader.config.maxSize + 3 + readChunkSize) := by
  induction fetched with
  | refused bad => exact ⟨nofun, rfl, Nat.le_max_left _ _⟩
  | @found reader source frame rest whole =>
    refine ⟨nofun, rfl, ?_⟩
    have shorter := decodeFrame_shrinks whole
    have bound := Nat.le_max_left reader.buffer.length (reader.config.maxSize + 3 + readChunkSize)
    show rest.length ≤ _
    omega
  | @ends reader source outcome next incomplete asked quiet =>
    have within : outcome.content.length ≤ readChunkSize := by
      simpa only [asked] using modest source
    refine ⟨?_, rfl, Nat.le_max_left _ _⟩
    intro call member
    cases List.mem_singleton.mp member
    exact ⟨undecided_of_decodeFrame incomplete, within⟩
  | @goesOn reader source outcome next calls result incomplete asked more rest ih =>
    have undecided := undecided_of_decodeFrame incomplete
    have held := undecided.length_le
    have within : outcome.content.length ≤ readChunkSize := by
      simpa only [asked] using modest source
    obtain ⟨others, config, buffer⟩ := ih
    refine ⟨List.forall_mem_cons.mpr ⟨⟨undecided, within⟩, others⟩, config, ?_⟩
    have bound := Nat.le_max_right reader.buffer.length (reader.config.maxSize + 3 + readChunkSize)
    simp only [List.length_append] at buffer
    omega

end FrameReader

theorem ReadScript.read_length_le (limit : Nat) (r : Recorded ReadScript) :
    (ByteSource.read limit r).1.content.length ≤ limit := by
  show (playItems limit r.source.items).1.content.length ≤ limit
  unfold playItems
  split
  · exact Nat.zero_le _
  · exact Nat.zero_le _
  · split
    · assumption
    · exact List.length_take_le _ _

def ReaderStep.raises (most : Nat) : ReaderStep → Nat
  | .configure config => max most config.maxSize
  | _ => most

/-- The largest of the limits that were in effect. -/
def largestLimit (config : FrameConfig) (steps : List ReaderStep) : Nat :=
  steps.foldl ReaderStep.raises config.maxSize

namespace ReaderRun

structure Within (run : ReaderRun) (most : Nat) : Prop where
  limit : run.reader.config.maxSize ≤ most
  buffer : run.reader.buffer.length ≤ most + 3 + readChunkSize

theorem Within.step {run : ReaderRun} {most : Nat} (within : run.Within most) (step : ReaderStep) :
    (run.step step).Within (step.raises most) := by
  obtain ⟨limit, buffer⟩ := within
  have tried : (run.step .tryRead).Within most := by
    obtain ⟨made, fetched⟩ := FrameReader.tryRead_fetches run.reader run.source
    obtain ⟨-, config, bounded⟩ := fetched.bounded (ReadScript.read_length_le readChunkSize)
    constructor
    · show (run.reader.tryRead run.source).2.1.config.maxSize ≤ most
      rwa [config]
    · show (run.reader.tryRead run.source).2.1.buffer.length ≤ most + 3 + readChunkSize
      omega
  cases step with
  | tryRead => exact tried
  | read =>
    rw [step_read]
    exact tried
  | configure config =>
    constructor
    · exact Nat.le_max_right most config.maxSize
    · have raised := Nat.le_max_left most config.maxSize
      show run.reader.buffer.length ≤ max most config.maxSize + 3 + readChunkSize
      omega
  | feed items => exact ⟨limit, buffer⟩

theorem Within.run {start : ReaderRun} {most : Nat} (within : start.Within most) (steps : List ReaderStep) :
    (start.run steps).Within (steps.foldl ReaderStep.raises most) := by
  induction steps generalizing start most with
  | nil => exact within
  | cons step rest ih => exact ih (within.step step)

end ReaderRun

/-- Whatever lengths are announced, in whatever pieces: the stream is read only when nothing is decided, which takes
fewer bytes than the largest frame with its length, and one chunk more is all that is ever held. -/
theorem FrameReader.holds_boundedly (config : FrameConfig) (items : List ReadItem) (steps : List ReaderStep) :
    let run := (ReaderRun.start config items).run steps
    let most := largestLimit config steps
    run.reader.buffer.length ≤ most + 8195 ∧
      ∃ calls, Fetch run.reader run.source calls (run.reader.tryRead run.source) ∧
        ∀ call ∈ calls, call.held.length ≤ most + 3 ∧ Undecided run.reader.config.maxSize call.held ∧
          call.heldAfter.length ≤ most + 8195 := by
  intro run most
  have chunk : readChunkSize = 8192 := rfl
  have start : (ReaderRun.start config items).Within config.maxSize := ⟨Nat.le_refl _, Nat.zero_le _⟩
  obtain ⟨limit, buffer⟩ : run.Within most := start.run steps
  obtain ⟨calls, fetched⟩ := tryRead_fetches run.reader run.source
  refine ⟨by omega, calls, fetched, ?_⟩
  intro call member
  obtain ⟨undecided, within⟩ := (fetched.bounded (ReadScript.read_length_le readChunkSize)).1 call member
  have held := undecided.length_le
  refine ⟨by omega, undecided, ?_⟩
  rw [SourceCall.heldAfter, List.length_append]
  omega

/-- A frame of eight bytes comes under a limit that was raised for it, an interruption amid it; the stream is read
for the rest of it with six bytes held. -/
theorem FrameReader.holds_boundedly_amid_frame :
    let run := (ReaderRun.start { maxSize := 4 } [.data [8, 0, 0, 0, 67], .error (.ofKind .interrupted), .data [2]]).run
      [.tryRead, .configure { maxSize := 8 }]
    let call : SourceCall := ⟨[8, 0, 0, 0, 67], .received [2]⟩
    (∃ calls, Fetch run.reader run.source calls (run.reader.tryRead run.source) ∧ call ∈ calls) ∧
      call.held.length ≤ 8 + 3 ∧ Undecided 8 call.held ∧ call.heldAfter.length ≤ 8 + 8195 := by
  intro run call
  obtain ⟨-, calls, fetched, bounds⟩ := holds_boundedly { maxSize := 4 }
    [.data [8, 0, 0, 0, 67], .error (.ofKind .interrupted), .data [2]] [.tryRead, .configure { maxSize := 8 }]
  have member : call ∈ calls := by
    have made : Fetch run.reader run.source
        [⟨[8, 0, 0, 0, 67], .failed (.ofKind .interrupted)⟩, call, ⟨[8, 0, 0, 0, 67, 2], .received []⟩] _ :=
      .goesOn rfl rfl rfl (.goesOn rfl rfl rfl (.ends rfl rfl rfl))
    rw [(fetched.unique made).1]
    simp
  exact ⟨⟨calls, fetched, member⟩, bounds call member⟩

end CallWire
