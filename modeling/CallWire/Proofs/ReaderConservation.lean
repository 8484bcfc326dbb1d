import CallWire.Proofs.ReaderStream

/-! Reassembly. Whatever a stream delivers is given out in frames or still lies in the reader's buffer, in
order and once, after any sequence of steps and any errors. Without errors the frames do not depend on the
chunks in which they come. -/

namespace CallWire

/-- A source that keeps account of the bytes it has delivered. -/
structure Recorded (σ : Type) where
  source : σ
  delivered : Bytes := []

def ReadOutcome.content : ReadOutcome → Bytes
  | received content => content
  | failed _ | waiting => []

namespace Recorded
variable {σ : Type} [ByteSource σ]

def read (limit : Nat) (r : Recorded σ) : ReadOutcome × Recorded σ :=
  let (outcome, source) := ByteSource.read limit r.source
  (outcome, ⟨source, r.delivered ++ outcome.content⟩)

instance : ByteSource (Recorded σ) where
  read := read
  weight r := ByteSource.weight r.source
  read_lighter limit r := ByteSource.read_lighter limit r.source

theorem read_eq {limit : Nat} {r next : Recorded σ} {outcome : ReadOutcome}
    (read : ByteSource.read limit r = (outcome, next)) :
    ByteSource.read limit r.source = (outcome, next.source) ∧ next.delivered = r.delivered ++ outcome.content := by
  cases read
  exact ⟨rfl, rfl⟩

end Recorded

namespace FrameReader
variable {σ : Type} [ByteSource σ]

/-- The frame that an answer gives out, if any. -/
def givenOut : Outcome (Option Bytes) → List Bytes
  | .done (.ok (some frame)) => [frame]
  | _ => []

/-- Keeping account of a source makes no difference to its reader. -/
theorem pull_recorded (calls : Nat) (reader : FrameReader) (r : Recorded σ) :
    pull calls reader r.source =
      ((pull calls reader r).1, (pull calls reader r).2.1, (pull calls reader r).2.2.source) := by
  fun_induction pull calls reader r with
  | case1 calls reader r error decoded | case2 calls reader r frame rest decoded => rw [pull, decoded]
  | case3 calls reader r incomplete next read =>
    rw [pull, incomplete]
    simp only [(Recorded.read_eq read).1]
  | case4 reader r incomplete error next read again | case6 calls reader r incomplete error next read again =>
    rw [pull, incomplete]
    simp only [(Recorded.read_eq read).1, again, if_true, if_false, Bool.false_eq_true]
  | case5 reader r incomplete error next read again calls ih =>
    rw [pull, incomplete]
    simp only [(Recorded.read_eq read).1, again, if_true]
    exact ih
  | case7 calls reader r incomplete next read empty | case8 calls reader r incomplete next read empty =>
    rw [pull, incomplete]
    simp only [(Recorded.read_eq read).1, empty, if_true, if_false, Bool.false_eq_true]
  | case9 reader r incomplete piece next some read =>
    rw [pull, incomplete]
    simp only [(Recorded.read_eq read).1]
  | case10 reader r incomplete piece next some read calls ih =>
    rw [pull, incomplete]
    simp only [(Recorded.read_eq read).1]
    exact ih

/-- What was delivered before a call, and what the call has the source deliver, is in the frame given out and
in the buffer left. -/
theorem pull_conserves (calls : Nat) (reader : FrameReader) (r : Recorded σ) {before : Bytes}
    (kept : r.delivered = before ++ reader.buffer) :
    (pull calls reader r).2.2.delivered =
      before ++ (givenOut (pull calls reader r).1).flatMap frameOf ++ (pull calls reader r).2.1.buffer := by
  fun_induction pull calls reader r with
  | case1 calls reader r error decoded => simpa [givenOut] using kept
  | case2 calls reader r frame rest decoded =>
    obtain ⟨split, _⟩ := decodeFrame_eq_some.mp decoded
    simpa [givenOut, split] using kept
  | case3 calls reader r incomplete next read | case4 reader r incomplete error next read again
  | case6 calls reader r incomplete error next read fatal | case7 calls reader r incomplete next read empty
  | case8 calls reader r incomplete next read nonempty =>
    have grown := (Recorded.read_eq read).2
    simpa [givenOut, grown, ReadOutcome.content] using kept
  | case5 reader r incomplete error next read again calls ih =>
    apply ih
    have grown := (Recorded.read_eq read).2
    simpa [grown, ReadOutcome.content] using kept
  | case9 reader r incomplete piece next some read =>
    have grown := (Recorded.read_eq read).2
    simp [givenOut, grown, ReadOutcome.content, kept]
  | case10 reader r incomplete piece next some read calls ih =>
    apply ih
    have grown := (Recorded.read_eq read).2
    simp [grown, ReadOutcome.content, kept]

/-- A source keeps no reader waiting that has an answer, and goes on to have one. -/
theorem pull_answers {kept : σ → Prop} (prompt : ∀ limit source, kept source →
      (ByteSource.read limit source).1 ≠ .waiting ∧ kept (ByteSource.read limit source).2)
    (calls : Nat) (reader : FrameReader) {source : σ} (holds : kept source) (enough : ByteSource.weight source ≤ calls) :
    ∃ result, (pull calls reader source).1 = .done result := by
  fun_induction pull calls reader source with
  | case1 | case2 | case6 | case7 | case8 => exact ⟨_, rfl⟩
  | case3 calls reader source incomplete next read => exact absurd (congrArg Prod.fst read) (prompt _ _ holds).1
  | case4 reader source incomplete error next read again =>
    have lighter := ByteSource.lighter_of_interrupted again read
    omega
  | case5 reader source incomplete error next read again calls ih =>
    have lighter := ByteSource.lighter_of_interrupted again read
    have after := (prompt readChunkSize source holds).2
    rw [read] at after
    exact ih after (by omega)
  | case9 reader source incomplete piece next some read =>
    have lighter := ByteSource.lighter_of_received some read
    omega
  | case10 reader source incomplete piece next some read calls ih =>
    have lighter := ByteSource.lighter_of_received some read
    have after := (prompt readChunkSize source holds).2
    rw [read] at after
    exact ih after (by omega)

theorem pull_done (prompt : ∀ limit (source : σ), (ByteSource.read limit source).1 ≠ .waiting)
    (calls : Nat) (reader : FrameReader) (source : σ) (enough : ByteSource.weight source ≤ calls) :
    ∃ result, (pull calls reader source).1 = .done result := by
  have always : ∀ limit (source : σ), True → (ByteSource.read limit source).1 ≠ .waiting ∧ True :=
    fun limit source _ => ⟨prompt limit source, trivial⟩
  exact pull_answers always calls reader trivial enough

/-- What every call to the source preserves, reading preserves. -/
theorem pull_preserves {kept : σ → Prop}
    (step : ∀ limit source, kept source → kept (ByteSource.read limit source).2)
    (calls : Nat) (reader : FrameReader) {source : σ} (holds : kept source) :
    kept (pull calls reader source).2.2 := by
  fun_induction pull calls reader source with
  | case1 | case2 => exact holds
  | case3 calls reader source incomplete next read | case4 reader source incomplete error next read again
  | case6 calls reader source incomplete error next read fatal | case7 calls reader source incomplete next read empty
  | case8 calls reader source incomplete next read nonempty | case9 reader source incomplete piece next some read =>
    have after := step readChunkSize source holds
    rwa [read] at after
  | case5 reader source incomplete error next read again calls ih
  | case10 reader source incomplete piece next some read calls ih =>
    have after := step readChunkSize source holds
    rw [read] at after
    exact ih after

end FrameReader

namespace ReadScript

def contentOf : List ReadItem → Bytes
  | [] => []
  | .data content :: rest => content ++ contentOf rest
  | .error _ :: rest => contentOf rest

/-- A script without empty reads and without errors but interruptions. -/
def IsSteady (items : List ReadItem) : Prop :=
  ∀ item ∈ items, match item with
    | .data content => content ≠ []
    | .error error => error.isInterruption = true

theorem contentOf_append (first second : List ReadItem) :
    contentOf (first ++ second) = contentOf first ++ contentOf second := by
  induction first with
  | nil => rfl
  | cons item rest ih => cases item <;> simp [contentOf, ih]

theorem playItems_content (limit : Nat) (items : List ReadItem) :
    (playItems limit items).1.content ++ contentOf (playItems limit items).2 = contentOf items := by
  cases items with
  | nil => rfl
  | cons item rest =>
    cases item with
    | error error => rfl
    | data content =>
      rw [playItems, contentOf]
      split
      · rfl
      · simp only [ReadOutcome.content, contentOf, ← List.append_assoc, List.take_append_drop]

theorem read_prompt (limit : Nat) (script : ReadScript) : (ByteSource.read limit script).1 ≠ .waiting := by
  show (playItems limit script.items).1 ≠ .waiting
  unfold playItems
  split
  · simp
  · simp
  · split <;> simp

theorem recorded_read_total {total : Bytes} (limit : Nat) (r : Recorded ReadScript)
    (holds : r.delivered ++ contentOf r.source.items = total) :
    (ByteSource.read limit r).2.delivered ++ contentOf (ByteSource.read limit r).2.source.items = total := by
  have content := playItems_content limit r.source.items
  show (r.delivered ++ (playItems limit r.source.items).1.content) ++ contentOf (playItems limit r.source.items).2 = _
  rw [List.append_assoc, content, holds]

theorem conveyor : Conveyor ReadScript (.received []) fun content script =>
    IsSteady script.items ∧ contentOf script.items = content where
  quiet := rfl
  read := by
    rintro limit content ⟨items, calls⟩ asked ⟨steady, rfl⟩
    show ReadOutcome.Conveys _ _ _ ((playItems limit items).1, (⟨(playItems limit items).2, calls + 1⟩ : ReadScript))
    cases items with
    | nil => exact .ending rfl ⟨steady, rfl⟩
    | cons item rest =>
      have others : IsSteady rest := fun other member => steady other (by simp [member])
      have first := steady item (by simp)
      cases item with
      | error error => exact .interruption first ⟨others, rfl⟩
      | data content =>
        rw [playItems]
        split
        · exact .chunk first rfl ⟨others, rfl⟩
        -- A piece longer than the limit is cut, and its rest is not empty.
        · rename_i long
          have some : content.take limit ≠ [] := by
            simp [first]
            omega
          have remains : content.drop limit ≠ [] := by
            simp
            omega
          have split : contentOf (.data content :: rest) =
              content.take limit ++ contentOf (.data (content.drop limit) :: rest) := by
            simp only [contentOf, ← List.append_assoc, List.take_append_drop]
          refine .chunk some split ⟨?_, rfl⟩
          intro other member
          rcases List.mem_cons.mp member with rfl | member
          · exact remains
          · exact others other member

end ReadScript

inductive ReaderStep
  | tryRead
  | read
  | configure (config : FrameConfig)
  | feed (items : List ReadItem)

/-- A frame reader, its source, and the frames it has given out so far. -/
structure ReaderRun where
  reader : FrameReader
  source : Recorded ReadScript
  frames : List Bytes := []

namespace ReaderRun

def start (config : FrameConfig) (items : List ReadItem) : ReaderRun := ⟨{ config }, ⟨⟨items, 0⟩, []⟩, []⟩

def step (run : ReaderRun) : ReaderStep → ReaderRun
  | .tryRead =>
    let (outcome, reader, source) := run.reader.tryRead run.source
    ⟨reader, source, run.frames ++ FrameReader.givenOut outcome⟩
  | .read =>
    let (outcome, reader, source) := run.reader.read run.source
    let given := match outcome with
      | .done (.ok frame) => [frame]
      | _ => []
    ⟨reader, source, run.frames ++ given⟩
  | .configure config => { run with reader := { run.reader with config } }
  | .feed items => { run with source.source.items := run.source.source.items ++ items }

def run (start : ReaderRun) (steps : List ReaderStep) : ReaderRun := steps.foldl step start

/-- The items that the steps add to the script. -/
def fed (steps : List ReaderStep) : List ReadItem :=
  steps.flatMap fun
    | .feed items => items
    | _ => []

/-- Asking for a frame that has to come gives out what asking for one that may come does. -/
theorem step_read (run : ReaderRun) : run.step .read = run.step .tryRead := by
  unfold step FrameReader.read
  generalize run.reader.tryRead run.source = result
  obtain ⟨outcome, reader, source⟩ := result
  rcases outcome with (_ | _ | _) | _ <;> rfl

/-- The bytes delivered are those of the frames given out and of the buffer, and with the bytes left they
are all that was fed in. -/
structure Conserved (run : ReaderRun) (total : Bytes) : Prop where
  delivered : run.source.delivered = run.frames.flatMap frameOf ++ run.reader.buffer
  total : run.source.delivered ++ ReadScript.contentOf run.source.source.items = total

theorem Conserved.step {run : ReaderRun} {total : Bytes} (conserved : run.Conserved total) (step : ReaderStep) :
    (run.step step).Conserved (total ++ ReadScript.contentOf (fed [step])) := by
  have tried : (run.step .tryRead).Conserved total := by
    constructor
    · have moved := FrameReader.pull_conserves (ByteSource.weight run.source) run.reader run.source conserved.delivered
      simpa only [ReaderRun.step, FrameReader.tryRead, List.flatMap_append] using moved
    · exact FrameReader.pull_preserves ReadScript.recorded_read_total (ByteSource.weight run.source) run.reader
        conserved.total
  cases step with
  | tryRead => simpa [fed, ReadScript.contentOf] using tried
  | read => simpa [fed, ReadScript.contentOf, step_read] using tried
  | configure config =>
    rw [show total ++ ReadScript.contentOf (fed [.configure config]) = total from List.append_nil total]
    exact ⟨conserved.delivered, conserved.total⟩
  | feed items =>
    refine ⟨conserved.delivered, ?_⟩
    simp only [ReaderRun.step, fed, List.flatMap_cons, List.flatMap_nil, List.append_nil,
      ReadScript.contentOf_append, ← List.append_assoc, conserved.total]

theorem fed_cons (step : ReaderStep) (steps : List ReaderStep) : fed (step :: steps) = fed [step] ++ fed steps := by
  simp [fed]

theorem Conserved.run {start : ReaderRun} {total : Bytes} (conserved : start.Conserved total)
    (steps : List ReaderStep) : (start.run steps).Conserved (total ++ ReadScript.contentOf (fed steps)) := by
  induction steps generalizing start total with
  | nil => simpa [ReaderRun.run, fed, ReadScript.contentOf] using conserved
  | cons step rest ih =>
    rw [fed_cons, ReadScript.contentOf_append, ← List.append_assoc]
    exact ih (conserved.step step)

theorem conserved_start (config : FrameConfig) (items : List ReadItem) :
    (start config items).Conserved (ReadScript.contentOf items) := ⟨rfl, rfl⟩

end ReaderRun

/-- The ways in which the frames of a stream can come to an end. -/
inductive FrameEnd (limit : Nat) : Except ChannelError Unit → Prop
  | clean : FrameEnd limit (.ok ())
  | inside : FrameEnd limit (.error .connectionClosed)
  | short {n} (less : n < headerSize) : FrameEnd limit (.error (.frameTooShort n headerSize))
  | large {n} (more : limit < n) : FrameEnd limit (.error (.frameTooLarge n limit))

theorem framesOf_end (limit : Nat) (input : Bytes) : FrameEnd limit (framesOf limit input).2 := by
  fun_induction framesOf limit input with
  | case1 input error decoded =>
    obtain ⟨n, rest, small, rfl, ⟨less, rfl⟩ | ⟨_, more, rfl⟩⟩ := decodeFrame_eq_error.mp decoded
    · exact .short less
    · exact .large more
  | case2 input decoded =>
    split
    · exact .clean
    · exact .inside
  | case3 input frame rest decoded later ih => exact ih

/-- A frame reader over a script neither loses nor repeats nor reorders a byte, whatever its owner does and
whatever goes wrong, and answers every call. Over scripts that deliver the same bytes without an error but
interruptions it gives out the same frames, those of these bytes, and comes to the same end. -/
theorem FrameReader.reassembles :
    (∀ config items steps,
      let run := (ReaderRun.start config items).run steps
      run.source.delivered = run.frames.flatMap frameOf ++ run.reader.buffer ∧
        run.source.delivered ++ ReadScript.contentOf run.source.source.items =
          ReadScript.contentOf (items ++ ReaderRun.fed steps)) ∧
    (∀ (reader : FrameReader) (r : Recorded ReadScript),
      (∃ result, (reader.tryRead r).1 = .done result) ∧
        reader.tryRead r.source = ((reader.tryRead r).1, (reader.tryRead r).2.1, (reader.tryRead r).2.2.source)) ∧
    ∀ (reader : FrameReader) (first second : ReadScript),
      ReadScript.IsSteady first.items → ReadScript.IsSteady second.items →
      ReadScript.contentOf first.items = ReadScript.contentOf second.items →
      let stream := framesOf reader.config.maxSize (reader.buffer ++ ReadScript.contentOf first.items)
      FrameEnd reader.config.maxSize stream.2 ∧
        ∀ script ∈ [first, second], ∀ found last,
          Drains reader script found last ↔ found = stream.1 ∧ last = stream.2 := by
  refine ⟨?_, ?_, ?_⟩
  · intro config items steps run
    have conserved := (ReaderRun.conserved_start config items).run steps
    refine ⟨conserved.delivered, ?_⟩
    rw [ReadScript.contentOf_append]
    exact conserved.total
  · intro reader r
    have prompt : ∀ limit (r : Recorded ReadScript), (ByteSource.read limit r).1 ≠ .waiting :=
      fun limit r => ReadScript.read_prompt limit r.source
    exact ⟨pull_done prompt _ reader r (Nat.le_refl _), pull_recorded _ reader r⟩
  · intro reader first second steady steady' same stream
    -- Both scripts drain to the frames of the same bytes, however these were cut up.
    refine ⟨framesOf_end .., ?_⟩
    intro script member found last
    have holds : ReadScript.IsSteady script.items ∧
        ReadScript.contentOf script.items = ReadScript.contentOf first.items := by
      simp only [List.mem_cons, List.not_mem_nil, or_false] at member
      rcases member with rfl | rfl
      · exact ⟨steady, rfl⟩
      · exact ⟨steady', same.symm⟩
    rw [drains_iff ReadScript.conveyor reader script holds]
    exact ⟨fun equal => by simp [stream, equal], fun equal => by simp [stream, equal]⟩

/-- Two frames in one chunk, and again a byte at a time with an interruption within the first length. -/
theorem FrameReader.reassembles_two_frames :
    let reader : FrameReader := {}
    let first : ReadScript := ⟨[.data [4, 0, 0, 0, 67, 2, 1, 0, 4, 0, 0, 0, 67, 2, 2, 0]], 0⟩
    let second : ReadScript :=
      ⟨[.data [4], .error (.ofKind .interrupted), .data [0, 0, 0, 67, 2, 1, 0, 4, 0], .data [0, 0, 67, 2, 2], .data [0]], 0⟩
    ReadScript.IsSteady first.items ∧ ReadScript.IsSteady second.items ∧
      ReadScript.contentOf first.items = ReadScript.contentOf second.items ∧
      ∀ script ∈ [first, second], ∀ found last,
        Drains reader script found last ↔ found = [[67, 2, 1, 0], [67, 2, 2, 0]] ∧ last = .ok () := by
  intro reader first second
  have steady : ReadScript.IsSteady first.items := by
    intro item member
    simp only [first, List.mem_cons, List.not_mem_nil, or_false] at member
    subst member
    simp
  have steady' : ReadScript.IsSteady second.items := by
    intro item member
    simp only [second, List.mem_cons, List.not_mem_nil, or_false] at member
    rcases member with rfl | rfl | rfl | rfl | rfl
    all_goals simp [IoError.isInterruption, IoError.ofKind]
  have frames : framesOf reader.config.maxSize (reader.buffer ++ ReadScript.contentOf first.items) =
      ([[67, 2, 1, 0], [67, 2, 2, 0]], .ok ()) := by
    rw [framesOf_some rfl, framesOf_some rfl, framesOf_none rfl]
    rfl
  obtain ⟨-, drains⟩ := reassembles.2.2 reader first second steady steady' rfl
  rw [frames] at drains
  exact ⟨steady, steady', rfl, drains⟩

end CallWire
