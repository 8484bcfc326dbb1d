import CallWire.Proofs.ReaderCalls

/-! A length that is refused stays in front of the reader, and nothing behind it is read or lost. Under a limit raised
for it the reader goes on as one that had this limit all along: the calls that were refused did a part of the work of
the next one. -/

namespace CallWire

def lengthRefusal (limit n : Nat) : ChannelError :=
  if n < headerSize then .frameTooShort n headerSize else .frameTooLarge n limit

theorem decodeFrame_refused {limit n : Nat} (small : n < 2 ^ 32) (bad : n < headerSize ∨ limit < n) (rest : Bytes) :
    decodeFrame limit (Bytes.littleEndian frameLengthWidth n ++ rest) = .error (lengthRefusal limit n) := by
  rw [decodeFrame_announced limit small, lengthRefusal]
  split
  · rfl
  · rw [if_pos (by omega)]

/-- A limit that does not refuse the length at the front of the buffer, if there is one, for its size. -/
def Admits (limit : Nat) (buffer : Bytes) : Prop :=
  ∀ n rest, n < 2 ^ 32 → buffer = Bytes.littleEndian frameLengthWidth n ++ rest → n ≤ limit

section
variable {limit raised : Nat} {buffer frame rest : Bytes}

theorem Admits.of_append {more : Bytes} (admits : Admits limit (buffer ++ more)) : Admits limit buffer := by
  intro n rest small same
  apply admits n (rest ++ more) small
  rw [same, List.append_assoc]

/-- The length at the front is the only one. -/
theorem admits_announced {n : Nat} (small : n < 2 ^ 32) (fits : n ≤ limit) (rest : Bytes) :
    Admits limit (Bytes.littleEndian frameLengthWidth n ++ rest) := by
  intro other content small' same
  have width : (Bytes.littleEndian frameLengthWidth n).length = (Bytes.littleEndian frameLengthWidth other).length := by
    rw [Bytes.littleEndian_length, Bytes.littleEndian_length]
  have equal := congrArg Bytes.value (List.append_inj same width).1
  rw [Bytes.value_littleEndian_of_lt small, Bytes.value_littleEndian_of_lt small'] at equal
  omega

theorem admits_of_decodeFrame (whole : decodeFrame limit buffer = .ok (some (frame, rest))) : Admits limit buffer := by
  intro n content small same
  rw [same, decodeFrame_announced limit small] at whole
  split at whole
  · cases whole
  · split at whole
    · cases whole
    · omega

theorem Admits.incomplete (admits : Admits raised buffer) (incomplete : decodeFrame limit buffer = .ok none) :
    decodeFrame raised buffer = .ok none := by
  by_cases short : buffer.length < frameLengthWidth
  · exact decodeFrame_short raised short
  · obtain ⟨n, content, small, same⟩ := announced_of_length (Nat.not_lt.mp short)
    have fits := admits n content small same
    rw [same, decodeFrame_announced limit small] at incomplete
    rw [same, decodeFrame_announced raised small]
    split at incomplete
    · cases incomplete
    · rename_i header
      rw [if_neg header, if_neg (Nat.not_lt.mpr fits)]
      split at incomplete
      · cases incomplete
      · exact incomplete

theorem decodeFrame_raised (whole : decodeFrame limit buffer = .ok (some (frame, rest)))
    (fits : frame.length ≤ raised) : decodeFrame raised buffer = .ok (some (frame, rest)) := by
  obtain ⟨same, header, _, small⟩ := decodeFrame_eq_some.mp whole
  exact decodeFrame_eq_some.mpr ⟨same, header, fits, small⟩

end

/-- The ways to ask for a frame: one that may come, and one that has to. -/
inductive ReaderCall
  | tryRead
  | read
  deriving DecidableEq, Repr

def Outcome.optional {α : Type} : Outcome α → Outcome (Option α)
  | .done result => .done (result.map some)
  | .waiting => .waiting

inductive ReaderUse
  | call (call : ReaderCall)
  | configure (config : FrameConfig)

abbrev ReaderLog := List (ReaderCall × Outcome (Option Bytes))

namespace FrameReader

def isOversize : Outcome (Option Bytes) → Bool
  | .done (.error (.frameTooLarge ..)) => true
  | _ => false

def framesIn (log : ReaderLog) : List Bytes := log.flatMap fun entry => givenOut entry.2

/-- The calls that were not refused for the size of a frame. -/
def unrefused (log : ReaderLog) : ReaderLog := log.filter fun entry => !isOversize entry.2

def callsOf (log : ReaderLog) : List ReaderUse := log.map fun entry => .call entry.1

variable {σ : Type} [ByteSource σ]

def make (call : ReaderCall) (reader : FrameReader) (source : σ) : Outcome (Option Bytes) × FrameReader × σ :=
  match call with
  | .tryRead => reader.tryRead source
  | .read =>
    let (outcome, after) := reader.read source
    (outcome.optional, after)

/-- Use a reader again and again, with the answer to every call. -/
def run : List ReaderUse → FrameReader → σ → ReaderLog × FrameReader × σ
  | [], reader, source => ([], reader, source)
  | .configure config :: uses, reader, source => run uses { reader with config } source
  | .call call :: uses, reader, source =>
    let (outcome, reader, source) := make call reader source
    let (answers, last) := run uses reader source
    ((call, outcome) :: answers, last)

/-- What the answer to a call becomes for one who needs a frame. -/
def receives : ReaderCall → Outcome (Option Bytes) → Outcome (Option Bytes)
  | .read, .done (.ok none) => .done (.error .connectionClosed)
  | _, outcome => outcome

theorem make_eq (call : ReaderCall) (reader : FrameReader) (source : σ) :
    make call reader source = (receives call (reader.tryRead source).1, (reader.tryRead source).2) := by
  cases call with
  | tryRead => rfl
  | read =>
    unfold make FrameReader.read
    generalize reader.tryRead source = result
    obtain ⟨(_ | _ | _) | _, after⟩ := result <;> rfl

theorem givenOut_receives (call : ReaderCall) (outcome : Outcome (Option Bytes)) :
    givenOut (receives call outcome) = givenOut outcome := by
  cases call with
  | tryRead => rfl
  | read => rcases outcome with (_ | _ | _) | _ <;> rfl

theorem isOversize_receives (call : ReaderCall) (outcome : Outcome (Option Bytes)) :
    isOversize (receives call outcome) = isOversize outcome := by
  cases call with
  | tryRead => rfl
  | read => rcases outcome with (_ | _ | _) | _ <;> rfl

theorem framesIn_unrefused (log : ReaderLog) : framesIn (unrefused log) = framesIn log := by
  induction log with
  | nil => rfl
  | cons entry rest ih =>
    obtain ⟨call, outcome⟩ := entry
    by_cases refused : isOversize outcome = true
    · have none : givenOut outcome = [] := by
        unfold isOversize at refused
        split at refused
        · rfl
        · cases refused
      simpa [unrefused, framesIn, refused, none] using ih
    · simpa [unrefused, framesIn, refused] using ih

/-! ### Under a raised limit -/

theorem tryRead_goesOn {reader : FrameReader} {source next : σ} {outcome : ReadOutcome}
    (incomplete : decodeFrame reader.config.maxSize reader.buffer = .ok none)
    (asked : ByteSource.read readChunkSize source = (outcome, next)) (more : outcome.invitesAnother = true) :
    reader.tryRead source = tryRead { reader with buffer := reader.buffer ++ outcome.content } next := by
  obtain ⟨made, rest⟩ := tryRead_fetches { reader with buffer := reader.buffer ++ outcome.content } next
  exact (Fetch.goesOn incomplete asked more rest).tryRead

/-- A call under the raised limit does what the call under the other limit did, and goes on where that was refused.
It is enough that the raised limit admits the frame that came, or the length that is in front afterwards. -/
theorem Fetch.raised {reader : FrameReader} {source : σ} {made : List SourceCall}
    {result : Outcome (Option Bytes) × FrameReader × σ} (fetched : Fetch reader source made result)
    {raised : FrameConfig} (fit : ∀ frame ∈ givenOut result.1, frame.length ≤ raised.maxSize)
    (admits : Admits raised.maxSize result.2.1.buffer) :
    Admits raised.maxSize reader.buffer ∧
      FrameReader.tryRead { reader with config := raised } source =
        if isOversize result.1 then FrameReader.tryRead { result.2.1 with config := raised } result.2.2
        else (result.1, { result.2.1 with config := raised }, result.2.2) := by
  induction fetched with
  | @refused reader source error bad =>
    refine ⟨admits, ?_⟩
    obtain ⟨n, rest, small, same, ⟨short, rfl⟩ | ⟨_, _, rfl⟩⟩ := decodeFrame_eq_error.mp bad
    -- A length below a header is refused under every limit.
    · have still : decodeFrame raised.maxSize reader.buffer = .error (.frameTooShort n headerSize) :=
        decodeFrame_eq_error.mpr ⟨n, rest, small, same, .inl ⟨short, rfl⟩⟩
      have again : Fetch { reader with config := raised } source [] _ := .refused still
      exact again.tryRead
    · rfl
  | @found reader source frame rest whole =>
    have decoded := decodeFrame_raised whole (fit frame (List.mem_singleton.mpr rfl))
    have again : Fetch { reader with config := raised } source [] _ := .found decoded
    exact ⟨admits_of_decodeFrame decoded, again.tryRead⟩
  | @ends reader source outcome next incomplete asked quiet =>
    refine ⟨admits, ?_⟩
    have answered : isOversize (atEnd outcome reader.buffer) = false := by
      unfold atEnd
      split
      · split <;> rfl
      all_goals rfl
    rw [if_neg (by simp [answered])]
    have again : Fetch { reader with config := raised } source _ _ := .ends (admits.incomplete incomplete) asked quiet
    exact again.tryRead
  | @goesOn reader source outcome next calls result incomplete asked more rest ih =>
    obtain ⟨grown, same⟩ := ih fit admits
    have front := grown.of_append
    refine ⟨front, ?_⟩
    have goesOn : FrameReader.tryRead { reader with config := raised } source = _ :=
      tryRead_goesOn (front.incomplete incomplete) asked more
    exact goesOn.trans same

theorem run_call {reader after : FrameReader} {source rest : σ} {outcome : Outcome (Option Bytes)}
    (tried : reader.tryRead source = (outcome, after, rest)) (call : ReaderCall) (uses : List ReaderUse) :
    run (.call call :: uses) reader source =
      ((call, receives call outcome) :: (run uses after rest).1, (run uses after rest).2) := by
  simp only [run, make_eq, tried]

/-- All uses that begin with a call are decided by it. -/
theorem run_congr {first second : FrameReader} {source other : σ}
    (same : first.tryRead source = second.tryRead other) (log : ReaderLog) (next : ReaderCall) (later : List ReaderUse) :
    run (callsOf log ++ .call next :: later) first source = run (callsOf log ++ .call next :: later) second other := by
  cases log with
  | nil => exact (run_call same next later).trans (run_call rfl next later).symm
  | cons entry log =>
    exact (run_call same entry.1 _).trans (run_call rfl entry.1 _).symm

/-- The induction goes from the front: the length that is in front at the end is in front, or in a frame given out,
at every moment before. -/
theorem run_raised (uses : List ReaderUse) (reader : FrameReader) (source : σ) {raised : FrameConfig}
    (fit : ∀ frame ∈ framesIn (run uses reader source).1, frame.length ≤ raised.maxSize)
    (admits : Admits raised.maxSize (run uses reader source).2.1.buffer) (next : ReaderCall) (later : List ReaderUse) :
    let done := run uses reader source
    let after := run (.call next :: later) { done.2.1 with config := raised } done.2.2
    Admits raised.maxSize reader.buffer ∧
      run (callsOf (unrefused done.1) ++ .call next :: later) { reader with config := raised } source =
        (unrefused done.1 ++ after.1, after.2) := by
  induction uses generalizing reader source with
  | nil => exact ⟨admits, rfl⟩
  | cons use uses ih =>
    cases use with
    | configure config => exact ih { reader with config } source fit admits
    | call call =>
      obtain ⟨made, fetched⟩ := tryRead_fetches reader source
      generalize tried : reader.tryRead source = result at fetched
      obtain ⟨outcome, mid, rest⟩ := result
      rw [run_call tried] at fit admits ⊢
      simp only [framesIn, List.flatMap_cons, givenOut_receives, List.forall_mem_append] at fit
      obtain ⟨front, same⟩ := ih mid rest fit.2 admits
      obtain ⟨before, once⟩ := fetched.raised fit.1 front
      refine ⟨before, ?_⟩
      -- A refused call moved nothing and is left out; any other has the same answer under the raised limit.
      by_cases refused : isOversize outcome = true
      · rw [if_pos refused] at once
        have skipped : unrefused ((call, receives call outcome) :: (run uses mid rest).1) =
            unrefused (run uses mid rest).1 := by
          simp [unrefused, isOversize_receives, refused]
        rw [skipped, run_congr once]
        exact same
      · rw [if_neg refused] at once
        have kept : unrefused ((call, receives call outcome) :: (run uses mid rest).1) =
            (call, receives call outcome) :: unrefused (run uses mid rest).1 := by
          simp [unrefused, isOversize_receives, refused]
        rw [kept, callsOf, List.map_cons, List.cons_append, run_call once]
        exact congrArg (fun done => ((call, receives call outcome) :: done.1, done.2)) same

/-- A length that is out of bounds is refused by every call, none of which asks the source or touches the buffer. Once
the limit is raised for it, the answers are those that a reader with this limit from the start of the frame, or from
before, gives to the same calls less those that were refused; so the frames are the same. -/
theorem resumes_under_raised_limit (reader : FrameReader) (source : σ) :
    (∀ n rest, n < 2 ^ 32 → reader.buffer = Bytes.littleEndian frameLengthWidth n ++ rest →
      n < headerSize ∨ reader.config.maxSize < n →
      let refusal : Outcome (Option Bytes) := .done (.error (lengthRefusal reader.config.maxSize n))
      Fetch reader source [] (refusal, reader, source) ∧
        ∀ calls : List ReaderCall,
          run (calls.map .call) reader source = (calls.map fun call => (call, refusal), reader, source)) ∧
    ∀ uses n rest raised,
      let done := run uses reader source
      n < 2 ^ 32 → done.2.1.buffer = Bytes.littleEndian frameLengthWidth n ++ rest → n ≤ raised.maxSize →
      (∀ frame ∈ framesIn done.1, frame.length ≤ raised.maxSize) →
      ∀ next later,
        let after := run (.configure raised :: .call next :: later) done.2.1 done.2.2
        let other := run (.configure raised :: callsOf (unrefused done.1) ++ .call next :: later) reader source
        other = (unrefused done.1 ++ after.1, after.2) ∧ framesIn other.1 = framesIn done.1 ++ framesIn after.1 := by
  constructor
  · intro n rest small front bad refusal
    have refused : decodeFrame reader.config.maxSize reader.buffer = .error (lengthRefusal reader.config.maxSize n) := by
      rw [front]
      exact decodeFrame_refused small bad rest
    have fetched : Fetch reader source [] (refusal, reader, source) := .refused refused
    refine ⟨fetched, ?_⟩
    intro calls
    induction calls with
    | nil => rfl
    | cons call calls ih =>
      have same : receives call refusal = refusal := by cases call <;> rfl
      rw [List.map_cons, run_call fetched.tryRead, same, ih]
      rfl
  · intro uses n rest raised done small front fits fit next later after other
    have admits : Admits raised.maxSize done.2.1.buffer := by
      rw [front]
      exact admits_announced small fits rest
    obtain ⟨-, same⟩ := run_raised uses reader source fit admits next later
    have answers : other = (unrefused done.1 ++ after.1, after.2) := same
    refine ⟨answers, ?_⟩
    rw [answers, framesIn, List.flatMap_append]
    exact congrArg (· ++ framesIn after.1) (framesIn_unrefused done.1)

/-- A frame of five bytes under a limit of four: a timeout amid its length, two refusals, and then the rest of it. -/
theorem resumes_under_raised_limit_amid_frame :
    let reader : FrameReader := { config := { maxSize := 4 } }
    let source : ReadScript := ⟨[.data [5, 0], .error (.ofKind .timedOut), .data [0, 0, 67], .data [2, 1, 0, 9]], 0⟩
    let uses : List ReaderUse := [.call .tryRead, .call .tryRead, .call .read]
    let done := run uses reader source
    let raised : FrameConfig := { maxSize := 5 }
    let after := run [.configure raised, .call .read] done.2.1 done.2.2
    let other := run [.configure raised, .call .tryRead, .call .read] reader source
    done.2.1.buffer = Bytes.littleEndian frameLengthWidth 5 ++ [67] ∧
      run [.call .read, .call .tryRead] done.2.1 done.2.2 =
        ([(.read, .done (.error (.frameTooLarge 5 4))), (.tryRead, .done (.error (.frameTooLarge 5 4)))], done.2) ∧
      other = (unrefused done.1 ++ after.1, after.2) ∧ framesIn other.1 = [[67, 2, 1, 0, 9]] := by
  intro reader source uses done raised after other
  have front : done.2.1.buffer = Bytes.littleEndian frameLengthWidth 5 ++ [67] := rfl
  have again := ((resumes_under_raised_limit done.2.1 done.2.2).1 5 [67] (by decide) front (.inr (by decide))).2
    [.read, .tryRead]
  have fit : ∀ frame ∈ framesIn done.1, frame.length ≤ raised.maxSize := fun frame none => nomatch none
  obtain ⟨answers, frames⟩ := (resumes_under_raised_limit reader source).2 uses 5 [67] raised (by decide) front
    (by decide) fit .read []
  exact ⟨front, again, answers, frames⟩

end FrameReader
end CallWire
