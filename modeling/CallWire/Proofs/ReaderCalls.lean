import CallWire.Proofs.ReaderConservation

/-! What a frame reader asks of its source while it looks for one frame. The calls are told one by one, with
what the reader held at each, so that it can be said when a source is asked at all and what it can make a
reader hold. -/

namespace CallWire

/-- A call to a source: what the reader held then, and the answer. -/
structure SourceCall where
  held : Bytes
  outcome : ReadOutcome

/-- What the reader holds with the answer. -/
def SourceCall.heldAfter (call : SourceCall) : Bytes := call.held ++ call.outcome.content

namespace FrameReader
variable {σ : Type} [ByteSource σ]

/-- Looking for a frame: the calls to the source on the way, the answer, and what is left of reader and source.
The source is asked only while the buffer decides nothing, and again only after an answer that invites it. -/
inductive Fetch : FrameReader → σ → List SourceCall → Outcome (Option Bytes) × FrameReader × σ → Prop
  | refused {reader source error} (bad : decodeFrame reader.config.maxSize reader.buffer = .error error) :
      Fetch reader source [] (.done (.error error), reader, source)
  | found {reader source frame rest}
      (whole : decodeFrame reader.config.maxSize reader.buffer = .ok (some (frame, rest))) :
      Fetch reader source [] (.done (.ok (some frame)), { reader with buffer := rest }, source)
  | ends {reader source outcome next} (incomplete : decodeFrame reader.config.maxSize reader.buffer = .ok none)
      (asked : ByteSource.read readChunkSize source = (outcome, next)) (quiet : outcome.invitesAnother = false) :
      Fetch reader source [⟨reader.buffer, outcome⟩] (atEnd outcome reader.buffer, reader, next)
  | goesOn {reader source outcome next calls result}
      (incomplete : decodeFrame reader.config.maxSize reader.buffer = .ok none)
      (asked : ByteSource.read readChunkSize source = (outcome, next)) (more : outcome.invitesAnother = true)
      (rest : Fetch { reader with buffer := reader.buffer ++ outcome.content } next calls result) :
      Fetch reader source (⟨reader.buffer, outcome⟩ :: calls) result

theorem Fetch.unique {reader : FrameReader} {source : σ} {first second : List SourceCall}
    {one other : Outcome (Option Bytes) × FrameReader × σ} (left : Fetch reader source first one)
    (right : Fetch reader source second other) : first = second ∧ one = other := by
  induction left generalizing second with
  | refused bad =>
    cases right with
    | refused bad' =>
      cases bad.symm.trans bad'
      exact ⟨rfl, rfl⟩
    | found decided | ends decided | goesOn decided => cases bad.symm.trans decided
  | found whole =>
    cases right with
    | found whole' =>
      cases whole.symm.trans whole'
      exact ⟨rfl, rfl⟩
    | refused decided | ends decided | goesOn decided => cases whole.symm.trans decided
  | ends incomplete asked quiet =>
    cases right with
    | ends _ asked' =>
      cases asked.symm.trans asked'
      exact ⟨rfl, rfl⟩
    | goesOn _ asked' more =>
      cases asked.symm.trans asked'
      cases quiet.symm.trans more
    | refused decided | found decided => cases incomplete.symm.trans decided
  | goesOn incomplete asked more rest ih =>
    cases right with
    | goesOn _ asked' _ rest' =>
      cases asked.symm.trans asked'
      obtain ⟨rfl, rfl⟩ := ih rest'
      exact ⟨rfl, rfl⟩
    | ends _ asked' quiet =>
      cases asked.symm.trans asked'
      cases quiet.symm.trans more
    | refused decided | found decided => cases incomplete.symm.trans decided

/-- The calls that a source's weight allows are enough to come to an answer. -/
theorem pull_fetches (calls : Nat) (reader : FrameReader) (source : σ)
    (enough : ByteSource.weight source ≤ calls) :
    ∃ made, Fetch reader source made (pull calls reader source) := by
  fun_induction pull calls reader source with
  | case1 calls reader source error bad => exact ⟨[], .refused bad⟩
  | case2 calls reader source frame rest whole => exact ⟨[], .found whole⟩
  | case3 calls reader source incomplete next asked => exact ⟨_, .ends incomplete asked rfl⟩
  | case4 reader source incomplete error next asked again =>
    have lighter := ByteSource.lighter_of_interrupted again asked
    omega
  | case5 reader source incomplete error next asked again calls ih =>
    have lighter := ByteSource.lighter_of_interrupted again asked
    obtain ⟨made, rest⟩ := ih (by omega)
    refine ⟨_ :: made, .goesOn incomplete asked again ?_⟩
    simpa only [ReadOutcome.content, List.append_nil] using rest
  | case6 calls reader source incomplete error next asked fatal =>
    exact ⟨_, .ends incomplete asked (by simpa [ReadOutcome.invitesAnother] using fatal)⟩
  | case7 calls reader source incomplete next asked empty | case8 calls reader source incomplete next asked empty =>
    have ended := Fetch.ends incomplete asked rfl
    simp only [atEnd, empty, if_true, if_false, Bool.false_eq_true] at ended
    exact ⟨_, ended⟩
  | case9 reader source incomplete piece next some asked =>
    have lighter := ByteSource.lighter_of_received some asked
    omega
  | case10 reader source incomplete piece next some asked calls ih =>
    have lighter := ByteSource.lighter_of_received some asked
    obtain ⟨made, rest⟩ := ih (by omega)
    exact ⟨_, .goesOn incomplete asked (by simpa [ReadOutcome.invitesAnother] using some) rest⟩

theorem tryRead_fetches (reader : FrameReader) (source : σ) :
    ∃ made, Fetch reader source made (reader.tryRead source) :=
  pull_fetches (ByteSource.weight source) reader source (Nat.le_refl _)

theorem Fetch.tryRead {reader : FrameReader} {source : σ} {made : List SourceCall}
    {result : Outcome (Option Bytes) × FrameReader × σ} (fetched : Fetch reader source made result) :
    reader.tryRead source = result := by
  obtain ⟨calls, tried⟩ := tryRead_fetches reader source
  exact (tried.unique fetched).2

end FrameReader
end CallWire
