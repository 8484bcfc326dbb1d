import CallWire.Proofs.FrameDecoding

/-! What a byte string is to one who takes messages off it: frames, each a message or not, and a rest that begins
with no frame. Whoever looks at the bytes in front of it and takes off complete frames only delivers just that. -/

namespace CallWire

/-- Frames that the limit allows, in front of a rest that begins with none. -/
inductive Framed (limit : Nat) : Bytes → List Bytes → Bytes → Prop
  | frame {input frame rest frames left} (decoded : decodeFrame limit input = .ok (some (frame, rest)))
      (others : Framed limit rest frames left) : Framed limit input (frame :: frames) left
  | rest {left} (stuck : ∀ frame rest, decodeFrame limit left ≠ .ok (some (frame, rest))) :
      Framed limit left [] left

/-- How a stream ends, by what is left of it. A bad length is found before the end is. -/
inductive StreamEnd (limit : Nat) : Bytes → Except ChannelError Unit → Prop
  | clean : StreamEnd limit [] (.ok ())
  | inside {left} (some : left ≠ []) (incomplete : decodeFrame limit left = .ok none) :
      StreamEnd limit left (.error .connectionClosed)
  | short {n rest} (small : n < 2 ^ 32) (less : n < headerSize) :
      StreamEnd limit (Bytes.littleEndian frameLengthWidth n ++ rest) (.error (.frameTooShort n headerSize))
  | large {n rest} (small : n < 2 ^ 32) (header : headerSize ≤ n) (more : limit < n) :
      StreamEnd limit (Bytes.littleEndian frameLengthWidth n ++ rest) (.error (.frameTooLarge n limit))

theorem framed_framesOf (limit : Nat) (input : Bytes) : ∃ left, Framed limit input (framesOf limit input).1 left := by
  fun_induction framesOf limit input with
  | case1 input error decoded =>
    refine ⟨input, .rest fun frame rest again => ?_⟩
    cases decoded.symm.trans again
  | case2 input decoded =>
    refine ⟨input, .rest fun frame rest again => ?_⟩
    cases decoded.symm.trans again
  | case3 input frame rest decoded later ih =>
    obtain ⟨left, others⟩ := ih
    exact ⟨left, .frame decoded others⟩

namespace Framed
variable {limit : Nat} {input left : Bytes} {frames : List Bytes}

/-- No byte is lost. -/
theorem split (framed : Framed limit input frames left) : input = frames.flatMap frameOf ++ left := by
  induction framed with
  | frame decoded others ih =>
    obtain ⟨rfl, _⟩ := decodeFrame_eq_some.mp decoded
    rw [ih, List.flatMap_cons, List.append_assoc]
  | rest stuck => rfl

theorem bounds (framed : Framed limit input frames left) :
    ∀ frame ∈ frames, headerSize ≤ frame.length ∧ frame.length ≤ limit := by
  induction framed with
  | frame decoded others ih =>
    obtain ⟨_, header, fits, _⟩ := decodeFrame_eq_some.mp decoded
    exact List.forall_mem_cons.mpr ⟨⟨header, fits⟩, ih⟩
  | rest stuck => simp

theorem stuck (framed : Framed limit input frames left) :
    ∀ frame rest, decodeFrame limit left ≠ .ok (some (frame, rest)) := by
  induction framed with
  | frame decoded others ih => exact ih
  | rest stuck => exact stuck

/-- Frames stay what they are when more bytes come; only the rest is looked at anew. -/
theorem append {more later : Bytes} {frames' : List Bytes} (framed : Framed limit input frames left)
    (others : Framed limit (left ++ more) frames' later) : Framed limit (input ++ more) (frames ++ frames') later := by
  induction framed with
  | frame decoded _ ih => exact .frame (decodeFrame_append_some decoded more) (ih others)
  | rest stuck => exact others

/-- Behind a bad length nothing is looked at. -/
theorem append_of_error {more : Bytes} {error : ChannelError} (framed : Framed limit input frames left)
    (failed : decodeFrame limit left = .error error) : Framed limit (input ++ more) frames (left ++ more) := by
  have rest : Framed limit (left ++ more) [] (left ++ more) := .rest fun frame rest decoded => by
    rw [decodeFrame_append_error failed more] at decoded
    cases decoded
  have all := framed.append rest
  rwa [List.append_nil] at all

end Framed

/-- What is answered where no frame is to be had: a bad length, or what the end of the bytes amounts to. -/
def endOf (limit : Nat) (atEnd : Bytes → Except ChannelError Unit) (left : Bytes) : Except ChannelError Unit :=
  match decodeFrame limit left with
  | .error error => .error error
  | .ok _ => atEnd left

/-- The stream may end between frames only. -/
def betweenFrames (left : Bytes) : Except ChannelError Unit :=
  if left.isEmpty then .ok () else .error .connectionClosed

theorem Framed.framesOf_eq {limit : Nat} {input left : Bytes} {frames : List Bytes}
    (framed : Framed limit input frames left) : framesOf limit input = (frames, endOf limit betweenFrames left) := by
  induction framed with
  | frame decoded others ih => rw [framesOf_some decoded, ih]
  | @rest left stuck =>
    unfold endOf
    cases decoded : decodeFrame limit left with
    | error error => exact framesOf_error decoded
    | ok found =>
      cases found with
      | some found => exact absurd decoded (stuck _ _)
      | none => exact framesOf_none decoded

theorem Framed.streamEnd {limit : Nat} {input left : Bytes} {frames : List Bytes}
    (framed : Framed limit input frames left) : StreamEnd limit left (endOf limit betweenFrames left) := by
  unfold endOf
  cases decoded : decodeFrame limit left with
  | error error =>
    obtain ⟨n, rest, small, rfl, ⟨less, rfl⟩ | ⟨header, more, rfl⟩⟩ := decodeFrame_eq_error.mp decoded
    · exact .short small less
    · exact .large small header more
  | ok found =>
    cases found with
    | some found => exact absurd decoded (framed.stuck _ _)
    | none =>
      simp only [betweenFrames]
      split
      · rename_i empty
        rw [List.isEmpty_iff.mp empty]
        exact .clean
      · rename_i some
        exact .inside (fun empty => some (List.isEmpty_iff.mpr empty)) decoded

/-- Asking again and again delivers these messages, failures of messages among them, and then comes to this end. -/
inductive Delivers {σ : Type} (ask : σ → Outcome (Option Message) × σ) :
    σ → List (Except ChannelError Message) → Except ChannelError Unit → σ → Prop
  | message {state m next messages ending last} (one : ask state = (.done (.ok (some m)), next))
      (others : Delivers ask next messages ending last) : Delivers ask state (.ok m :: messages) ending last
  | invalid {state error next messages ending last} (one : ask state = (.done (.error (.message error)), next))
      (others : Delivers ask next messages ending last) :
      Delivers ask state (.error (.message error) :: messages) ending last
  | finished {state next} (none : ask state = (.done (.ok none), next)) : Delivers ask state [] (.ok ()) next
  | failed {state error next} (one : ask state = (.done (.error error), next))
      (fatal : ∀ e, error ≠ .message e) : Delivers ask state [] (.error error) next

theorem Delivers.unique {σ : Type} {ask : σ → Outcome (Option Message) × σ} {state last last' : σ}
    {messages messages' : List (Except ChannelError Message)} {ending ending' : Except ChannelError Unit}
    (delivers : Delivers ask state messages ending last) (other : Delivers ask state messages' ending' last') :
    messages = messages' ∧ ending = ending' ∧ last = last' := by
  induction delivers generalizing messages' with
  | message one others ih =>
    cases other with
    | message again more =>
      cases one.symm.trans again
      obtain ⟨rfl, same⟩ := ih more
      exact ⟨rfl, same⟩
    | invalid again | finished again | failed again => cases one.symm.trans again
  | invalid one others ih =>
    cases other with
    | invalid again more =>
      cases one.symm.trans again
      obtain ⟨rfl, same⟩ := ih more
      exact ⟨rfl, same⟩
    | failed again fatal =>
      cases one.symm.trans again
      exact absurd rfl (fatal _)
    | message again | finished again => cases one.symm.trans again
  | finished one =>
    cases other with
    | finished again =>
      cases one.symm.trans again
      exact ⟨rfl, rfl, rfl⟩
    | message again | invalid again | failed again => cases one.symm.trans again
  | failed one fatal =>
    cases other with
    | failed again =>
      cases one.symm.trans again
      exact ⟨rfl, rfl, rfl⟩
    | invalid again =>
      cases one.symm.trans again
      exact absurd rfl (fatal _)
    | message again | finished again => cases one.symm.trans again

theorem messageOfFrame_error {frame : Bytes} {error : ChannelError} (failed : messageOfFrame frame = .error error) :
    ∃ e, error = .message e := by
  unfold messageOfFrame at failed
  split at failed
  · cases failed
    exact ⟨_, rfl⟩
  · split at failed
    · cases failed
      exact ⟨_, rfl⟩
    · cases failed

/-- The answer to these bytes, and what is kept of them. -/
def answerTo (limit : Nat) (atEnd : Bytes → Except ChannelError Unit) (input : Bytes) :
    Except ChannelError (Option Message) × Bytes :=
  match decodeFrame limit input with
  | .error error => (.error error, input)
  | .ok none => ((atEnd input).map fun _ => none, input)
  | .ok (some (frame, rest)) => ((messageOfFrame frame).map some, rest)

/-- Every question is answered as to all the bytes that the state holds, wherever they are. -/
structure Answers {σ : Type} (ask : σ → Outcome (Option Message) × σ) (holds : σ → Bytes → Prop) (limit : Nat)
    (atEnd : Bytes → Except ChannelError Unit) : Prop where
  ask : ∀ state input, holds state input →
    ∃ next, ask state = (.done (answerTo limit atEnd input).1, next) ∧ holds next (answerTo limit atEnd input).2
  fatal : ∀ input e, atEnd input ≠ .error (.message e)

/-- A frame is taken off whether or not it holds a message, and the rest is kept. -/
theorem Answers.delivers {σ : Type} {ask : σ → Outcome (Option Message) × σ} {holds : σ → Bytes → Prop} {limit : Nat}
    {atEnd : Bytes → Except ChannelError Unit} (answers : Answers ask holds limit atEnd) {input left : Bytes}
    {frames : List Bytes} (framed : Framed limit input frames left) {state : σ} (held : holds state input) :
    ∃ last, Delivers ask state (frames.map messageOfFrame) (endOf limit atEnd left) last ∧ holds last left := by
  induction framed generalizing state with
  | @frame input frame rest frames left decoded others ih =>
    obtain ⟨next, answered, held⟩ := answers.ask state input held
    simp only [answerTo, decoded] at answered held
    obtain ⟨last, delivered, kept⟩ := ih held
    refine ⟨last, ?_, kept⟩
    rw [List.map_cons]
    cases found : messageOfFrame frame with
    | ok m =>
      rw [found] at answered
      exact .message answered delivered
    | error error =>
      obtain ⟨e, rfl⟩ := messageOfFrame_error found
      rw [found] at answered
      exact .invalid answered delivered
  | @rest left stuck =>
    obtain ⟨next, answered, kept⟩ := answers.ask state left held
    unfold endOf
    cases decoded : decodeFrame limit left with
    | error error =>
      simp only [answerTo, decoded] at answered kept
      refine ⟨next, .failed answered ?_, kept⟩
      -- A refused length is not the failure of a message, so nothing is read past it.
      rintro e rfl
      obtain ⟨n, rest, _, _, ⟨_, impossible⟩ | ⟨_, _, impossible⟩⟩ := decodeFrame_eq_error.mp decoded
      all_goals cases impossible
    | ok found =>
      cases found with
      | some found => exact absurd decoded (stuck _ _)
      | none =>
        simp only [answerTo, decoded] at answered kept
        refine ⟨next, ?_, kept⟩
        show Delivers ask state [] (atEnd left) next
        cases ending : atEnd left with
        | ok =>
          rw [ending] at answered
          exact .finished answered
        | error error =>
          rw [ending] at answered
          exact .failed answered fun e same => answers.fatal left e (same ▸ ending)

end CallWire
