import CallWire.Proofs.BrokenValues
import CallWire.Wire.Walk

/-! Cursors in the hands of their callers. Whatever steps are taken, and however they fail, the cursor and the copies of
it that were put aside stand in the input that was given, each at its own place. -/

namespace CallWire

/-- Behind its place in the input the cursor has all of it still to read. -/
structure Cursor.StandsIn (c : Cursor) (input : Bytes) : Prop where
  whole : c.position + c.remaining = input.length
  rest : c.rest = input.drop c.position

namespace ReadingStep

/-- How a step fails at a cursor, and where it leaves it: a length that is too great has been read, and a value is read
as far as it is whole. -/
def FailsAt : ReadingStep → Cursor → WireError → Cursor → Prop
  | number n, c, error, after | take n, c, error, after =>
    c.remaining < n ∧ error = .unexpectedEnd n c.remaining ∧ after = c
  | length, c, error, after | count, c, error, after =>
    if c.remaining < lengthWidth then error = .unexpectedEnd lengthWidth c.remaining ∧ after = c
    else
      let n := Bytes.value (c.rest.take lengthWidth)
      after = ⟨c.position + lengthWidth, c.rest.drop lengthWidth⟩ ∧ after.remaining < n ∧
        error = .unexpectedEnd n after.remaining
  | value k, c, error, after => ∃ taken, c.Passes taken after ∧ k.Breaks taken after.rest error
  | rest, _, _, _ | save, _, _, _ | restore, _, _, _ => False

/-- The step is taken with the cursor at hand and leaves the copies alone. -/
def isPlain : ReadingStep → Bool
  | save | restore => false
  | _ => true

/-- Steps that return to every copy that they put aside, and to no other. -/
inductive Nested : List ReadingStep → Prop
  | nil : Nested []
  | plain {s : ReadingStep} {rest : List ReadingStep} : s.isPlain = true → Nested rest → Nested (s :: rest)
  | aside {inner rest : List ReadingStep} : Nested inner → Nested rest → Nested (.save :: inner ++ .restore :: rest)

end ReadingStep

/-- The walk after the steps. -/
def ReadingWalk.after (walk : ReadingWalk) (steps : List ReadingStep) : ReadingWalk :=
  steps.foldl (fun walk s => (walk.step s).2) walk

/-- How a caller reads what is its own. It learns what each step gives and where it leaves the cursor, and goes on as it
likes, after a failure too. -/
inductive Decoder
  | stop
  | step (s : ReadingStep) (next : Except WireError ReadingYield → Cursor → Decoder)

namespace Decoder

def run : Decoder → ReadingWalk → ReadingWalk
  | stop, walk => walk
  | step s next, walk =>
    let (result, after) := walk.step s
    (next result after.cursor).run after

/-- The steps that are taken from here. -/
def steps : Decoder → ReadingWalk → List ReadingStep
  | stop, _ => []
  | step s next, walk =>
    let (result, after) := walk.step s
    s :: (next result after.cursor).steps after

/-- It takes no step after one that failed. -/
def GivesUp : Decoder → Prop
  | stop => True
  | step _ next => (∀ error c, next (.error error) c = stop) ∧ ∀ result c, (next result c).GivesUp

/-- However it is decided on the way, what was done is a list of steps. -/
theorem run_eq_after (d : Decoder) (walk : ReadingWalk) : d.run walk = walk.after (d.steps walk) := by
  induction d generalizing walk with
  | stop => rfl
  | step s next ih => exact ih _ _ _

theorem steps_step (s : ReadingStep) (next : Except WireError ReadingYield → Cursor → Decoder) (walk : ReadingWalk) :
    (step s next).steps walk = s :: (next (walk.step s).1 (walk.step s).2.cursor).steps (walk.step s).2 := rfl

theorem GivesUp.last_of_failed {d : Decoder} (gives : d.GivesUp) {walk : ReadingWalk} {complete rest : List ReadingStep}
    {failing : ReadingStep} {error : WireError} (split : d.steps walk = complete ++ failing :: rest)
    (failed : ((walk.after complete).step failing).1 = .error error) : rest = [] := by
  induction d generalizing walk complete with
  | stop => exact absurd split (by simp [steps])
  | step s next ih =>
    obtain ⟨stops, gives⟩ := gives
    rw [steps_step] at split
    cases complete with
    | nil =>
      obtain ⟨rfl, later⟩ := List.cons.inj split
      have failed : (walk.step s).1 = .error error := failed
      rw [failed, stops] at later
      exact later.symm
    | cons first others =>
      obtain ⟨rfl, later⟩ := List.cons.inj split
      exact ih _ _ (gives _ _) later failed

end Decoder

namespace Cursor

open Reading

variable {c after : Cursor} {n : Nat} {error : WireError} {input : Bytes}

theorem StandsIn.passes {taken : Bytes} (stands : c.StandsIn input) (passed : c.Passes taken after) :
    after.StandsIn input := by
  obtain ⟨whole, rest⟩ := stands
  obtain ⟨position, behind, rfl, rfl⟩ := passed.places
  simp only [remaining, List.length_append] at whole rest
  constructor
  · simp only [remaining]
    omega
  · rw [← List.drop_drop, ← rest, List.drop_left]

theorem take_eq_error : take n c = .error error after ↔
    c.remaining < n ∧ error = .unexpectedEnd n c.remaining ∧ after = c := by
  rw [take_fails n c error after]
  constructor
  · intro ⟨taken, passed, broken⟩
    obtain ⟨rfl, few, rfl⟩ := broken
    rw [passed.eq_of_nil] at few ⊢
    exact ⟨few, rfl, rfl⟩
  · intro ⟨few, same, still⟩
    rw [still]
    exact ⟨[], .nil c, rfl, few, same⟩

theorem takeNumber_eq_error : takeNumber n c = .error error after ↔
    c.remaining < n ∧ error = .unexpectedEnd n c.remaining ∧ after = c := by
  rw [takeNumber_fails n c error after, ← take_fails n c error after, take_eq_error]

theorem announces_value {content : Bytes} (length : content.length = lengthWidth) :
    Announces content (Bytes.value content) := by
  have small := Bytes.value_lt content
  rw [length] at small
  exact ⟨small, (Bytes.littleEndian_value_of_length length).symm⟩

theorem takeLength_eq_error : takeLength c = .error error after ↔ ReadingStep.length.FailsAt c error after := by
  rw [ReadingStep.FailsAt]
  by_cases short : c.remaining < lengthWidth
  · have missing : takeLength c = .error (.unexpectedEnd lengthWidth c.remaining) c :=
      bind_of_error (takeNumber_eq_error.mpr ⟨short, rfl, rfl⟩) _
    rw [if_pos short, missing]
    constructor
    · intro failed
      cases failed
      exact ⟨rfl, rfl⟩
    · intro ⟨same, still⟩
      rw [same, still]
  · have width : (c.rest.take lengthWidth).length = lengthWidth := List.length_take_of_le (Nat.not_lt.mp short)
    have passed : c.Passes (c.rest.take lengthWidth) ⟨c.position + lengthWidth, c.rest.drop lengthWidth⟩ :=
      ⟨(List.take_append_drop lengthWidth c.rest).symm, congrArg (c.position + ·) width.symm⟩
    rw [if_neg short, takeLength_of_announces (announces_value width) passed]
    constructor
    · intro failed
      split at failed
      · cases failed
      · cases failed
        exact ⟨rfl, Nat.not_le.mp ‹_›, rfl⟩
    · intro ⟨further, few, same⟩
      rw [further] at few same ⊢
      rw [if_neg (Nat.not_le.mpr few), same]

end Cursor

namespace ReadingWalk

variable {α : Type} {walk : ReadingWalk} {reading : Reading α} {yield : α → ReadingYield} {s : ReadingStep}
  {inner steps : List ReadingStep} {left : Cursor} {error : WireError} {input : Bytes}

theorem read_of_ok {a : α} (done : reading walk.cursor = .ok a left) :
    walk.read reading yield = (.ok (yield a), { walk with cursor := left }) := by
  rw [read, Reading.outcome, done]
  rfl

theorem read_of_error (failed : reading walk.cursor = .error error left) :
    walk.read reading yield = (.error error, { walk with cursor := left }) := by
  rw [read, Reading.outcome, failed]
  rfl

theorem read_eq_error :
    (walk.read reading yield).1 = .error error ∧ (walk.read reading yield).2.cursor = left ↔
      reading walk.cursor = .error error left := by
  cases outcome : reading walk.cursor with
  | ok a next =>
    rw [read_of_ok outcome]
    constructor
    · intro ⟨failed, _⟩
      cases failed
    · intro failed
      cases failed
  | error other next =>
    rw [read_of_error outcome]
    constructor
    · intro ⟨failed, same⟩
      cases failed
      cases same
      rfl
    · intro failed
      cases failed
      exact ⟨rfl, rfl⟩

theorem read_passes {spells : Bytes → α → Prop} {breaks : Bytes → Bytes → WireError → Prop} (only : reading.TakesOnly spells)
    (fails : reading.Fails breaks) (walk : ReadingWalk) (yield : α → ReadingYield) :
    ∃ taken, walk.cursor.Passes taken (walk.read reading yield).2.cursor := by
  cases outcome : reading walk.cursor with
  | ok a after =>
    obtain ⟨taken, rest, position, -⟩ := only walk.cursor a after outcome
    rw [read_of_ok outcome]
    exact ⟨taken, rest, position⟩
  | error error after =>
    obtain ⟨taken, passed, -⟩ := (fails walk.cursor error after).mp outcome
    rw [read_of_error outcome]
    exact ⟨taken, passed⟩

theorem step_plain (plain : s.isPlain = true) (walk : ReadingWalk) :
    (∃ taken, walk.cursor.Passes taken (walk.step s).2.cursor) ∧ (walk.step s).2.saved = walk.saved := by
  cases s with
  | number width => exact ⟨read_passes (Cursor.takeNumber_takesOnly width) (Cursor.takeNumber_fails width) walk _, rfl⟩
  | length | count => exact ⟨read_passes Cursor.takeLength_announces Cursor.takeLength_fails walk _, rfl⟩
  | take n => exact ⟨read_passes (Cursor.take_takesOnly n) (Cursor.take_fails n) walk _, rfl⟩
  | rest => exact ⟨⟨[], .nil walk.cursor⟩, rfl⟩
  | value k => exact ⟨read_passes k.reading_takesOnly k.reading_fails walk _, rfl⟩
  | save | restore => cases plain

theorem step_eq_error :
    (walk.step s).1 = .error error ∧ (walk.step s).2.cursor = left ↔ s.FailsAt walk.cursor error left := by
  cases s with
  | number width => exact read_eq_error.trans Cursor.takeNumber_eq_error
  | length | count => exact read_eq_error.trans Cursor.takeLength_eq_error
  | take n => exact read_eq_error.trans Cursor.take_eq_error
  | value k => exact read_eq_error.trans (k.reading_fails walk.cursor error left)
  | rest | save =>
    constructor
    · intro ⟨failed, _⟩
      cases failed
    · exact False.elim
  | restore =>
    constructor
    · intro ⟨failed, _⟩
      rw [step] at failed
      split at failed
      all_goals cases failed
    · exact False.elim

/-- The cursor at hand and the copies all stand in the input. -/
def StandsIn (walk : ReadingWalk) (input : Bytes) : Prop :=
  ∀ c ∈ walk.cursor :: walk.saved, c.StandsIn input

theorem standsIn_start (input : Bytes) : (start input).StandsIn input := by
  intro c member
  cases List.mem_singleton.mp member
  exact ⟨Nat.zero_add _, rfl⟩

theorem StandsIn.step (stands : walk.StandsIn input) (s : ReadingStep) : (walk.step s).2.StandsIn input := by
  cases plain : s.isPlain with
  | true =>
    obtain ⟨⟨taken, passed⟩, saved⟩ := step_plain plain walk
    intro c member
    rw [saved] at member
    cases member with
    | head => exact (stands walk.cursor List.mem_cons_self).passes passed
    | tail _ copy => exact stands c (List.mem_cons_of_mem _ copy)
  | false =>
    cases s with
    | save =>
      intro c member
      cases member with
      | head => exact stands walk.cursor List.mem_cons_self
      | tail _ member => exact stands c member
    | restore =>
      intro c member
      rw [ReadingWalk.step] at member
      split at member
      · exact stands c member
      · rename_i saved
        rw [StandsIn, saved] at stands
        exact stands c (List.mem_cons_of_mem _ member)
    | _ => cases plain

theorem StandsIn.after (stands : walk.StandsIn input) (steps : List ReadingStep) : (walk.after steps).StandsIn input := by
  induction steps generalizing walk with
  | nil => exact stands
  | cons s rest ih => exact ih (stands.step s)

theorem after_append (walk : ReadingWalk) (first second : List ReadingStep) :
    walk.after (first ++ second) = (walk.after first).after second := List.foldl_append

theorem run_append_singleton (walk : ReadingWalk) (steps : List ReadingStep) (s : ReadingStep) :
    walk.run (steps ++ [s]) =
      walk.run steps ++ [(((walk.after steps).step s).1, ((walk.after steps).step s).2.cursor)] := by
  induction steps generalizing walk with
  | nil => rfl
  | cons first rest ih => exact congrArg (_ :: ·) (ih (walk.step first).2)

/-- Going back undoes all that was done since with the cursor at hand. -/
theorem after_aside (walk : ReadingWalk) (kept : ∀ walk : ReadingWalk, (walk.after inner).saved = walk.saved) :
    walk.after (.save :: inner ++ [.restore]) = walk := by
  have saved : ((walk.step .save).2.after inner).saved = walk.cursor :: walk.saved := kept _
  have last : walk.after (.save :: inner ++ [.restore]) = (((walk.step .save).2.after inner).step .restore).2 :=
    after_append _ inner [.restore]
  rw [last]
  generalize (walk.step .save).2.after inner = between at saved
  rw [step, saved]

end ReadingWalk

theorem ReadingStep.Nested.after {steps : List ReadingStep} (nested : Nested steps) (walk : ReadingWalk) :
    (∃ taken, walk.cursor.Passes taken (walk.after steps).cursor) ∧ (walk.after steps).saved = walk.saved := by
  induction nested generalizing walk with
  | nil => exact ⟨⟨[], .nil walk.cursor⟩, rfl⟩
  | plain plain _ ih =>
    obtain ⟨⟨first, one⟩, saved⟩ := ReadingWalk.step_plain plain walk
    obtain ⟨⟨second, other⟩, kept⟩ := ih (walk.step _).2
    exact ⟨⟨first ++ second, one.trans other⟩, kept.trans saved⟩
  | @aside inner rest _ _ within ih =>
    -- All that is done within is undone at once, so only the rest counts.
    have back := walk.after_aside fun walk => (within walk).2
    rw [List.append_cons, ReadingWalk.after_append, back]
    exact ih walk

namespace ReadingWalk

/-- Whatever was read before, the cursor and its copies stand in the input. The next step moves the cursor forward or
fails as it should, and steps that come back to their copies, as those of a copy do, leave what was put aside as it was.
This goes for a caller's own ways of decoding as well; one that gives up at a failure has read what comes before it. -/
theorem keeps_to_input (input : Bytes) (before : List ReadingStep) :
    let walk := (start input).after before
    walk.StandsIn input ∧ (walk.step .rest).1 = .ok (.bytes (input.drop walk.cursor.position)) ∧
    (∀ s, (start input).run (before ++ [s]) =
        (start input).run before ++ [((walk.step s).1, (walk.step s).2.cursor)] ∧
      (s ≠ .restore → walk.cursor.position ≤ (walk.step s).2.cursor.position) ∧
      ∀ error after, (walk.step s).1 = .error error ∧ (walk.step s).2.cursor = after ↔ s.FailsAt walk.cursor error after) ∧
    (∀ inner, ReadingStep.Nested inner →
      walk.cursor.position ≤ (walk.after inner).cursor.position ∧ (walk.after inner).saved = walk.saved ∧
        walk.after (.save :: inner ++ [.restore]) = walk) ∧
    ∀ d : Decoder, d.run walk = walk.after (d.steps walk) ∧
      (d.GivesUp → ∀ complete failing rest error, d.steps walk = complete ++ failing :: rest →
        ((walk.after complete).step failing).1 = .error error → rest = []) := by
  intro walk
  have stands : walk.StandsIn input := (standsIn_start input).after before
  have forward {c after : Cursor} (passed : ∃ taken, c.Passes taken after) : c.position ≤ after.position := by
    obtain ⟨taken, passed⟩ := passed
    exact passed.position ▸ Nat.le_add_right _ _
  refine ⟨stands, ?_, ?_, ?_, ?_⟩
  · rw [← (stands walk.cursor List.mem_cons_self).rest]
    rfl
  · intro s
    refine ⟨run_append_singleton (start input) before s, ?_, fun error after => step_eq_error⟩
    intro onward
    cases s with
    | save => exact Nat.le_refl _
    | restore => exact absurd rfl onward
    | _ => exact forward (step_plain rfl walk).1
  · intro inner nested
    obtain ⟨passed, saved⟩ := nested.after walk
    exact ⟨forward passed, saved, walk.after_aside fun walk => (nested.after walk).2⟩
  · intro d
    exact ⟨d.run_eq_after walk, fun gives _ _ _ _ split failed => gives.last_of_failed split failed⟩

/-- A list of pairs that breaks off within the second pair, read with a copy of the cursor put aside; then the same by a
caller's own way of reading pairs, and from another copy. -/
theorem keeps_to_input_within_pair :
    let input : Bytes := [2, 0, 0, 0, 9, 1, 0, 8, 5]
    let pairs := Kind.sequence .vector (.pair (.scalar .u8) (.scalar .u16))
    let walk := (start input).after [.save, .value pairs]
    let inner : List ReadingStep := [.number 1, .length]
    let d : Decoder := .step (.number 1) fun
      | .ok _, _ => .step .count fun _ _ => .stop
      | .error _, _ => .stop
    walk = ⟨⟨8, [5]⟩, [⟨0, input⟩]⟩ ∧ walk.StandsIn input ∧
      ReadingStep.FailsAt (.value pairs) ⟨0, input⟩ (.unexpectedEnd 2 1) walk.cursor ∧
      ReadingStep.Nested inner ∧ walk.cursor.position ≤ (walk.after inner).cursor.position ∧
      walk.after (.save :: inner ++ [.restore]) = walk ∧ d.run walk = walk.after [.number 1, .count] ∧
      d.GivesUp ∧ ∀ rest, d.steps walk = [.number 1] ++ .count :: rest → rest = [] := by
  intro input pairs walk inner d
  have stopped : walk = ⟨⟨8, [5]⟩, [⟨0, input⟩]⟩ := rfl
  have nested : ReadingStep.Nested inner := .plain rfl (.plain rfl .nil)
  have gives : d.GivesUp := by
    refine ⟨fun _ _ => rfl, fun result c => ?_⟩
    cases result with
    | ok a => exact ⟨fun _ _ => rfl, fun _ _ => trivial⟩
    | error error => trivial
  obtain ⟨-, -, steps, -, -⟩ := keeps_to_input input [.save]
  obtain ⟨stands, -, -, aside, own⟩ := keeps_to_input input [.save, .value pairs]
  obtain ⟨further, -, back⟩ := aside inner nested
  refine ⟨stopped, stands, ((steps (.value pairs)).2.2 _ _).mp ⟨rfl, rfl⟩, nested, further, back, (own d).1, gives, ?_⟩
  intro rest split
  exact (own d).2 gives [.number 1] .count rest (.unexpectedEnd 4 0) split rfl

end ReadingWalk
end CallWire
