import CallWire.Bytes
import CallWire.Io.Error

/-!
Where bytes come from: anything that can be asked for bytes again and again. A source has a weight
that falls with every call after which a patient reader goes on, so that reading ends. A
`ReadScript` is a source that plays back a list of chunks and errors.
-/

namespace CallWire

inductive ReadOutcome
  /-- No bytes at all mean the end of the stream. -/
  | received (content : Bytes)
  | failed (error : IoError)
  | waiting
  deriving DecidableEq, Repr

/-- A reader that wants more would call again: it got bytes, or was interrupted. -/
def ReadOutcome.invitesAnother : ReadOutcome → Bool
  | received content => !content.isEmpty
  | failed error => error.isInterruption
  | waiting => false

class ByteSource (σ : Type) where
  read : Nat → σ → ReadOutcome × σ
  weight : σ → Nat
  read_lighter : ∀ limit source, (read limit source).1.invitesAnother = true →
    weight (read limit source).2 < weight source

inductive ReadItem
  | data (content : Bytes)
  | error (error : IoError)
  deriving DecidableEq, Repr

structure ReadScript where
  items : List ReadItem
  calls : Nat := 0
  deriving DecidableEq, Repr

namespace ReadScript

/-- Play the next item; of a chunk longer than asked for the rest stays the next item, and after
the last item the stream is at its end. -/
def playItems (limit : Nat) : List ReadItem → ReadOutcome × List ReadItem
  | [] => (.received [], [])
  | .error error :: rest => (.failed error, rest)
  | .data content :: rest =>
    if content.length ≤ limit then (.received content, rest)
    else (.received (content.take limit), .data (content.drop limit) :: rest)

def read (limit : Nat) (script : ReadScript) : ReadOutcome × ReadScript :=
  let (outcome, items) := playItems limit script.items
  (outcome, ⟨items, script.calls + 1⟩)

/-- Every item counts one, and every byte. -/
def weightOf : List ReadItem → Nat
  | [] => 0
  | .error _ :: rest => 1 + weightOf rest
  | .data content :: rest => 1 + content.length + weightOf rest

theorem playItems_lighter (limit : Nat) (items : List ReadItem)
    (more : (playItems limit items).1.invitesAnother = true) :
    weightOf (playItems limit items).2 < weightOf items := by
  match items with
  | [] => simp [playItems, ReadOutcome.invitesAnother] at more
  | .error error :: rest => simp [playItems, weightOf]
  | .data content :: rest =>
    by_cases fits : content.length ≤ limit
    · simp only [playItems, fits, if_true, weightOf]
      omega
    · simp only [playItems, fits, if_false, weightOf, List.length_drop] at more ⊢
      have : limit ≠ 0 := by
        intro zero
        simp [zero, ReadOutcome.invitesAnother] at more
      omega

instance : ByteSource ReadScript where
  read := read
  weight script := weightOf script.items
  read_lighter limit script more := playItems_lighter limit script.items more

end ReadScript
end CallWire
