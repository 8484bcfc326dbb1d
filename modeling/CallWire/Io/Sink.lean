import CallWire.Bytes
import CallWire.Io.Error

/-!
Where bytes go: anything that accepts bytes piecemeal and can be flushed. A sink has a weight that
never rises and falls with every interruption, so that trying again ends. A `WriteScript` is a sink
that plays back a list of partial acceptances and errors and remembers what it accepted.
-/

namespace CallWire

inductive WriteOutcome
  /-- That many bytes from the front were accepted. -/
  | accepted (count : Nat)
  | failed (error : IoError)
  deriving DecidableEq, Repr

class ByteSink (σ : Type) where
  write : Bytes → σ → WriteOutcome × σ
  flush : σ → Except IoError Unit × σ
  weight : σ → Nat
  write_weight : ∀ content sink, weight (write content sink).2 ≤ weight sink
  write_interrupted : ∀ content sink error, (write content sink).1 = .failed error →
    error.isInterruption = true → weight (write content sink).2 < weight sink
  flush_interrupted : ∀ sink error, (flush sink).1 = .error error →
    error.isInterruption = true → weight (flush sink).2 < weight sink

inductive WriteItem
  | accept (count : Nat)
  | error (error : IoError)
  deriving DecidableEq, Repr

structure WriteScript where
  items : List WriteItem
  flushes : List (Except IoError Unit)
  accepted : Bytes := []
  calls : Nat := 0
  flushCalls : Nat := 0

namespace WriteScript

/-- Play the next item; after the last item everything is accepted. -/
def write (content : Bytes) (script : WriteScript) : WriteOutcome × WriteScript :=
  match script.items with
  | [] =>
    (.accepted content.length,
      { script with accepted := script.accepted ++ content, calls := script.calls + 1 })
  | .accept count :: rest =>
    (.accepted (content.take count).length,
      { script with
        items := rest, accepted := script.accepted ++ content.take count
        calls := script.calls + 1 })
  | .error error :: rest =>
    (.failed error, { script with items := rest, calls := script.calls + 1 })

/-- Play the next flush; after the last one all succeed. -/
def flush (script : WriteScript) : Except IoError Unit × WriteScript :=
  match script.flushes with
  | [] => (.ok (), { script with flushCalls := script.flushCalls + 1 })
  | result :: rest => (result, { script with flushes := rest, flushCalls := script.flushCalls + 1 })

instance : ByteSink WriteScript where
  write := write
  flush := flush
  weight script := script.items.length + script.flushes.length
  write_weight content script := by
    unfold write
    split <;> simp [*]
  write_interrupted content script error failed _ := by
    unfold write at failed ⊢
    split at failed <;> simp_all
  flush_interrupted script error failed _ := by
    unfold flush at failed ⊢
    split at failed <;> simp_all

end WriteScript
end CallWire
