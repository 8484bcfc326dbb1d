import CallWire.Io.Sink
import CallWire.Socket.Endpoint

/-!
A link is a connection seen from one of its ends. What the near end writes goes to the far end,
unless that direction has ended. Whether there is room for it there, or the call to write is held
until there is, is not decided here: no byte is lost or moved past another either way.
-/

namespace CallWire

structure Link where
  near : Endpoint := {}
  far : Endpoint := {}
  deriving DecidableEq, Repr

inductive Direction
  | reading
  | writing
  | both
  deriving DecidableEq, Repr

namespace Link

/-- The same connection seen from the other end. -/
def swap (l : Link) : Link := ⟨l.far, l.near⟩

/-- The bytes that the next turn lets a call have of its content. -/
def portion (content : Bytes) : List WriteTurn → Bytes
  | .upTo count :: _ => content.take count
  | _ => content

def write (content : Bytes) (l : Link) : WriteOutcome × Link :=
  match l.near.writeTurns with
  | .fails error :: rest => (.failed error, { l with near := { l.near with writeTurns := rest } })
  | turns =>
    if l.far.isEnded then
      (.failed .brokenPipe, l)
    else
      let moved := portion content turns
      (.accepted moved.length,
        { near := { l.near with writeTurns := turns.tail }
          far := { l.far with inbox := l.far.inbox ++ moved } })

instance : ByteSink Link where
  write := write
  flush l := (.ok (), l)
  weight l := l.near.writeTurns.length
  write_weight content l := by
    unfold write
    split
    · simp [*]
    · split <;> simp
  write_interrupted content l error failed interrupted := by
    unfold write at failed ⊢
    split at failed
    · simp [*]
    · split at failed
      · cases failed
        exact absurd interrupted (by decide)
      · cases failed
  flush_interrupted _ _ failed := by cases failed

/-- Shutting down ends a direction for both sides; it never fails. -/
def shutdown (direction : Direction) (l : Link) : Link :=
  { near := { l.near with isEnded := l.near.isEnded || direction != .writing }
    far := { l.far with isEnded := l.far.isEnded || direction != .reading } }

def duplicate (l : Link) : Link :=
  { l with near := { l.near with descriptors := l.near.descriptors + 1 } }

/-- Both directions end, and the far end is reset if the near end leaves abruptly or with bytes
unread. -/
def close (isAbrupt : Bool) (l : Link) : Link :=
  { near := { l.near with isEnded := true, descriptors := 0 }
    far :=
      { l.far with
        isEnded := true
        isReset := l.far.isReset || isAbrupt || !l.near.inbox.isEmpty } }

/-- One descriptor less; with the last one the end closes. -/
def release (l : Link) : Link :=
  if l.near.descriptors ≤ 1 then l.close false
  else { l with near := { l.near with descriptors := l.near.descriptors - 1 } }

@[simp] theorem swap_swap (l : Link) : l.swap.swap = l := rfl

end Link
end CallWire
