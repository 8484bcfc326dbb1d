import CallWire.Wire.Decoding
import CallWire.Wire.Encoding

/-!
Walks: sequences of cursor and writer operations, as a caller makes them. A reading walk keeps a
stack of cursors put aside, each a copy to which it can return.
-/

namespace CallWire

/-- What a caller may do with a cursor. -/
inductive ReadingStep
  | number (width : Nat)
  | length
  | count
  | take (n : Nat)
  | rest
  | value (k : Kind)
  /-- Put a copy of the cursor aside. -/
  | save
  /-- Go on from the copy put aside last, if there is one. -/
  | restore

inductive ReadingYield
  | number (width n : Nat)
  | bytes (content : Bytes)
  | value (k : Kind) (a : k.Value)
  /-- The number of cursors put aside after the step. -/
  | depth (n : Nat)

structure ReadingWalk where
  cursor : Cursor
  saved : List Cursor

namespace ReadingWalk

def start (input : Bytes) : ReadingWalk := ⟨Cursor.start input, []⟩

def read {α : Type} (walk : ReadingWalk) (reading : Reading α) (yield : α → ReadingYield) :
    Except WireError ReadingYield × ReadingWalk :=
  let (result, cursor) := reading.outcome walk.cursor
  (result.map yield, { walk with cursor })

def step (walk : ReadingWalk) : ReadingStep → Except WireError ReadingYield × ReadingWalk
  | .number width => walk.read (Cursor.takeNumber width) (.number width)
  | .length => walk.read Cursor.takeLength (.number lengthWidth)
  | .count => walk.read Cursor.takeCount (.number lengthWidth)
  | .take n => walk.read (Cursor.take n) .bytes
  | .rest => walk.read Cursor.peekRest .bytes
  | .value k => walk.read k.reading (.value k)
  | .save =>
    let saved := walk.cursor :: walk.saved
    (.ok (.depth saved.length), { walk with saved })
  | .restore =>
    match walk.saved with
    | [] => (.ok (.depth 0), walk)
    | cursor :: saved => (.ok (.depth saved.length), ⟨cursor, saved⟩)

def run (walk : ReadingWalk) :
    List ReadingStep → List (Except WireError ReadingYield × Cursor)
  | [] => []
  | s :: rest =>
    let (result, next) := walk.step s
    (result, next.cursor) :: next.run rest

end ReadingWalk

/-- Let a writer take the lists of pieces one after the other, each up to its first failure; the
answer holds each result with the writer after it. -/
def Writer.walk (w : Writer) : List (List Piece) → List (Except WireError Unit × Writer)
  | [] => []
  | pieces :: rest =>
    let (next, result) := w.putAll pieces
    (result, next) :: next.walk rest

end CallWire
