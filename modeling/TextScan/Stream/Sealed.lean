import TextScan.Argument
import TextScan.Argument.Holder

/-! Streams over views whose items cannot be looked up. Such a view is accepted as a buffer by
its format, and a window on it has a size like any other; but whatever has to look at a unit
faults. -/

namespace TextScan

/-- A view that is accepted as a buffer though its items cannot be looked up. -/
structure SealedView where
  view : MemoryView
  unit : CharUnit
  accepted : (Value.memory view).unitOf = .ok unit
  unindexed : view.format.isIndexed = false

/-- The window on a sealed view from `start` on and before `stop`. -/
structure SealedStream where
  source : SealedView
  start : Nat
  stop : Nat

namespace SealedStream

def ofView (source : SealedView) : SealedStream := ⟨source, 0, source.view.cells.length⟩

def size (stream : SealedStream) : Nat := stream.stop - stream.start

def isEmpty (stream : SealedStream) : Bool := stream.start == stream.stop

def fault (stream : SealedStream) : Fault :=
  .unit none (.blocked (.unindexed stream.source.view.format.name))

/-- The unit at a place, where there would be one. -/
def lookUp (stream : SealedStream) (_ : Nat) : Except Fault Nat := .error stream.fault

def front (stream : SealedStream) : Except Fault (Option Nat) :=
  if stream.isEmpty then .ok none else (stream.lookUp stream.start).map some

def back (stream : SealedStream) : Except Fault (Option Nat) :=
  if stream.isEmpty then .ok none else (stream.lookUp (stream.stop - 1)).map some

def at? (stream : SealedStream) (offset : Int) : Except Fault (Option Nat) :=
  if 0 ≤ offset ∧ offset < stream.size then
    (stream.lookUp (stream.start + offset.toNat)).map some
  else .ok none

/-- Exactly `count` units, if there are that many, and what is left. The window has moved before
the first of them is looked up. -/
def extract (stream : SealedStream) (count : Nat) :
    Except Fault (Option (List Nat)) × SealedStream :=
  if stream.size < count then (.ok none, stream)
  else
    (((List.range' stream.start count).mapM stream.lookUp).map some,
      { stream with start := stream.start + count })

def toList (stream : SealedStream) : Except Fault (List Nat) :=
  (List.range' stream.start stream.size).mapM stream.lookUp

/-- Whether the front is a character, which is read first. -/
def consume (stream : SealedStream) (char : Value) : Except Fault (Bool × SealedStream) := do
  let code ← (stream.source.unit.char char).mapError (.unit (some stream.source.unit))
  match ← stream.front with
  | none => pure (false, stream)
  | some front =>
    pure (if front = code then (true, { stream with start := stream.start + 1 })
      else (false, stream))

end SealedStream

end TextScan
