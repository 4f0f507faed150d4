import TextScan.Buffer.Search
import TextScan.Location
import TextScan.Number

/-! Streams: windows on a buffer. A window is known by its two places in the buffer; every
way of cutting it answers windows on the same buffer, and none of them copies a unit. What
a window is asked is looked up in the buffer between the two places. A search that would
have to read outside the buffer has no answer at all. -/

namespace TextScan

/-- The window on a buffer from `start` on and before `stop`. A bound is written as it was
given for as long as it has not moved. -/
structure Stream where
  buffer : Buffer
  start : Nat
  stop : Nat
  startForm : NumberForm
  stopForm : NumberForm
deriving DecidableEq

namespace Stream

def unit (stream : Stream) : CharUnit := stream.buffer.unit

def size (stream : Stream) : Nat := stream.stop - stream.start

def isEmpty (stream : Stream) : Bool := stream.start == stream.stop

def content (stream : Stream) : List Nat :=
  (stream.buffer.units.drop stream.start).take stream.size

structure Valid (stream : Stream) : Prop where
  start_le_stop : stream.start ≤ stream.stop
  stop_le_size : stream.stop ≤ stream.buffer.size

/-- The window from `start` to `stop`, where a negative or excessive bound stands for
the nearest place in the buffer and a stop before the start leaves nothing. -/
def ofBounds (buffer : Buffer) (start : Int) (stop : Option Int) : Stream :=
  let low := min start.toNat buffer.size
  let high := match stop with
    | none => buffer.size
    | some stop => min (max stop.toNat low) buffer.size
  ⟨buffer, low, high, .number, .number⟩

def ofBuffer (buffer : Buffer) : Stream := ⟨buffer, 0, buffer.size, .number, .number⟩

/-- The window with its bounds written in the given forms. -/
def written (stream : Stream) (startForm stopForm : NumberForm) : Stream :=
  { stream with startForm, stopForm }

instance : Inhabited Stream := ⟨ofBuffer default⟩

def between (stream : Stream) (start stop : Nat) : Stream :=
  ⟨stream.buffer, start, stop, .number, .number⟩

def upTo (stream : Stream) (place : Nat) : Stream :=
  { stream with stop := place, stopForm := .number }

def onFrom (stream : Stream) (place : Nat) : Stream :=
  { stream with start := place, startForm := .number }

def cutAt (stream : Stream) (place : Nat) : Stream × Stream :=
  (stream.upTo place, stream.onFrom place)

/-- The empty window at the start, between the start and itself. -/
def atStart (stream : Stream) : Stream :=
  { stream with stop := stream.start, stopForm := stream.startForm }

/-- The empty window at the stop, between the stop and itself. -/
def atStop (stream : Stream) : Stream :=
  { stream with start := stream.stop, startForm := stream.stopForm }

/-- The window narrowed to offsets from `start` to `stop` in it, bounds being moved to
the nearest place in the window and a stop before the start leaving nothing. -/
def narrow (stream : Stream) (start : Int) (stop : Option Int) : Stream :=
  let low := min start.toNat stream.size
  let high := match stop with
    | none => stream.size
    | some stop => min (max stop.toNat low) stream.size
  stream.between (stream.start + low) (stream.start + high)

/-- The units from offset `start` to offset `stop`, each bound moved on its own to the
nearest place in the window; bounds that cross leave nothing, at the start. -/
def slice (stream : Stream) (start stop : Option Int) : Stream :=
  let low := match start with
    | none => 0
    | some start => min start.toNat stream.size
  let high := match stop with
    | none => stream.size
    | some stop => min stop.toNat stream.size
  stream.between (stream.start + low) (stream.start + if high < low then low else high)

def front? (stream : Stream) : Option Nat :=
  if stream.isEmpty then none else stream.buffer.units[stream.start]?

def back? (stream : Stream) : Option Nat :=
  if stream.isEmpty then none else stream.buffer.units[stream.stop - 1]?

/-- The unit at an offset; a negative offset is out of range. -/
def at? (stream : Stream) (offset : Int) : Option Nat :=
  if 0 ≤ offset ∧ offset < stream.size then
    stream.buffer.units[stream.start + offset.toNat]?
  else none

def startsWith (stream : Stream) (needle : List Nat) : Option Bool :=
  stream.buffer.matchesAt needle stream.start stream.stop

def endsWith (stream : Stream) (needle : List Nat) : Option Bool :=
  stream.buffer.matchesBefore needle stream.start stream.stop

/-- Two streams of one kind of unit, text or numbers, compare by their content; streams
of different kinds share no unit and are equal only when both are empty. -/
def equalsStream (stream other : Stream) : Bool :=
  (stream.buffer.equalBetween stream.start stream.stop other.buffer other.start
    other.stop).getD false

/-- The units in the window as a buffer of their own. -/
def extract (stream : Stream) : Buffer := stream.buffer.extract stream.start stream.stop

/-- The line and the column of the front: lines end with a line feed, and columns count
units from the last one, or from before the buffer where there is none. -/
def location? (stream : Stream) : Option Location := do
  let ended ← stream.buffer.countUnit 10 0 stream.start
  let last ← stream.buffer.findLastUnit? 10 0 stream.start
  pure ⟨ended + 1, (stream.start - last.getD (-1)).toNat, stream.start⟩

end Stream

end TextScan
