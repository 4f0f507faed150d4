import TextScan.Buffer.Itemwise
import TextScan.Buffer.Stretch

/-! Searching a buffer between absolute bounds. Text and byte strings are searched by
whole stretches, arrays and views item by item. Bounds that cross hold nothing, and bounds
inside the buffer always give an answer, which is a place in it; a search that would have
to read outside has none. -/

namespace TextScan.Buffer

/-- The place where a stretch starts: a negative bound counts from the end. -/
def startOf (buffer : Buffer) (bound : Int) : Nat :=
  (if bound < 0 then bound + buffer.size else bound).toNat

/-- The place before which a stretch stops, at the latest the end of the buffer. -/
def stopOf (buffer : Buffer) (bound : Int) : Nat := min (buffer.startOf bound) buffer.size

theorem startOf_ofNat (buffer : Buffer) (bound : Nat) : buffer.startOf bound = bound := by
  have natural : ¬ (bound : Int) < 0 := by omega
  simp [startOf, natural]

theorem stopOf_ofNat {buffer : Buffer} {bound : Nat} (inside : bound ≤ buffer.size) :
    buffer.stopOf bound = bound := by
  rw [stopOf, startOf_ofNat]
  omega

/-- The leftmost place where the needle stands whole between the bounds. The empty
needle stands at the first bound, unless the bounds cross. -/
def find? (buffer : Buffer) (needle : List Nat) (start stop : Int) : Option (Option Int) :=
  if buffer.backing.isContiguous then
    some ((Stretch.find? buffer needle (buffer.startOf start) (buffer.stopOf stop)).map Int.ofNat)
  else Itemwise.find? buffer.read needle start stop

/-- The first place that holds a unit. -/
def findUnit? (buffer : Buffer) (code : Nat) (start stop : Int) : Option (Option Int) :=
  if buffer.backing.isContiguous then
    some ((Stretch.findUnit? buffer code (buffer.startOf start) (buffer.stopOf stop)).map Int.ofNat)
  else Itemwise.findUnit? buffer.read code start stop

/-- The last place that holds a unit. -/
def findLastUnit? (buffer : Buffer) (code : Nat) (start stop : Int) : Option (Option Int) :=
  if buffer.backing.isContiguous then
    some ((Stretch.findLastUnit? buffer code (buffer.startOf start)
      (buffer.stopOf stop)).map Int.ofNat)
  else Itemwise.findLastUnit? buffer.read code start stop

/-- The number of places that hold a unit. -/
def countUnit (buffer : Buffer) (code : Nat) (start stop : Int) : Option Nat :=
  if buffer.backing.isContiguous then
    some (Stretch.countUnit buffer code (buffer.startOf start) (buffer.stopOf stop))
  else Itemwise.countUnit buffer.read code start stop

/-- Whether the needle stands whole at the first bound. -/
def matchesAt (buffer : Buffer) (needle : List Nat) (start stop : Int) : Option Bool :=
  if buffer.backing.isContiguous then
    some (Stretch.matchesAt buffer needle (buffer.startOf start) (buffer.stopOf stop))
  else Itemwise.matchesAt buffer.read needle start stop

/-- Whether the needle stands whole before the last bound. -/
def matchesBefore (buffer : Buffer) (needle : List Nat) (start stop : Int) : Option Bool :=
  if buffer.backing.isContiguous then
    some (Stretch.matchesBefore buffer needle (buffer.startOf start) (buffer.stopOf stop))
  else Itemwise.matchesBefore buffer.read needle start stop

/-- The place after as many needles as stand in a row from a place on, `tries` at most. -/
def runEndFrom (buffer : Buffer) (needle : List Nat) (stop : Int) :
    (tries : Nat) → (place : Int) → Option Int
  | 0, place => some place
  | tries + 1, place => do
    let passed ← buffer.matchesAt needle place stop
    if passed then runEndFrom buffer needle stop tries (place + needle.length) else pure place

/-- The place after the run of whole needles at the first bound. -/
def runEnd (buffer : Buffer) (needle : List Nat) (start stop : Int) : Option Int :=
  if needle.isEmpty then some start
  else buffer.runEndFrom needle stop (buffer.size - start).toNat.succ start

/-- Whether two stretches hold the same units. Two contiguous buffers of one sort are
compared as stretches; any others item by item, where bounds that cross by the same
amount leave nothing to differ. -/
def equalBetween (first : Buffer) (start stop : Int) (second : Buffer) (start' stop' : Int) :
    Option Bool :=
  if stop - start ≠ stop' - start' then some false
  else if first.backing.isContiguous && first.backing.sameSort second.backing then
    some (Stretch.equal first (first.startOf start) (first.stopOf stop)
      second (second.startOf start') (second.stopOf stop'))
  else
    Itemwise.agreesWith (first.unit.isText == second.unit.isText) first.read second.read
      (stop - start).toNat start start'

end TextScan.Buffer
