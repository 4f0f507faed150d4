import TextScan.Stream

namespace TextScan.Stream

/-- A place found, which is a natural number like the bounds of the window. -/
def found (answer : Option Int) : Option Nat := answer.map Int.toNat

/-- The place, from a given one on, where a text stands whole in the window. -/
def findText? (stream : Stream) (needle : List Nat) (start : Nat) : Option (Option Nat) :=
  (stream.buffer.find? needle start stream.stop).map found

def findUnit? (stream : Stream) (code start : Nat) : Option (Option Nat) :=
  (stream.buffer.findUnit? code start stream.stop).map found

def findWhere? (stream : Stream) (test : Nat → Bool) : Option (Option Nat) :=
  (Buffer.Itemwise.findWhere? stream.buffer.read test stream.start stream.stop).map found

def findLast? (stream : Stream) (test : Nat → Bool) : Option (Option Nat) :=
  (Buffer.Itemwise.findLast? stream.buffer.read test stream.start stream.stop).map found

/-- The place after whole repetitions of a text. A single unit, or a longer text whose
repetitions fill the window, leaves no stop; the empty text stops at once. -/
def stopAfterRepeats? (stream : Stream) : (needle : List Nat) → Option (Option Nat)
  | [code] => stream.findWhere? fun other => other != code
  | needle =>
    (stream.buffer.runEnd needle stream.start stream.stop).map fun (place : Int) =>
      if place = stream.stop ∧ needle ≠ [] then none else some place.toNat

/-- Exactly `count` units, if there are that many. -/
def extract? (stream : Stream) (count : Int) : Option (List Nat × Stream) :=
  if count < 0 ∨ (stream.size : Int) < count then none
  else some ((stream.buffer.units.drop stream.start).take count.toNat,
    stream.onFrom (stream.start + count.toNat))

/-- What is left after the first unit, if that is the given one. -/
def consume? (stream : Stream) (code : Nat) : Option Stream :=
  if stream.front? = some code then some (stream.onFrom (stream.start + 1)) else none

/-- Skips an opening delimiter, takes the units before the next one and skips that too.
An empty delimiter delimits nothing. -/
def takeDelimited? (stream : Stream) (delimiter : List Nat) :
    Option (Option (Stream × Stream)) :=
  if delimiter.isEmpty then some none
  else do
    let opens ← stream.startsWith delimiter
    if opens then
      let inside := stream.start + delimiter.length
      let closing ← stream.findText? delimiter inside
      pure (closing.map fun place =>
        (stream.between inside place, stream.onFrom (place + delimiter.length)))
    else pure none

/-- As `takeDelimited?`, where the front unit delimits if it is one of a set. -/
def takeDelimitedBy? (stream : Stream) (delimiters : List Nat) :
    Option (Option (Stream × Stream)) :=
  match stream.front? with
  | none => some none
  | some opening =>
    if opening ∈ delimiters then do
      let inside := stream.start + 1
      let closing ← stream.findUnit? opening inside
      pure (closing.map fun place =>
        (stream.between inside place, stream.onFrom (place + 1)))
    else some none

/-- Leaves out the units at the front that pass the test. Where all do, the start moves
to the stop. -/
def trimFront (stream : Stream) (test : Nat → Bool) : Option Stream :=
  (stream.findWhere? fun code => !test code).map fun
    | some place => stream.onFrom place
    | none => stream.atStop

/-- Leaves out the units at the back that pass the test. Where all do, the stop moves to
the start. -/
def trimBack (stream : Stream) (test : Nat → Bool) : Option Stream :=
  (stream.findLast? fun code => !test code).map fun
    | some place => stream.upTo (place + 1)
    | none => stream.atStart

end TextScan.Stream
