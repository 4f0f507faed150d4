import TextScan.Argument.Bound
import TextScan.Argument.Walk
import TextScan.Config

/-! The operations of a stream on values. An operation either faults, leaving the stream
as it is, or answers something together with the stream as it is left. -/

namespace TextScan

/-- How an operation finds the place it stops at: at a match or at the end of matches,
by a whole text or by a set of characters, and whether it takes nothing where no stop
is found. -/
structure Stopping where
  whileMatching : Bool
  anyOf : Bool
  orEmpty : Bool
deriving DecidableEq, Repr

inductive Operation where
  | isEmpty
  | size
  | byteSize
  | has (count : Number)
  | front
  | back
  | at (offset : Number)
  | slice (start stop : Option Number)
  | item (key : Value)
  | startsWith (text : Value)
  | startsWithAny (chars : Value)
  | endsWith (text : Value)
  | endsWithAny (chars : Value)
  | text
  | view
  | location (file : Value)
  | copy
  | drop (count : Number)
  | take (count : Number)
  | consume (char : Value)
  | extract (count : Number)
  | takeTo (stopping : Stopping) (target : Value)
  | dropTo (stopping : Stopping) (target : Value)
  | takeDelimited (delimiter : Value)
  | takeDelimitedAny (delimiters : Value)
  | trim (chars : Value)
  | trimFront (chars : Value)
  | trimBack (chars : Value)
  | lines (separator : Value)
  | truth
  | toList
  | plain
  | shown
  | hash
  | buffer

/-- What an operation answers: a value, which may be a new stream, or its own stream. -/
inductive Outcome where
  | value (value : Value)
  | itself

namespace Stream

def coerce {α : Type} (stream : Stream) (result : Except UnitFault α) : Except Fault α :=
  result.mapError (.unit (some stream.unit))

def unitValue (stream : Stream) : Option Nat → Value
  | none => .null
  | some code => .ofUnit stream.unit code

def sequence (stream : Stream) : Sequence := stream.buffer.backing.sequence

/-- The answer of a search that read no place outside the buffer. -/
def searched {α : Type} (stream : Stream) : Option α → Except Fault α
  | some answer => .ok answer
  | none => .error (.outside stream.sequence)

/-- The place where an operation stops. A test is asked for each unit; any other target is
a text or, for the forms that take any of several characters, a set. -/
def stop? (stream : Stream) (stopping : Stopping) (target : Value) : Except Fault (Option Nat) :=
  if stopping.anyOf then do
    let chars ← stream.coerce (stream.unit.charset target)
    stream.searched
      (stream.findWhere? fun code => chars.contains code != stopping.whileMatching)
  else match target.test? with
    | some test =>
      stream.searched
        (stream.findWhere? fun code => test.holds Value.truth code != stopping.whileMatching)
    | none => do
      let needle ← stream.coerce (stream.unit.text target)
      stream.searched (if stopping.whileMatching then stream.stopAfterRepeats? needle
        else stream.findText? needle stream.start)

def trimSet (stream : Stream) (chars : Value) : Except Fault (List Nat) :=
  stream.coerce (stream.unit.charset chars)

/-- A condition that is asserted, when assertions are checked. -/
def check (environment : Environment) (condition : Bool) (failure : Check) :
    Except Fault Unit :=
  if condition || !environment.checksAssertions then .ok () else .error (.assertion failure)

/-- A count is asserted not to be negative. -/
def checkCount (environment : Environment) (count : Number) (failure : Check) :
    Except Fault Unit :=
  check environment (!count.precedes (.whole 0)) failure

/-- Takes the units before a place, which is asserted to lie in the window. -/
def advanceTo (stream : Stream) (environment : Environment) (place : Nat) :
    Except Fault (Stream × Stream) := do
  check environment (decide (stream.start ≤ place ∧ place ≤ stream.stop)) .heldCount
  pure (stream.cutAt place)

/-- Takes the units before a stop. Where there is no stop, either all of them are taken
or, with nothing moved, none. -/
def takeTo (stream : Stream) (environment : Environment) (stop : Option Nat)
    (orEmpty : Bool) : Except Fault (Stream × Stream) :=
  match stop with
  | some place => stream.advanceTo environment place
  | none =>
    if orEmpty then .ok (stream.atStart, stream)
    else stream.advanceTo environment stream.stop

/-- The unit at an offset, if the window has one there. -/
def unitAt (stream : Stream) (offset : Number) : Except Fault Value :=
  match offset with
  | .whole offset => .ok (stream.unitValue (stream.at? offset))
  | offset =>
    if offset.precedes (.whole 0) || !offset.precedes (.whole stream.size) then .ok .null
    else .error (.wrongOffset stream.sequence "float")

/-- The slice between two bounds. Windows have whole bounds here. A fraction that is still one
when it is moved inside is refused; to keep it would make a window that nothing can be read
from, and such windows are left out. -/
def sliceBetween (stream : Stream) (start stop : Option Number) : Except Fault Stream :=
  let low := (start.getD (.whole 0)).clamp stream.size
  let given := (stop.getD (.whole stream.size)).clamp stream.size
  let high := if given.precedes low then low else given
  match low, high with
  | .whole low, .whole high => .ok (stream.slice (some low) (some high))
  | _, _ => .error .wrongBound

/-- Up to `count` units. A fraction inside the window is refused, as in `sliceBetween`. -/
def takeUpTo (stream : Stream) (environment : Environment) (count : Number) :
    Except Fault (Stream × Stream) :=
  match count.clamp stream.size with
  | .whole count => stream.advanceTo environment (stream.start + count.toNat)
  | .decimal _ _ => .error .wrongBound

/-- Exactly `count` units, if there are that many. A fraction inside the window is refused
with nothing moved; the window that such a count would leave behind is left out. -/
def extractExactly (stream : Stream) (count : Number) :
    Except Fault (Option (List Nat × Stream)) :=
  match count with
  | .whole count => .ok (stream.extract? count)
  | count =>
    if count.precedes (.whole 0) || (Number.whole stream.size).precedes count then .ok none
    else .error (.notInteger "float")

/-- The item at an offset, or the slice of a step of one. -/
def item (stream : Stream) (key : Value) : Except Fault Value :=
  match key.slice? with
  | some (start, stop, step) =>
    if step.equal .null || step.equal (.int 1) then do
      let start ← start.sliceBound?
      let stop ← stop.sliceBound?
      let window ← stream.sliceBetween start stop
      pure (.stream window)
    else .error .steppedSlice
  | none => do
    let offset ← key.numberRight .le
    stream.unitAt offset

/-- Whether a unit, if there is one, is among the given characters; those are looked at
only if there is a unit. -/
def isAnyOf (stream : Stream) (code : Option Nat) (chars : Value) : Except Fault Bool :=
  match code with
  | none => .ok false
  | some code => do
    let chars ← stream.coerce (stream.unit.charset chars)
    pure (chars.contains code)

/-- Performs an operation and answers what it gave and the stream it left. -/
def perform (environment : Environment) (stream : Stream) :
    Operation → Except Fault (Outcome × Stream)
  | .isEmpty => .ok (.value (.bool stream.isEmpty), stream)
  | .size => .ok (.value (.int stream.size), stream)
  | .byteSize => .ok (.value (.int (stream.size * stream.unit.width)), stream)
  | .has count => .ok (.value (.bool !(Number.whole stream.size).precedes count), stream)
  | .front => .ok (.value (stream.unitValue stream.front?), stream)
  | .back => .ok (.value (stream.unitValue stream.back?), stream)
  | .at offset => do
    let answer ← stream.unitAt offset
    pure (.value answer, stream)
  | .slice start stop => do
    let window ← stream.sliceBetween start stop
    pure (.value (.stream window), stream)
  | .item key => do
    let answer ← stream.item key
    pure (.value answer, stream)
  | .startsWith text => do
    let needle ← stream.coerce (stream.unit.text text)
    let answer ← stream.searched (stream.startsWith needle)
    pure (.value (.bool answer), stream)
  | .startsWithAny chars => do
    let answer ← stream.isAnyOf stream.front? chars
    pure (.value (.bool answer), stream)
  | .endsWith text => do
    let needle ← stream.coerce (stream.unit.text text)
    let answer ← stream.searched (stream.endsWith needle)
    pure (.value (.bool answer), stream)
  | .endsWithAny chars => do
    let answer ← stream.isAnyOf stream.back? chars
    pure (.value (.bool answer), stream)
  | .text => .ok (.value (.ofBuffer stream.extract), stream)
  | .view =>
    match stream.extract.memory? with
    | some view => .ok (.value (.memory view), stream)
    | none => .error (.unit (some stream.unit) .noMemory)
  | .location file => do
    let place ← stream.searched stream.location?
    pure (.value (.ofLocation place stream.startForm file), stream)
  | .copy => .ok (.value (.stream stream), stream)
  | .drop count => do
    checkCount environment count .dropCount
    let (_, rest) ← stream.takeUpTo environment count
    pure (.itself, rest)
  | .take count => do
    let (taken, rest) ← stream.takeUpTo environment count
    pure (.value (.stream taken), rest)
  | .consume char => do
    let code ← stream.coerce (stream.unit.char char)
    match stream.consume? code with
    | some rest => pure (.value (.bool true), rest)
    | none => pure (.value (.bool false), stream)
  | .extract count => do
    checkCount environment count .extractCount
    match ← stream.extractExactly count with
    | some (codes, rest) => pure (.value (.tuple (codes.map (.ofUnit stream.unit))), rest)
    | none => pure (.value .null, stream)
  | .takeTo stopping target => do
    let stop ← stream.stop? stopping target
    let (taken, rest) ← stream.takeTo environment stop stopping.orEmpty
    pure (.value (.stream taken), rest)
  | .dropTo stopping target => do
    let stop ← stream.stop? stopping target
    let (_, rest) ← stream.takeTo environment stop stopping.orEmpty
    pure (.itself, rest)
  | .takeDelimited delimiter => do
    let needle ← stream.coerce (stream.unit.text delimiter)
    match ← stream.searched (stream.takeDelimited? needle) with
    | some (inner, rest) => pure (.value (.stream inner), rest)
    | none => pure (.value .null, stream)
  | .takeDelimitedAny delimiters =>
    if stream.isEmpty then .ok (.value .null, stream)
    else do
      let chars ← stream.coerce (stream.unit.charset delimiters)
      match ← stream.searched (stream.takeDelimitedBy? chars) with
      | some (inner, rest) => pure (.value (.stream inner), rest)
      | none => pure (.value .null, stream)
  | .trim chars => do
    let given := environment.trimmed chars
    let front ← stream.trimSet given
    let rest ← stream.searched (stream.trimFront front.contains)
    let back ← stream.trimSet given.spentAsChars
    let rest ← stream.searched (rest.trimBack back.contains)
    pure (.itself, rest)
  | .trimFront chars => do
    let chars ← stream.trimSet (environment.trimmed chars)
    let rest ← stream.searched (stream.trimFront chars.contains)
    pure (.itself, rest)
  | .trimBack chars => do
    let chars ← stream.trimSet (environment.trimmed chars)
    let rest ← stream.searched (stream.trimBack chars.contains)
    pure (.itself, rest)
  | .lines separator => do
    let separator := environment.separating separator
    let codes ← stream.coerce (stream.unit.text separator)
    pure (.value (.lines ⟨stream, codes, stream.unit.forms separator⟩), stream)
  | .truth => .ok (.value (.bool !stream.isEmpty), stream)
  | .toList => .ok (.value (.list (stream.content.map (.ofUnit stream.unit))), stream)
  | .plain => .ok (.value (.text (Value.ofBuffer stream.extract).plain), stream)
  | .shown => .ok (.value (.text stream.shown), stream)
  | .hash => .error (.unhashable "Stream")
  | .buffer => .ok (.value (.ofBuffer stream.buffer), stream)

/-- The walks that an operation goes through as it reads its argument. Some operations
look at it only if the window has a unit. -/
def walksRead (environment : Environment) (stream : Stream) : Operation → List Nat
  | .startsWith text => stream.unit.walksInText text
  | .startsWithAny chars => if stream.isEmpty then [] else stream.unit.walksInCharset chars
  | .endsWith text => stream.unit.walksInText text
  | .endsWithAny chars => if stream.isEmpty then [] else stream.unit.walksInCharset chars
  | .consume char => stream.unit.walksInText char
  | .takeTo stopping target => walksInTarget stopping target
  | .dropTo stopping target => walksInTarget stopping target
  | .takeDelimited delimiter => stream.unit.walksInText delimiter
  | .takeDelimitedAny delimiters =>
    if stream.isEmpty then [] else stream.unit.walksInCharset delimiters
  | .trim chars => stream.unit.walksInCharset (environment.trimmed chars)
  | .trimFront chars => stream.unit.walksInCharset (environment.trimmed chars)
  | .trimBack chars => stream.unit.walksInCharset (environment.trimmed chars)
  | .lines separator => stream.unit.walksInText (environment.separating separator)
  | _ => []
where
  walksInTarget (stopping : Stopping) (target : Value) : List Nat :=
    if stopping.anyOf then stream.unit.walksInCharset target
    else stream.unit.walksInText target

end Stream

end TextScan
