import TextScan.Error
import TextScan.Value

namespace TextScan

/-- What a function or method takes besides the object it is asked of: arguments it
needs, by name, and how many more. -/
structure Signature where
  callee : String
  required : List String
  optional : Nat
deriving DecidableEq, Repr

/-- Refuses a number of arguments that does not fit. -/
def Signature.admit (signature : Signature) (given : Nat) : Except Fault Unit :=
  let least := signature.required.length
  if least + signature.optional < given then
    .error (.surplusArguments signature.callee (least + 1) (least + signature.optional + 1)
      (given + 1))
  else if given < least then
    .error (.missingArguments signature.callee (signature.required.drop given))
  else .ok ()

namespace Value

/-- A number to be compared with a whole one by `relation`, as its left operand. -/
def numberLeft (relation : Relation) (value : Value) : Except Fault Number :=
  match value.number? with
  | some number => .ok number
  | none => .error (.incomparable relation value.fullTypeName "int")

/-- A number to be compared with a whole one by `relation`, as its right operand. -/
def numberRight (relation : Relation) (value : Value) : Except Fault Number :=
  match value.number? with
  | some number => .ok number
  | none => .error (.incomparable relation "int" value.fullTypeName)

/-- A bound of a slice, which may be left out. -/
def sliceBound? : Value → Except Fault (Option Number)
  | null => .ok none
  | value => (value.numberRight .gt).map some

def bound? (value : Value) : Option Bound := value.number?.map fun number => ⟨number, value.form⟩

/-- The bounds of a new window on `size` units: the start moved to the nearest place there
is, the stop to the nearest from the start on. A stop left out is the last place. -/
def windowBounds (size : Nat) (start stop : Value) : Except Fault (Bound × Bound) := do
  let some given := start.bound? | throw (.incomparable .gt "int" start.fullTypeName)
  let low := (given.larger (.ofInt 0)).smaller (.ofInt size)
  match stop with
  | null => pure (low, .ofInt size)
  | stop =>
    let some given := stop.bound?
      | throw (.incomparable .gt low.typeName stop.fullTypeName)
    pure (low, (given.larger low).smaller (.ofInt size))

end Value

/-- The window on a window from one offset to another. Its bounds are plain numbers, whole
ones as in `Stream.sliceBetween`. -/
def Stream.part (stream : Stream) (start stop : Value) : Except Fault Stream := do
  let (low, high) ← Value.windowBounds stream.size start stop
  match low.number, high.number with
  | .whole start, .whole stop => pure (stream.narrow start (some stop))
  | _, _ => throw .wrongBound

/-- The window on a buffer from one place to another. Its bounds are kept as they were
given; a fraction inside the buffer is refused. -/
def Buffer.window (buffer : Buffer) (start stop : Value) : Except Fault Stream := do
  let (low, high) ← Value.windowBounds buffer.size start stop
  match low.number, high.number with
  | .whole start, .whole stop =>
    pure ((Stream.ofBounds buffer start (some stop)).written low.form high.form)
  | _, _ => throw .wrongBound

end TextScan
