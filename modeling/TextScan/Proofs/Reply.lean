import TextScan.Operation
import TextScan.Proofs.Scan

namespace TextScan

open Scan

/-- The answer to an operation on some content: a value, the window on a span, the lines
between separators, or the stream itself. -/
inductive Reply where
  | value (value : Value)
  | window (span : Span)
  | lines (separator : List Nat) (forms : List NumberForm)
  | itself

/-- Operations that tell where a window lies or what holds its units. -/
def Operation.exposes : Operation → Bool
  | .text => true
  | .view => true
  | .location _ => true
  | .plain => true
  | .shown => true
  | .buffer => true
  | _ => false

def Value.isFraction : Value → Bool
  | .fraction _ _ => true
  | _ => false

def Number.isWhole : Number → Bool
  | .whole _ => true
  | .decimal _ _ => false

/-- Operations whose counts, offsets and bounds are whole numbers. -/
def Operation.isWhole : Operation → Bool
  | .has count => count.isWhole
  | .at offset => offset.isWhole
  | .slice start stop => start.all Number.isWhole && stop.all Number.isWhole
  | .item key =>
    match key.slice? with
    | some (start, stop, _) => !start.isFraction && !stop.isFraction
    | none => !key.isFraction
  | .drop count => count.isWhole
  | .take count => count.isWhole
  | .extract count => count.isWhole
  | _ => true

def Value.stream? : Value → Option Stream
  | .stream window => some window
  | _ => none

/-- The streams that a value shows: itself, the stream it cuts into lines, or members. -/
def Value.streams : Value → List Stream
  | .stream window => [window]
  | .lines cut => [cut.stream]
  | .list members => members.filterMap stream?
  | _ => []

theorem Value.streams_ofUnit (unit : CharUnit) (code : Nat) :
    (Value.ofUnit unit code).streams = [] := by
  unfold Value.ofUnit
  split
  · rfl
  · rfl

theorem Value.streams_ofUnits (unit : CharUnit) (codes : List Nat) :
    (Value.list (codes.map (.ofUnit unit))).streams = [] := by
  rw [streams, List.filterMap_map, List.filterMap_eq_nil_iff]
  intro code _
  rw [Function.comp_apply, Value.ofUnit]
  split
  · rfl
  · rfl

namespace Content

variable (sequence : Sequence) (environment : Environment) (unit : CharUnit) (content : List Nat)

def whole : Span := ⟨0, content.length⟩

def coerce {α : Type} (result : Except UnitFault α) : Except Fault α :=
  result.mapError (.unit (some unit))

def unitValue : Option Nat → Value
  | none => .null
  | some code => .ofUnit unit code

theorem streams_unitValue (code : Option Nat) : (unitValue unit code).streams = [] := by
  cases code with
  | none => rfl
  | some code => exact Value.streams_ofUnit unit code

def unitAt (offset : Number) : Except Fault Value :=
  match offset with
  | .whole offset =>
    .ok (unitValue unit (if offset < 0 then none else content[offset.toNat]?))
  | offset =>
    if offset.precedes (.whole 0) || !offset.precedes (.whole content.length) then .ok .null
    else .error (.wrongOffset sequence "float")

/-- The span between two bounds, each moved to the nearest offset there is. -/
def sliceBetween (start stop : Option Number) : Except Fault Span :=
  let low := (start.getD (.whole 0)).clamp content.length
  let given := (stop.getD (.whole content.length)).clamp content.length
  let high := if given.precedes low then low else given
  match low, high with
  | .whole low, .whole high =>
    let first := min low.toNat content.length
    let last := min high.toNat content.length
    .ok ⟨first, if last < first then first else last⟩
  | _, _ => .error .wrongBound

def part (start stop : Value) : Except Fault Span := do
  let (low, high) ← Value.windowBounds content.length start stop
  match low.number, high.number with
  | .whole start, .whole stop =>
    let first := min start.toNat content.length
    pure ⟨first, min (max stop.toNat first) content.length⟩
  | _, _ => throw .wrongBound

def item (key : Value) : Except Fault Reply :=
  match key.slice? with
  | some (start, stop, step) =>
    if step.equal .null || step.equal (.int 1) then do
      let start ← start.sliceBound?
      let stop ← stop.sliceBound?
      let span ← sliceBetween content start stop
      pure (.window span)
    else .error .steppedSlice
  | none => do
    let offset ← key.numberRight .le
    (unitAt sequence unit content offset).map .value

def isAnyOf (code : Option Nat) (chars : Value) : Except Fault Bool :=
  match code with
  | none => .ok false
  | some code => do
    let chars ← coerce unit (unit.charset chars)
    pure (chars.contains code)

def cutAt (offset : Nat) : Span × Span := (⟨0, offset⟩, ⟨offset, content.length⟩)

def takeUpTo (count : Number) : Except Fault (Span × Span) :=
  match count.clamp content.length with
  | .whole count => .ok (cutAt content count.toNat)
  | .decimal _ _ => .error .wrongBound

def extractExactly (count : Number) : Except Fault (Option Nat) :=
  match count with
  | .whole count =>
    .ok (if count < 0 ∨ (content.length : Int) < count then none else some count.toNat)
  | count =>
    if count.precedes (.whole 0) || (Number.whole content.length).precedes count then .ok none
    else .error (.notInteger "float")

def stop? (stopping : Stopping) (target : Value) : Except Fault (Option Nat) :=
  if stopping.anyOf then do
    let chars ← coerce unit (unit.charset target)
    pure (findWhere? (fun code => chars.contains code != stopping.whileMatching) content)
  else match target.test? with
    | some test =>
      pure (findWhere?
        (fun (code : Nat) => test.holds Value.truth code != stopping.whileMatching) content)
    | none => do
      let needle ← coerce unit (unit.text target)
      pure (if stopping.whileMatching then afterRepeats? needle content
        else find? needle content)

def takeTo (stop : Option Nat) (orEmpty : Bool) : Span × Span :=
  match stop with
  | some offset => cutAt content offset
  | none => if orEmpty then (⟨0, 0⟩, whole content) else cutAt content content.length

def trimFront (test : Nat → Bool) : Nat :=
  (findWhere? (fun code => !test code) content).getD content.length

def trimBack (test : Nat → Bool) : Nat :=
  match findLast? (fun code => !test code) content with
  | some offset => offset + 1
  | none => 0

/-- The answer to an operation and the span that is left of the content. Operations that
tell more than the content does are answered nothing. An offset between two units is refused in
words of the sequence. -/
def reply : Operation → Except Fault (Reply × Span)
  | .isEmpty => .ok (.value (.bool content.isEmpty), whole content)
  | .size => .ok (.value (.int content.length), whole content)
  | .byteSize => .ok (.value (.int (content.length * unit.width)), whole content)
  | .has count =>
    .ok (.value (.bool !(Number.whole content.length).precedes count), whole content)
  | .front => .ok (.value (unitValue unit content.head?), whole content)
  | .back => .ok (.value (unitValue unit content.getLast?), whole content)
  | .at offset => do
    let answer ← unitAt sequence unit content offset
    pure (.value answer, whole content)
  | .slice start stop => do
    let span ← sliceBetween content start stop
    pure (.window span, whole content)
  | .item key => do
    let answer ← item sequence unit content key
    pure (answer, whole content)
  | .startsWith text => do
    let needle ← coerce unit (unit.text text)
    pure (.value (.bool (needle.isPrefixOf content)), whole content)
  | .startsWithAny chars => do
    let answer ← isAnyOf unit content.head? chars
    pure (.value (.bool answer), whole content)
  | .endsWith text => do
    let needle ← coerce unit (unit.text text)
    pure (.value (.bool (needle.isSuffixOf content)), whole content)
  | .endsWithAny chars => do
    let answer ← isAnyOf unit content.getLast? chars
    pure (.value (.bool answer), whole content)
  | .copy => .ok (.window (whole content), whole content)
  | .drop count => do
    Stream.checkCount environment count .dropCount
    let (_, rest) ← takeUpTo content count
    pure (.itself, rest)
  | .take count => do
    let (taken, rest) ← takeUpTo content count
    pure (.window taken, rest)
  | .consume char => do
    let code ← coerce unit (unit.char char)
    pure (if content.head? = some code then (.value (.bool true), ⟨1, content.length⟩)
      else (.value (.bool false), whole content))
  | .extract count => do
    Stream.checkCount environment count .extractCount
    match ← extractExactly content count with
    | some count =>
      pure (.value (.tuple ((content.take count).map (.ofUnit unit))), ⟨count, content.length⟩)
    | none => pure (.value .null, whole content)
  | .takeTo stopping target => do
    let stop ← stop? unit content stopping target
    let (taken, rest) := takeTo content stop stopping.orEmpty
    pure (.window taken, rest)
  | .dropTo stopping target => do
    let stop ← stop? unit content stopping target
    let (_, rest) := takeTo content stop stopping.orEmpty
    pure (.itself, rest)
  | .takeDelimited delimiter => do
    let needle ← coerce unit (unit.text delimiter)
    match delimited? needle content with
    | some size =>
      let inside := needle.length
      pure (.window ⟨inside, inside + size⟩, ⟨inside + size + needle.length, content.length⟩)
    | none => pure (.value .null, whole content)
  | .takeDelimitedAny delimiters =>
    if content.isEmpty then .ok (.value .null, whole content)
    else do
      let chars ← coerce unit (unit.charset delimiters)
      match enclosed? chars content with
      | some size => pure (.window ⟨1, 1 + size⟩, ⟨1 + size + 1, content.length⟩)
      | none => pure (.value .null, whole content)
  | .trim chars => do
    let given := environment.trimmed chars
    let front ← coerce unit (unit.charset given)
    let low := trimFront content front.contains
    let back ← coerce unit (unit.charset given.spentAsChars)
    pure (.itself, ⟨low, low + trimBack (content.drop low) back.contains⟩)
  | .trimFront chars => do
    let chars ← coerce unit (unit.charset (environment.trimmed chars))
    pure (.itself, ⟨trimFront content chars.contains, content.length⟩)
  | .trimBack chars => do
    let chars ← coerce unit (unit.charset (environment.trimmed chars))
    pure (.itself, ⟨0, trimBack content chars.contains⟩)
  | .lines separator => do
    let separator := environment.separating separator
    let codes ← coerce unit (unit.text separator)
    pure (.lines codes (unit.forms separator), whole content)
  | .truth => .ok (.value (.bool !content.isEmpty), whole content)
  | .toList => .ok (.value (.list (content.map (.ofUnit unit))), whole content)
  | .hash => .error (.unhashable "Stream")
  | _ => .ok (.value .null, whole content)

variable {unit : CharUnit} {content : List Nat} (sequence sequence' : Sequence)

theorem item_sequence {key : Value} (whole : (Operation.item key).isWhole = true) :
    item sequence unit content key = item sequence' unit content key := by
  unfold item
  cases sliced : key.slice? with
  | some bounds => rfl
  | none =>
    rw [Operation.isWhole, sliced] at whole
    cases key with
    | fraction mantissa places => cases whole
    | _ => rfl

/-- Asked of whole numbers, no operation tells which sequence holds the units. -/
theorem reply_sequence {environment : Environment} {operation : Operation}
    (whole : operation.isWhole = true) :
    reply sequence environment unit content operation =
      reply sequence' environment unit content operation := by
  cases operation with
  | «at» offset =>
    cases offset with
    | whole offset => rfl
    | decimal => cases whole
  | item key => rw [reply, reply, item_sequence sequence sequence' whole]
  | _ => rfl

end Content

end TextScan
