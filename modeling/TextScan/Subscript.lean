import TextScan.Error
import TextScan.Value

namespace TextScan

/-- The offsets of a slice of `length` items. Bounds left out are the ends, which lie the
other way round for a negative step; bounds beyond an end are moved there. -/
def sliceOffsets (length : Nat) (start stop : Option Int) (step : Int) : List Nat :=
  let least : Int := if 0 < step then 0 else -1
  let greatest : Int := if 0 < step then length else length - 1
  let inside := fun (bound : Int) =>
    if bound < 0 then max least (bound + length) else min greatest bound
  let first := (start.map inside).getD (if 0 < step then least else greatest)
  let last := (stop.map inside).getD (if 0 < step then greatest else least)
  let distance := if 0 < step then last - first else first - last
  let stride := step.natAbs
  let count := if stride = 0 then 0 else (distance.toNat + stride - 1) / stride
  (List.range count).map fun (index : Nat) => (first + step * (index : Int)).toNat

example : sliceOffsets 5 (some 1) none 2 = [1, 3] ∧ sliceOffsets 3 none none (-1) = [2, 1, 0] ∧
    sliceOffsets 3 (some (-2)) (some 9) 1 = [1, 2] := by decide

namespace Value

/-- The kind of sequence a value is, if its items are asked for by offset. -/
def sequence? : Value → Option Sequence
  | text _ => some .text
  | bytes _ => some .bytes
  | byteArray _ => some .byteArray
  | array _ => some .array
  | memory _ => some .memory
  | list _ => some .list
  | tuple _ => some .tuple
  | _ => none

/-- A bound of a slice, which may be left out. -/
def wholeBound? (value : Value) : Except Fault (Option Int) :=
  match value.int?, value with
  | some bound, _ => .ok (some bound)
  | none, null => .ok none
  | none, _ => .error .wrongBound

def pick {α : Type} (items : List α) (offsets : List Nat) : List α :=
  offsets.filterMap fun offset => items[offset]?

/-- A sequence of the same type with the items at some offsets. -/
def picked (value : Value) (offsets : List Nat) : Except Fault Value :=
  match value with
  | text points => .ok (text (pick points offsets))
  | bytes codes => .ok (bytes (pick codes offsets))
  | byteArray codes => .ok (byteArray (pick codes offsets))
  | list members => .ok (list (pick members offsets))
  | tuple members => .ok (tuple (pick members offsets))
  | array typed =>
    match ItemArray.ofItems? typed.format (pick typed.items offsets) with
    | some kept => .ok (array kept)
    | none => .error .badValue
  | memory view =>
    match MemoryView.ofCells? view.format (pick view.cells offsets) with
    | some kept => .ok (memory kept)
    | none => .error .badValue
  | value => .error (.notSubscriptable value.fullTypeName)

/-- What a key asks for: the item at one offset, or those at some. -/
inductive Places where
  | one (offset : Nat)
  | some (offsets : List Nat)

/-- The places that a key asks for in a sequence of `length` items. -/
def places (sequence : Sequence) (length : Nat) : (key : Value) → Except Fault Places
  | slice start stop step => do
    let step ← step.wholeBound?
    if step = some 0 then throw .zeroStep
    let start ← start.wholeBound?
    let stop ← stop.wholeBound?
    pure (.some (sliceOffsets length start stop (step.getD 1)))
  | key =>
    match key.int? with
    | none => .error (.wrongOffset sequence key.fullTypeName)
    | some offset =>
      let counted := if offset < 0 then offset + length else offset
      if 0 ≤ counted ∧ counted < length then .ok (.one counted.toNat)
      else .error (.outside sequence)

def subscript (value key : Value) : Except Fault Value :=
  match value.sequence?, value.elements? with
  | some sequence, some items => do
    match ← places sequence items.length key with
    | .one offset =>
      match items[offset]? with
      | some item => pure item
      | none => throw (.outside sequence)
    | .some offsets => value.picked offsets
  | _, _ => .error (.notSubscriptable value.fullTypeName)

end Value

end TextScan
