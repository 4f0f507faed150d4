import TextScan.Error
import TextScan.Value

namespace TextScan

namespace ItemFormat

/-- The unit that a buffer of such items is accepted as. -/
def accept (format : ItemFormat) : Except UnitFault CharUnit :=
  match format.accepted? with
  | some unit => .ok unit
  | none => .error (.unsupportedFormat format.baseName format.size)

/-- Why no unit is read off items of a format. -/
def unreadable (format : ItemFormat) : UnitFault :=
  match format.accept with
  | .ok _ => .blocked (.unindexed format.name)
  | .error cause => cause

end ItemFormat

namespace Value

/-- The unit of a value as a buffer, told by its type and the format of its items. -/
def unitOf : Value → Except UnitFault CharUnit
  | text _ => .ok .wide
  | bytes _ => .ok .narrow
  | byteArray _ => .ok .narrow
  | array typed => typed.format.accept
  | memory view => if view.dimensions ≠ 1 then .error .notOneDimensional else view.format.accept
  | released => .error (.blocked .released)
  | value => .error (.unsupportedBuffer value.typeName)

/-- The buffer a value is, if streams can read it. A view may be accepted as a buffer though its
items cannot be looked up; then nothing is read off it. -/
def buffer : Value → Except UnitFault Buffer
  | text points => .ok (.ofText points)
  | bytes codes => .ok (.ofBytes codes)
  | byteArray codes => .ok (.ofByteArray codes)
  | array typed =>
    match Buffer.ofArray? typed with
    | some buffer => .ok buffer
    | none => .error typed.format.unreadable
  | memory view =>
    if view.dimensions ≠ 1 then .error .notOneDimensional
    else match Buffer.ofMemory? view with
      | some buffer => .ok buffer
      | none => .error view.format.unreadable
  | released => .error (.blocked .released)
  | value => .error (.unsupportedBuffer value.typeName)

end Value

/-- A value as an item of a format: a character, a fraction, or a whole number in range. -/
def ItemFormat.item (format : ItemFormat) (value : Value) : Except Fault Item :=
  match format.name, value with
  | "u", .text [point] => .ok (.char point)
  | "u", _ => .error .notTextItem
  | name, value =>
    let isFraction := name == "f" || name == "d"
    match value.int?, value with
    | some code, _ =>
      if isFraction then .ok (.fraction code 0)
      else match format.refusing? code with
        | some range => .error (.itemRange range code)
        | none => .ok (.int code)
    | none, .fraction mantissa places =>
      if isFraction then .ok (.fraction mantissa places) else .error (.notInteger "float")
    | none, value =>
      .error (if isFraction then .notReal value.fullTypeName else .notInteger value.fullTypeName)

def ItemArray.ofValues (format : ItemFormat) (values : List Value) :
    Except Fault ItemArray := do
  let items ← values.mapM format.item
  match ItemArray.ofItems? format items with
  | some array => pure array
  | none => throw .badValue

/-- Values as bytes; `refusal` is what is said of a number that is none. -/
def Value.toBytes (refusal : Fault) (values : List Value) : Except Fault (List UInt8) :=
  values.mapM fun value =>
    match value.int? with
    | none => .error (.notInteger value.fullTypeName)
    | some code => if 0 ≤ code ∧ code < 256 then .ok (UInt8.ofNat code.toNat) else .error refusal

/-- A view of bytes, or of every so many of them. -/
def Value.toMemory (step : Value) (values : List Value) : Except Fault MemoryView := do
  let bytes ← Value.toBytes .bytesRange values
  let kept ← match step.int?, step with
    | some 0, _ => throw .zeroStep
    | some step, _ => pure (strided step bytes)
    | none, .null => pure bytes
    | none, _ => throw .wrongBound
  match MemoryView.ofCells? .byte (kept.map fun byte => .ofCode 1 byte.toNat) with
  | some view => pure view
  | none => throw .badValue

def Value.toText (values : List Value) : Except Fault Text :=
  values.mapM fun value =>
    match value.int? with
    | none => .error (.notInteger value.fullTypeName)
    | some code =>
      if 0 ≤ code ∧ code < 0x110000 then .ok (CodePoint.ofNat code.toNat)
      else .error .codePointRange

end TextScan
