import TextScan.CharUnit.Encoding
import TextScan.Error
import TextScan.Value.Shown
import TextScan.Value.Visiting

/-! Arguments: reading a value as a text, a character or a set of characters in the
units of a stream. A value that cannot be expressed in the unit is refused with the
cause, and the content of no stream decides about that. -/

namespace TextScan

namespace Value

mutual

/-- The type that keeps a value out of sets and caches, since what it holds may change. -/
def changing? : Value → Option String
  | list _ => some "list"
  | set _ => some "set"
  | byteArray _ => some "bytearray"
  | array _ => some "array.array"
  | stream _ => some "Stream"
  | slice _ _ _ => some "slice"
  | tuple members => changingAmong? members
  | frozenSet members => changingAmong? members
  | location line column offset file =>
    changing? line <|> changing? column <|> changing? offset <|> changing? file
  | config assertions lineSeparator whitespace =>
    changing? assertions <|> changing? lineSeparator <|> changing? whitespace
  | _ => none

/-- The first such type among members. -/
def changingAmong? : List Value → Option String
  | [] => none
  | member :: rest => changing? member <|> changingAmong? rest

end

/-- Refuses what may change while it is a member. -/
def hashable? (value : Value) : Except Fault Value :=
  match value.changing? with
  | some typeName => .error (.unhashable typeName)
  | none => .ok value

/-- The most members that can be counted. -/
def mostCounted : Nat := 0x7FFFFFFFFFFFFFFF

/-- The most members that a sequence has room to refer to, each by eight bytes. -/
def mostHeld : Nat := 0xFFFFFFFFFFFFFFC

/-- What keeps a value from being gone through, if anything does. -/
def obstacle? : Value → Option Obstacle
  | range start stop =>
    if start + mostCounted < stop then some .uncounted
    else if start + mostHeld < stop then some .unheld
    else none
  | released => some .released
  | _ => none

def isBlocked (value : Value) : Bool := value.obstacle?.isSome

end Value

namespace CharUnit

def literal (unit : CharUnit) (text : Text) : Except UnitFault (List Nat) :=
  match unit.encode? text with
  | some codes => .ok codes
  | none => .error (.surrogate text)

def checkCode (unit : CharUnit) (code : Int) : Except UnitFault Nat :=
  if 0 ≤ code ∧ code ≤ unit.maxValue then .ok code.toNat
  else .error (.outOfRange code unit.width)

def codeOf (unit : CharUnit) (member : Value) : Except UnitFault Nat :=
  match member.int? with
  | some code => unit.checkCode code
  | none => .error (.notCode member.typeName)

/-- A text argument, or a single unit. Wide units take text alone; the others also take
a code, bytes if they are narrow, and whatever yields codes. -/
def text (unit : CharUnit) (value : Value) : Except UnitFault (List Nat) :=
  match value with
  | .text text => unit.literal text
  | value =>
    if unit.isText then .error (.notText value.typeName)
    else match value with
      | .bytes bytes =>
        if unit = .narrow then .ok (Buffer.byteCodes bytes) else .error .bytesForWideUnits
      | .byteArray bytes =>
        if unit = .narrow then .ok (Buffer.byteCodes bytes) else .error .bytesForWideUnits
      | .memory view =>
        if unit = .narrow then .ok (Buffer.byteCodes view.bytes) else .error .bytesForWideUnits
      | .released =>
        if unit = .narrow then .error (.blocked .released) else .error .bytesForWideUnits
      | value =>
        match value.int?, value.obstacle? with
        | some code, _ => (unit.checkCode code).map fun code => [code]
        | none, some obstacle => .error (.blocked obstacle)
        | none, none =>
          match value.members? with
          | some members => members.mapM unit.codeOf
          | none => .error (.notTextual value.typeName)

/-- A character argument: a text of exactly one unit. -/
def char (unit : CharUnit) (value : Value) : Except UnitFault Nat := do
  match ← unit.text value with
  | [code] => pure code
  | codes => throw (.notOneUnit value.shown codes.length)

/-- A character set argument. Each member of a set is a character; anything else gives
the units of its text. -/
def charset (unit : CharUnit) (value : Value) : Except UnitFault (List Nat) :=
  match value with
  | .set members => members.mapM unit.char
  | .frozenSet members => members.mapM unit.char
  | value => unit.text value

/-- How the units of a text argument are written: 16- and 32-bit units keep the form in
which they were given. -/
def forms (unit : CharUnit) (value : Value) : List NumberForm :=
  match unit with
  | .wide => []
  | .narrow => []
  | _ => value.forms

/-- The units of a text argument in the type the unit gives them. -/
def textValue (unit : CharUnit) (forms : List NumberForm) (codes : List Nat) : Value :=
  match unit with
  | .wide => .text (Text.ofCodes codes)
  | .narrow => .bytes (codes.map UInt8.ofNat)
  | _ => .tuple (Value.ofForms forms codes)

/-- One unit in a form. -/
def unitValue (unit : CharUnit) (form : NumberForm) (code : Nat) : Value :=
  if unit.isText then .text [CodePoint.ofNat code] else .ofForm form code

/-- A text argument as a value of the unit. -/
def readText (unit : CharUnit) (value : Value) : Except UnitFault Value :=
  (unit.text value).map (unit.textValue (unit.forms value))

/-- A character argument as a value of the unit. -/
def readChar (unit : CharUnit) (value : Value) : Except UnitFault Value :=
  (unit.char value).map (unit.unitValue ((unit.forms value).headD .number))

/-- A character set argument as a set of values of the unit, in ascending order; of equal
units the first is kept. -/
def readCharset (unit : CharUnit) (value : Value) : Except UnitFault Value := do
  let codes ← unit.charset value
  let forms := match value with
    | .set members => members.map fun member => (unit.forms member).headD .number
    | .frozenSet members => members.map fun member => (unit.forms member).headD .number
    | value => unit.forms value
  let written := codes.zip (forms ++ List.replicate codes.length .number)
  let distinct := written.foldl (fun kept pair =>
    if kept.any fun other => other.1 == pair.1 then kept else kept ++ [pair]) []
  let sorted := distinct.mergeSort fun first second => first.1 ≤ second.1
  pure (.set (sorted.map fun pair => unit.unitValue pair.2 pair.1))

/-- A literal as a value of the unit. Text stays as it is in wide units, and so does
whatever else is given there; the other units encode, which only text does. -/
def readLiteral (unit : CharUnit) (value : Value) : Except Fault Value := do
  let value ← value.hashable?
  match value with
  | .text text =>
    let codes ← (unit.literal text).mapError (.unit (some unit))
    pure (unit.textValue [] codes)
  | value => if unit.isText then pure value else throw (.missing value.fullTypeName "encode")

end CharUnit

namespace Value

/-- The code of a character on its own: a number is its own code, and a text or a byte
string has one if it is one long. -/
def codePoint (value : Value) : Except Fault Int :=
  match value.int?, value with
  | some code, _ => .ok code
  | none, text [point] => .ok point.val
  | none, bytes [byte] => .ok byte.toNat
  | none, byteArray [byte] => .ok byte.toNat
  | none, text points => .error (.characterLength points.length)
  | none, bytes codes => .error (.characterLength codes.length)
  | none, byteArray codes => .error (.characterLength codes.length)
  | none, value => .error (.notCharacter value.fullTypeName)

/-- The members of a set in the order it visits them, without repetitions. -/
def members (given : List Value) : Except Fault (List Value) := do
  let checked ← given.mapM hashable?
  pure (visited (checked.foldl
    (fun kept member => if kept.any member.equal then kept else kept ++ [member]) []))

end Value

namespace CharTest

/-- What the test answers for a character given on its own. -/
def apply : CharTest Value → Value → Except Fault Value
  | constant value, _ => .ok value
  | ownCode, .bool value => .ok (.bool value)
  | ownCode, char => char.codePoint.map .int
  | negate test, char => (apply test char).map fun answer => .bool !answer.truth
  | test, char => char.codePoint.map fun code => .bool (test.holds Value.truth code)

end CharTest

end TextScan
