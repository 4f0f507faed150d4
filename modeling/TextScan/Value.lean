import TextScan.CharClass
import TextScan.Stream.Lines

/-! Values: what a caller may hand to a stream and what a stream hands back. Which
values serve as a buffer, a character, a text or a character set is decided elsewhere;
here stand the values themselves and what can be read off each. -/

namespace TextScan

/-- A value of any type a caller may pass. Sets list their members in visiting order. -/
inductive Value where
  | null
  | bool (value : Bool)
  | int (value : Int)
  | fraction (mantissa : Int) (places : Nat)
  | text (text : Text)
  | bytes (bytes : List UInt8)
  | byteArray (bytes : List UInt8)
  | array (array : ItemArray)
  | memory (view : MemoryView)
  /-- A view that was given back and shows nothing any more. -/
  | released
  | list (members : List Value)
  | tuple (members : List Value)
  | set (members : List Value)
  | frozenSet (members : List Value)
  | range (start stop : Int)
  | slice (start stop step : Value)
  | function (test : CharTest Value)
  | stream (stream : Stream)
  | lines (lines : Lines)
  /-- A walk, by its identity, and what is left of it. -/
  | generator (walk : Nat) (rest : List Value)
  | location (line column offset file : Value)
  | config (assertions lineSeparator whitespace : Value)
deriving Inhabited

namespace Value

def typeName : Value → String
  | null => "NoneType"
  | bool _ => "bool"
  | int _ => "int"
  | fraction _ _ => "float"
  | text _ => "str"
  | bytes _ => "bytes"
  | byteArray _ => "bytearray"
  | array _ => "array"
  | memory _ => "memoryview"
  | released => "memoryview"
  | list _ => "list"
  | tuple _ => "tuple"
  | set _ => "set"
  | frozenSet _ => "frozenset"
  | range _ _ => "range"
  | slice _ _ _ => "slice"
  | function _ => "function"
  | stream _ => "Stream"
  | lines _ => "Lines"
  | generator _ _ => "generator"
  | location _ _ _ _ => "SourceLocation"
  | config _ _ _ => "StreamConfig"

/-- The name of the type in full, as failed comparisons give it. -/
def fullTypeName : Value → String
  | array _ => "array.array"
  | value => value.typeName

/-- Nothing, zero and what is empty are false. -/
def truth : Value → Bool
  | null => false
  | bool value => value
  | int value => value != 0
  | fraction mantissa _ => mantissa != 0
  | text points => !points.isEmpty
  | bytes codes => !codes.isEmpty
  | byteArray codes => !codes.isEmpty
  | array typed => !typed.items.isEmpty
  | memory view => !view.items.isEmpty
  | list members => !members.isEmpty
  | tuple members => !members.isEmpty
  | set members => !members.isEmpty
  | frozenSet members => !members.isEmpty
  | range start stop => decide (start < stop)
  | stream window => !window.isEmpty
  | _ => true

/-- A truth value is a whole number too. -/
def int? : Value → Option Int
  | bool value => some (if value then 1 else 0)
  | int value => some value
  | _ => none

def test? : Value → Option (CharTest Value)
  | function test => some test
  | _ => none

def slice? : Value → Option (Value × Value × Value)
  | slice start stop step => some (start, stop, step)
  | _ => none

def number? : Value → Option Number
  | fraction mantissa places => some (.decimal mantissa places)
  | value => value.int?.map .whole

/-- How a value is written where it stands for a number. -/
def form : Value → NumberForm
  | bool _ => .truth
  | _ => .number

def ofForm (form : NumberForm) (code : Nat) : Value :=
  match form with
  | .truth => bool (code != 0)
  | .number => int code

/-- Numbers in their forms, those without one as numbers. -/
def ofForms : List NumberForm → List Nat → List Value
  | form :: forms, code :: codes => ofForm form code :: ofForms forms codes
  | _, codes => codes.map fun (code : Nat) => int code

def ofItem : Item → Value
  | .int code => int code
  | .fraction mantissa places => fraction mantissa places
  | .char point => text [point]

/-- One unit of a stream as a value: a text of one character or a number. -/
def ofUnit (unit : CharUnit) (code : Nat) : Value :=
  if unit.isText then text [CodePoint.ofNat code] else int code

/-- The members a value yields when it is gone through. Text and bytes are not gone
through member by member, and neither is a view. -/
def members? : Value → Option (List Value)
  | list members => some members
  | tuple members => some members
  | set members => some members
  | frozenSet members => some members
  | range start stop =>
    some ((List.range (stop - start).toNat).map fun (offset : Nat) => int (start + offset))
  | array typed => some (typed.items.map ofItem)
  | stream window => some (window.content.map (ofUnit window.unit))
  | lines pieces => some (pieces.toList.map stream)
  | generator _ rest => some rest
  | _ => none

/-- The values a walk over the value goes through, if it can be walked over. -/
def elements? : Value → Option (List Value)
  | text points => some (points.map fun point => text [point])
  | bytes codes => some (codes.map fun code => int code.toNat)
  | byteArray codes => some (codes.map fun code => int code.toNat)
  | memory view =>
    if view.dimensions = 1 ∧ view.format.isIndexed = true then some (view.items.map ofItem)
    else none
  | value => value.members?

/-- What is left of a value that was gone through: nothing of a walk, all of others. -/
def spent : Value → Value
  | generator walk _ => generator walk []
  | value => value

/-- What is left of a value that was read as a character set. -/
def spentAsChars : Value → Value
  | set members => set (members.map spent)
  | frozenSet members => frozenSet (members.map spent)
  | value => value.spent

def length? : Value → Option Nat
  | memory view => if view.dimensions = 1 then some view.items.length else none
  | lines _ => none
  | generator _ _ => none
  | value => value.elements?.map List.length

/-- The forms in which a value gives numbers, its own or those of its members. -/
def forms (value : Value) : List NumberForm :=
  match value.int?, value.members? with
  | some _, _ => [value.form]
  | none, some members => members.map form
  | none, none => []

def startOf (window : Stream) : Value := ofForm window.startForm window.start

def stopOf (window : Stream) : Value := ofForm window.stopForm window.stop

/-- A location of whole numbers, the offset written as the bound it was taken from. -/
def ofLocation (place : Location) (form : NumberForm) (file : Value) : Value :=
  location (int place.line) (int place.column) (ofForm form place.offset) file

def withFile : Value → Value → Value
  | location line column offset _, file => location line column offset file
  | value, _ => value

def ofBuffer : Buffer → Value
  | ⟨.text, units, _⟩ => text (Text.ofCodes units)
  | ⟨.bytes, units, _⟩ => bytes (units.map UInt8.ofNat)
  | ⟨.byteArray, units, _⟩ => byteArray (units.map UInt8.ofNat)
  | ⟨.array format unit readable, units, bounded⟩ =>
    let buffer : Buffer := ⟨.array format unit readable, units, bounded⟩
    array ⟨format, buffer.items, Buffer.items_admitted readable⟩
  | ⟨.memory format unit readable, units, bounded⟩ =>
    let buffer : Buffer := ⟨.memory format unit readable, units, bounded⟩
    memory (buffer.viewed format readable)

end Value

end TextScan
