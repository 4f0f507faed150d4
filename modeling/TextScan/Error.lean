import TextScan.Buffer
import TextScan.Buffer.Range
import TextScan.Text.Quoted

/-! Errors, each named by its cause. Scanning itself does not fail; what can fail is an
argument that does not fit the unit, a checked assertion, a comparison without an order,
or growing a buffer that is pinned. -/

namespace TextScan

inductive Relation where
  | eq
  | ne
  | lt
  | le
  | gt
  | ge
deriving DecidableEq, Repr

namespace Relation

def symbol : Relation → String
  | eq => "=="
  | ne => "!="
  | lt => "<"
  | le => "<="
  | gt => ">"
  | ge => ">="

/-- The relation that holds of the operands in the other order. -/
def converse : Relation → Relation
  | eq => eq
  | ne => ne
  | lt => gt
  | le => ge
  | gt => lt
  | ge => le

theorem converse_converse (relation : Relation) : relation.converse.converse = relation := by
  cases relation <;> rfl

end Relation

/-- What keeps a value from being gone through, whatever the unit. -/
inductive Obstacle where
  /-- A range of more numbers than can be counted. -/
  | uncounted
  /-- A range of more numbers than a sequence can hold. -/
  | unheld
  /-- A view that was given back. -/
  | released
  /-- A view whose items are not looked up by offset. -/
  | unindexed (format : String)
deriving DecidableEq, Repr

def Obstacle.message : Obstacle → String
  | uncounted => "Python int too large to convert to C ssize_t"
  | unheld => ""
  | released => "operation forbidden on released memoryview object"
  | unindexed format => "memoryview: unsupported format " ++ format

/-- Why a value does not serve as a buffer, a character or a text. -/
inductive UnitFault where
  | notText (typeName : String)
  | notCode (typeName : String)
  | notTextual (typeName : String)
  | bytesForWideUnits
  | outOfRange (code : Int) (width : Nat)
  | notOneUnit (shown : Text) (count : Nat)
  | surrogate (text : Text)
  | blocked (obstacle : Obstacle)
  | noMemory
  | unsupportedBuffer (typeName : String)
  | unsupportedFormat (format : String) (size : Nat)
  | notOneDimensional
deriving DecidableEq, Repr

def UnitFault.message : UnitFault → Text
  | notText typeName => Text.ofString ("expected str, got " ++ typeName)
  | notCode typeName => Text.ofString ("expected int code units, got " ++ typeName)
  | notTextual typeName => Text.ofString ("cannot use " ++ typeName ++ " as text")
  | bytesForWideUnits => Text.ofString "bytes are only valid for narrow streams"
  | outOfRange code width =>
    Text.ofString ("code unit " ++ toString code ++ " out of range for " ++ toString width
      ++ "-byte units")
  | notOneUnit shown count =>
    shown ++ Text.ofString (" is " ++ toString count ++ " units, expected exactly one")
  | surrogate text =>
    Text.ofString "cannot encode " ++ Quoted.text text
      ++ Text.ofString ": surrogates not allowed"
  | blocked obstacle => Text.ofString obstacle.message
  | noMemory => Text.ofString "str streams have no memoryview; use text()"
  | unsupportedBuffer typeName => Text.ofString ("unsupported buffer type " ++ typeName)
  | unsupportedFormat format size =>
    Text.ofString "unsupported item format " ++ Quoted.text (Text.ofString format)
      ++ Text.ofString (" (" ++ toString size
        ++ " bytes); use an unsigned 1, 2 or 4 byte format")
  | notOneDimensional => Text.ofString "memoryview backings must be one-dimensional"

/-- What checked streams assert of a count. -/
inductive Check where
  | dropCount
  | extractCount
  /-- A count of units to be taken, all of which the window holds. -/
  | heldCount
deriving DecidableEq, Repr

def Check.message : Check → Text
  | dropCount => Text.ofString "Cannot drop a negative number of characters"
  | extractCount => Text.ofString "Cannot extract a negative number of characters"
  | heldCount => Text.ofString "n <= size()"

/-- The sequences whose items are asked for by offset. -/
inductive Sequence where
  | text
  | bytes
  | byteArray
  | array
  | memory
  | list
  | tuple
deriving DecidableEq, Repr

def Backing.sequence : Backing → Sequence
  | text => .text
  | bytes => .bytes
  | byteArray => .byteArray
  | array .. => .array
  | memory .. => .memory

inductive Fault where
  /-- A value does not fit a unit, or cannot be gone through to find out; before a buffer is
  accepted its unit is unknown. -/
  | unit (unit : Option CharUnit) (cause : UnitFault)
  | assertion (check : Check)
  /-- The operands have no order, or only one of them counts. -/
  | incomparable (relation : Relation) (left right : String)
  | steppedSlice
  | zeroStep
  /-- A bound of a slice that is no whole number. -/
  | wrongBound
  /-- An offset that is no whole number, and its type. -/
  | wrongOffset (sequence : Sequence) (typeName : String)
  /-- An offset where the sequence has no item. -/
  | outside (sequence : Sequence)
  /-- A text or byte string that should be one character has another length. -/
  | characterLength (length : Nat)
  | notCharacter (typeName : String)
  | unhashable (typeName : String)
  | pinnedBytes
  | pinnedItems
  /-- A number that should be a byte, alone or among others. -/
  | byteRange
  | bytesRange
  | codePointRange
  | itemRange (range : IntegerRange) (code : Int)
  | notInteger (typeName : String)
  | notReal (typeName : String)
  | notTextItem
  | notSized (typeName : String)
  | notIterable (typeName : String)
  | notIterator (typeName : String)
  | notSubscriptable (typeName : String)
  /-- Something that is not copied. -/
  | notCopied (name : String)
  /-- A text where bytes are looked for in bytes. -/
  | textAmongBytes
  | missing (typeName member : String)
  /-- Fewer arguments than needed; the names are those left without one. -/
  | missingArguments (callee : String) (names : List String)
  /-- More arguments than taken. The object a method is asked of counts as one. -/
  | surplusArguments (callee : String) (least most given : Nat)
  | unknownRegister (name : String)
  | unknownScope (name : String)
  | badValue
deriving DecidableEq, Repr

inductive ErrorKind where
  | stream
  | assertion
  | unit
  | type
  | value
  | buffer
  | overflow
  | index
  | missing
  | key
  | register
deriving DecidableEq, Repr

namespace ErrorKind

/-- The families a family belongs to, its own included: assertion and unit errors are
stream errors, and a unit error is a type error as well. -/
def families : ErrorKind → List ErrorKind
  | assertion => [stream, assertion]
  | unit => [stream, unit, type]
  | kind => [kind]

end ErrorKind

/-- Running out of memory counts as an overflow, and items that a view does not give as an
operation its buffer does not allow. -/
def Obstacle.kind : Obstacle → ErrorKind
  | uncounted => .overflow
  | unheld => .overflow
  | released => .value
  | unindexed _ => .buffer

namespace Fault

def kind : Fault → ErrorKind
  | unit _ (.blocked obstacle) => obstacle.kind
  | unit _ _ => .unit
  | assertion _ => .assertion
  | steppedSlice => .value
  | zeroStep => .value
  | outside _ => .index
  | pinnedBytes => .buffer
  | pinnedItems => .buffer
  | byteRange => .value
  | bytesRange => .value
  | codePointRange => .value
  | itemRange _ _ => .overflow
  | missing _ _ => .missing
  | unknownRegister _ => .register
  | unknownScope _ => .key
  | badValue => .value
  | incomparable _ _ _ => .type
  | wrongBound => .type
  | wrongOffset _ _ => .type
  | characterLength _ => .type
  | notCharacter _ => .type
  | unhashable _ => .type
  | notInteger _ => .type
  | notReal _ => .type
  | notTextItem => .type
  | notSized _ => .type
  | notIterable _ => .type
  | notIterator _ => .type
  | notSubscriptable _ => .type
  | notCopied _ => .type
  | textAmongBytes => .type
  | missingArguments _ _ => .type
  | surplusArguments _ _ _ _ => .type

/-- What fits no unit is a unit error, unless it cannot be gone through at all. -/
theorem kind_unit {owner : Option CharUnit} {cause : UnitFault}
    (clear : ∀ obstacle, cause ≠ .blocked obstacle) : (unit owner cause).kind = .unit := by
  cases cause with
  | blocked obstacle => exact absurd rfl (clear obstacle)
  | _ => rfl

theorem kind_blocked_ne (owner : Option CharUnit) (obstacle : Obstacle) :
    (unit owner (.blocked obstacle)).kind ≠ .unit := by
  cases obstacle <;> nofun

/-- What a sequence says of an offset of another type. -/
def wrongOffsetMessage (typeName : String) : Sequence → String
  | .text => "string indices must be integers, not '" ++ typeName ++ "'"
  | .bytes => "byte indices must be integers or slices, not " ++ typeName
  | .byteArray => "bytearray indices must be integers or slices, not " ++ typeName
  | .array => "array indices must be integers"
  | .memory => "memoryview: invalid slice key"
  | .list => "list indices must be integers or slices, not " ++ typeName
  | .tuple => "tuple indices must be integers or slices, not " ++ typeName

/-- What a sequence says of an offset where it has no item. -/
def outsideMessage : Sequence → String
  | .text => "string index out of range"
  | .bytes => "index out of range"
  | .byteArray => "bytearray index out of range"
  | .array => "array index out of range"
  | .memory => "index out of bounds on dimension 1"
  | .list => "list index out of range"
  | .tuple => "tuple index out of range"

/-- A unit error names the unit it is about. -/
def unitMessage (name message : Text) : Text :=
  Text.ofString "Unit '" ++ name ++ Text.ofString "': " ++ message

/-- Quoted names in a row, the last one after "and". -/
def listed : List String → String
  | [] => ""
  | [name] => "'" ++ name ++ "'"
  | [first, last] => "'" ++ first ++ "' and '" ++ last ++ "'"
  | names =>
    ", ".intercalate ((names.take (names.length - 1)).map fun name => "'" ++ name ++ "'")
      ++ ", and '" ++ names.getLastD "" ++ "'"

def missingMessage (callee : String) (names : List String) : String :=
  callee ++ "() missing " ++ toString names.length ++ " required positional argument"
    ++ (if names.length = 1 then "" else "s") ++ ": " ++ listed names

def surplusMessage (callee : String) (least most given : Nat) : String :=
  let taken := if least = most then toString most
    else "from " ++ toString least ++ " to " ++ toString most
  callee ++ "() takes " ++ taken ++ " positional argument" ++ (if most = 1 then "" else "s")
    ++ " but " ++ toString given ++ (if given = 1 then " was" else " were") ++ " given"

def message : Fault → Text
  | unit _ (.blocked obstacle) => Text.ofString obstacle.message
  | unit owner cause =>
    let name := match owner with
      | none => "unknown"
      | some known => known.name
    unitMessage (Text.ofString name) cause.message
  | assertion check => check.message
  | incomparable relation left right =>
    Text.ofString ("'" ++ relation.symbol ++ "' not supported between instances of '" ++ left
      ++ "' and '" ++ right ++ "'")
  | steppedSlice => Text.ofString "Stream slices do not support a step"
  | zeroStep => Text.ofString "slice step cannot be zero"
  | wrongBound =>
    Text.ofString "slice indices must be integers or None or have an __index__ method"
  | wrongOffset sequence typeName => Text.ofString (wrongOffsetMessage typeName sequence)
  | outside sequence => Text.ofString (outsideMessage sequence)
  | characterLength length =>
    Text.ofString ("ord() expected a character, but string of length " ++ toString length
      ++ " found")
  | notCharacter typeName =>
    Text.ofString ("ord() expected string of length 1, but " ++ typeName ++ " found")
  | unhashable typeName => Text.ofString ("unhashable type: '" ++ typeName ++ "'")
  | pinnedBytes => Text.ofString "Existing exports of data: object cannot be re-sized"
  | pinnedItems => Text.ofString "cannot resize an array that is exporting buffers"
  | byteRange => Text.ofString "byte must be in range(0, 256)"
  | bytesRange => Text.ofString "bytes must be in range(0, 256)"
  | codePointRange => Text.ofString "chr() arg not in range(0x110000)"
  | itemRange range code => Text.ofString (range.message code)
  | notInteger typeName =>
    Text.ofString ("'" ++ typeName ++ "' object cannot be interpreted as an integer")
  | notReal typeName => Text.ofString ("must be real number, not " ++ typeName)
  | notTextItem => Text.ofString "array item must be unicode character"
  | notSized typeName => Text.ofString ("object of type '" ++ typeName ++ "' has no len()")
  | notIterable typeName => Text.ofString ("'" ++ typeName ++ "' object is not iterable")
  | notIterator typeName => Text.ofString ("'" ++ typeName ++ "' object is not an iterator")
  | notSubscriptable typeName =>
    Text.ofString ("'" ++ typeName ++ "' object is not subscriptable")
  | notCopied name => Text.ofString ("cannot pickle " ++ name)
  | textAmongBytes =>
    Text.ofString "startswith first arg must be bytes or a tuple of bytes, not str"
  | missing typeName member =>
    Text.ofString ("'" ++ typeName ++ "' object has no attribute '" ++ member ++ "'")
  | missingArguments callee names => Text.ofString (missingMessage callee names)
  | surplusArguments callee least most given =>
    Text.ofString (surplusMessage callee least most given)
  | unknownRegister name => Text.ofString name
  | unknownScope name => Quoted.text (Text.ofString name)
  | badValue => Text.ofString "bad value"

end Fault

/-- The report of a failed assertion: the place of the caller as far as it is known,
without a mark after its last part, and the condition that failed. -/
def assertionReport (message : Text) (line file : Option Text) : Text :=
  let marked : Option Text → Text
    | none => []
    | some part => part ++ Text.ofString ":"
  let place := marked file ++ marked line
  let shownPlace := if place.isEmpty then [] else
    (place.reverse.dropWhile fun point => point.val = 0x3A).reverse ++ Text.ofString " "
  shownPlace ++ Text.ofString "libstream: Assertion failed: " ++ message

example : assertionReport (Text.ofString "m") (some (Text.ofString "12"))
    (some (Text.ofString "a.c")) = Text.ofString "a.c:12 libstream: Assertion failed: m" := by
  decide +kernel

end TextScan
