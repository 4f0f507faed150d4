import TextScan.Operation

namespace TextScan

inductive Method where
  | isEmpty
  | size
  | byteSize
  | has
  | front
  | back
  | at
  | slice
  | item
  | startsWith
  | startsWithAny
  | endsWith
  | endsWithAny
  | text
  | view
  | location
  | copy
  | drop
  | take
  | consume
  | extract
  | takeTo (stopping : Stopping)
  | dropTo (stopping : Stopping)
  | takeDelimited
  | takeDelimitedAny
  | trim
  | trimFront
  | trimBack
  | lines
  | truth
  | toList
  | length
  | plain
  | shown
  | hash
  /-- A copy asked for from outside. -/
  | duplicate
  | buffer
deriving DecidableEq, Repr

/-- The part of a name that tells where an operation stops. -/
def Stopping.name (stopping : Stopping) : String :=
  (if stopping.whileMatching then "while" else "until") ++
    (if stopping.anyOf then "_any" else "") ++ (if stopping.orEmpty then "_or_empty" else "")

def Stopping.all : List Stopping :=
  [false, true].flatMap fun whileMatching =>
    [false, true].flatMap fun anyOf =>
      [false, true].map fun orEmpty => ⟨whileMatching, anyOf, orEmpty⟩

namespace Method

def name : Method → String
  | isEmpty => "empty"
  | size => "size"
  | byteSize => "size_bytes"
  | has => "has"
  | front => "front"
  | back => "back"
  | «at» => "at"
  | slice => "slice"
  | item => "getitem"
  | startsWith => "starts_with"
  | startsWithAny => "starts_with_any"
  | endsWith => "ends_with"
  | endsWithAny => "ends_with_any"
  | text => "text"
  | view => "view"
  | location => "location"
  | copy => "copy"
  | drop => "drop"
  | take => "take"
  | consume => "consume"
  | extract => "extract"
  | takeTo stopping => "take_" ++ stopping.name
  | dropTo stopping => "drop_" ++ stopping.name
  | takeDelimited => "take_delimited"
  | takeDelimitedAny => "take_delimited_any"
  | trim => "trim"
  | trimFront => "trim_front"
  | trimBack => "trim_back"
  | lines => "lines"
  | truth => "bool"
  | toList => "list"
  | length => "len"
  | plain => "str"
  | shown => "repr"
  | hash => "hash"
  | duplicate => "copy_module"
  | buffer => "buffer"

def all : List Method :=
  [isEmpty, size, byteSize, has, front, back, «at», slice, item, startsWith, startsWithAny,
    endsWith, endsWithAny, text, view, location, copy, drop, take, consume, extract,
    takeDelimited, takeDelimitedAny, trim, trimFront, trimBack, lines, truth, toList, length,
    plain, shown, hash, duplicate, buffer] ++ Stopping.all.map takeTo ++ Stopping.all.map dropTo

def ofName? (name : String) : Option Method := all.find? fun method => method.name == name

/-- What a method takes. The forms that are no calls by name take what they are given. -/
def signature? (method : Method) : Option Signature :=
  let taking := fun (required : List String) (optional : Nat) =>
    some (Signature.mk ("Stream." ++ method.name) required optional)
  match method with
  | has => taking ["n"] 0
  | «at» => taking ["index"] 0
  | slice => taking [] 2
  | startsWith => taking ["prefix"] 0
  | startsWithAny => taking ["chars"] 0
  | endsWith => taking ["suffix"] 0
  | endsWithAny => taking ["chars"] 0
  | location => taking [] 1
  | drop => taking [] 1
  | take => taking [] 1
  | consume => taking ["char"] 0
  | extract => taking ["count"] 0
  | takeTo stopping => taking [if stopping.anyOf then "chars" else "target"] 0
  | dropTo stopping => taking [if stopping.anyOf then "chars" else "target"] 0
  | takeDelimited => taking ["delimiter"] 0
  | takeDelimitedAny => taking ["delimiters"] 0
  | trim => taking [] 1
  | trimFront => taking [] 1
  | trimBack => taking [] 1
  | lines => taking [] 1
  | isEmpty => taking [] 0
  | size => taking [] 0
  | byteSize => taking [] 0
  | front => taking [] 0
  | back => taking [] 0
  | text => taking [] 0
  | view => taking [] 0
  | copy => taking [] 0
  | _ => none

/-- The operation a method performs on these arguments. Counts default to one, what may
be configured to nothing. -/
def bind (method : Method) (arguments : List Value) : Except Fault Operation := do
  if let some signature := method.signature? then signature.admit arguments.length
  let first := arguments.headD Value.null
  let count := arguments.headD (Value.int 1)
  match method with
  | isEmpty => pure .isEmpty
  | size => pure .size
  | byteSize => pure .byteSize
  | has => (first.numberRight .ge).map .has
  | front => pure .front
  | back => pure .back
  | «at» => (first.numberRight .le).map .at
  | slice => do
    let start ← first.sliceBound?
    let stop ← (arguments[1]?.getD Value.null).sliceBound?
    pure (.slice start stop)
  | item => if arguments.isEmpty then throw .badValue else pure (.item first)
  | startsWith => pure (.startsWith first)
  | startsWithAny => pure (.startsWithAny first)
  | endsWith => pure (.endsWith first)
  | endsWithAny => pure (.endsWithAny first)
  | text => pure .text
  | view => pure .view
  | location => pure (.location first)
  | copy => pure .copy
  | drop => (count.numberLeft .ge).map .drop
  | take => (count.numberLeft .gt).map .take
  | consume => pure (.consume first)
  | extract => (first.numberLeft .ge).map .extract
  | takeTo stopping => pure (.takeTo stopping first)
  | dropTo stopping => pure (.dropTo stopping first)
  | takeDelimited => pure (.takeDelimited first)
  | takeDelimitedAny => pure (.takeDelimitedAny first)
  | trim => pure (.trim first)
  | trimFront => pure (.trimFront first)
  | trimBack => pure (.trimBack first)
  | lines => pure (.lines first)
  | truth => pure .truth
  | toList => pure .toList
  | length => pure .size
  | plain => pure .plain
  | shown => pure .shown
  | hash => pure .hash
  | duplicate => pure .copy
  | buffer => pure .buffer

end Method

end TextScan
