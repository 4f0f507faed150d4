import TextScan.Argument.Walk

/-! Comparing values. Streams compare by content, unit by unit; a value beside a stream
compares by the text it gives in the units of the stream. Of other values, numbers, texts
and byte strings have an order. -/

namespace TextScan

namespace Stream

/-- The content that a value stands for beside a stream. A number alone stands for none,
and neither does what the unit refuses. -/
def operand? (stream : Stream) : Value → Option (List Nat)
  | .stream other => if stream.unit.isText = other.unit.isText then some other.content else none
  | value =>
    match value.int? with
    | some _ => none
    | none => (stream.unit.text value).toOption

def equals (stream : Stream) : Value → Bool
  | .stream other => stream.equalsStream other
  | value =>
    match stream.operand? value with
    | some content =>
      decide (content.length = stream.size) && (stream.startsWith content).getD false
    | none => false

/-- Whether the stream comes before the value, if the two have an order. -/
def precedes? (stream : Stream) (value : Value) : Option Bool :=
  (stream.operand? value).map fun content => decide (stream.content < content)

/-- Whether a relation holds between a stream and a value, if they have an order where
the relation needs one. The relations made of both read the value twice. -/
def holds? (stream : Stream) (relation : Relation) (value : Value) : Option Bool :=
  match relation with
  | .eq => some (stream.equals value)
  | .ne => some (!stream.equals value)
  | .lt => stream.precedes? value
  | .le => (stream.precedes? value).map fun before => before || stream.equals value.spent
  | .gt => (stream.precedes? value).map fun before => !before && !stream.equals value.spent
  | .ge => (stream.precedes? value).map fun before => !before

/-- What the unit refuses is no operand beside a stream; only what cannot be gone through is a
fault. -/
def checkRead (stream : Stream) (value : Value) : Except Fault Unit :=
  match stream.unit.text value with
  | .error (.blocked obstacle) => .error (.unit (some stream.unit) (.blocked obstacle))
  | _ => .ok ()

/-- The comparison `stream relation value`. -/
def compare (stream : Stream) (relation : Relation) (value : Value) : Except Fault Bool := do
  stream.checkRead value
  match stream.holds? relation value with
  | some answer => pure answer
  | none => throw (.incomparable relation "Stream" value.fullTypeName)

/-- The comparison `value relation stream`, which holds when the converse one does. -/
def compareFrom (stream : Stream) (relation : Relation) (value : Value) : Except Fault Bool := do
  stream.checkRead value
  match stream.holds? relation.converse value with
  | some answer => pure answer
  | none => throw (.incomparable relation value.fullTypeName "Stream")

end Stream

namespace Value

def precedes? (first second : Value) : Option Bool :=
  match first.number?, second.number?, first, second with
  | some number, some number', _, _ => some (number.precedes number')
  | _, _, text points, text points' => some (decide (points.codes < points'.codes))
  | _, _, bytes codes, bytes codes' => some (decide (codes < codes'))
  | _, _, _, _ => none

def relates? (relation : Relation) (first second : Value) : Option Bool :=
  match relation with
  | .eq => some (first.equal second)
  | .ne => some !(first.equal second)
  | .lt => first.precedes? second
  | .le => (second.precedes? first).map (!·)
  | .gt => second.precedes? first
  | .ge => (first.precedes? second).map (!·)

/-- The comparison `first relation second`, decided by a stream if there is one. -/
def compare (relation : Relation) (first second : Value) : Except Fault Bool :=
  match first, second with
  | .stream window, second => window.compare relation second
  | first, .stream window => window.compareFrom relation first
  | first, second =>
    match relates? relation first second with
    | some answer => .ok answer
    | none => .error (.incomparable relation first.fullTypeName second.fullTypeName)

/-- The walks that a comparison goes through: those that a stream is compared with. -/
def walksCompared (first second : Value) : List Nat :=
  match first, second with
  | .stream window, second => window.unit.walksInText second
  | first, .stream window => window.unit.walksInText first
  | _, _ => []

end Value

end TextScan
