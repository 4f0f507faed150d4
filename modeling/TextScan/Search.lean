import TextScan.Argument.Holder
import TextScan.Buffer.Search

namespace TextScan

/-- The searches for a text, for one unit, or for any unit of a collection. -/
inductive Search where
  | find
  | findUnit
  | findLastUnit
  | countUnit
  | findAnyOf
  | findNoneOf
  | findLastNoneOf
  | matchesAt
  | matchesBefore
  | runEnd
deriving DecidableEq, Repr

namespace Search

def name : Search → String
  | find => "find"
  | findUnit => "find_unit"
  | findLastUnit => "rfind_unit"
  | countUnit => "count_unit"
  | findAnyOf => "find_first_of"
  | findNoneOf => "find_first_not_of"
  | findLastNoneOf => "find_last_not_of"
  | matchesAt => "match_at"
  | matchesBefore => "match_end"
  | runEnd => "repeat_end"

def all : List Search :=
  [find, findUnit, findLastUnit, countUnit, findAnyOf, findNoneOf, findLastNoneOf, matchesAt,
    matchesBefore, runEnd]

def ofName? (name : String) : Option Search := all.find? fun search => search.name == name

/-- The code of a value that is one unit: a text of one character or a number. -/
def unitCode? (unit : CharUnit) (value : Value) : Option Nat :=
  match unit.isText, value with
  | true, .text [point] => some point.val
  | true, _ => none
  | false, value =>
    (value.number?.bind Number.whole?).bind fun code =>
      if code < 0 then none else some code.toNat

/-- The units sought, in order. What is no unit stands as a code beyond the greatest. -/
def needle (unit : CharUnit) (value : Value) : List Nat :=
  ((value.elements?).getD [value]).map fun member =>
    (unitCode? unit member).getD (unit.maxValue + 1)

def unitsAmong (unit : CharUnit) (value : Value) : List Nat :=
  ((value.elements?).getD [value]).filterMap (unitCode? unit)

/-- Whether one unit is sought in a byte string by a number that is no byte. -/
def refusesCode (search : Search) (buffer : Buffer) (sought : Value) : Bool :=
  let seeksNumbers := search = find ∨ search = findUnit ∨ search = findLastUnit ∨
    search = countUnit
  seeksNumbers && buffer.backing.isContiguous && !buffer.unit.isText &&
    sought.int?.any fun code => decide (code < 0 ∨ 255 < code)

def place : Option Int → Value
  | some place => .int place
  | none => .int (-1)

/-- A bound of a search item by item is a whole number. -/
def bound (value : Value) : Except Fault Int :=
  match value.int? with
  | some bound => .ok bound
  | none => .error (.notInteger value.fullTypeName)

/-- A bound of a search by whole stretches may also be nothing, which stands for an end. -/
def stretchBound (outermost : Int) (value : Value) : Except Fault Int :=
  match value.int?, value with
  | some bound, _ => .ok bound
  | none, .null => .ok outermost
  | none, _ => .error .wrongBound

/-- Whether a search goes through a buffer by whole stretches. -/
def goesByStretches (search : Search) (buffer : Buffer) : Bool :=
  buffer.backing.isContiguous &&
    decide (search ∉ [findAnyOf, findNoneOf, findLastNoneOf, runEnd])

/-- The answer of a search that read no place outside the buffer. -/
def answered {α : Type} (buffer : Buffer) (make : α → Value) : Option α → Except Fault Value
  | some answer => .ok (make answer)
  | none => .error (.outside buffer.backing.sequence)

/-- Searches a buffer. A search that ends where it began answers the bound as it was
given. -/
def perform (search : Search) (buffer : Buffer) (sought start stop : Value) :
    Except Fault Value := do
  let byStretches := search.goesByStretches buffer
  let first ← if byStretches then stretchBound 0 start else bound start
  let last ← if byStretches then stretchBound buffer.size stop else bound stop
  if search.refusesCode buffer sought then throw .byteRange
  let needle := needle buffer.unit sought
  let code := (unitCode? buffer.unit sought).getD (needle.headD (buffer.unit.maxValue + 1))
  let among := unitsAmong buffer.unit sought
  match search with
  | find =>
    if needle.isEmpty && !byStretches && decide (first ≤ last) then pure start
    else answered buffer place (buffer.find? needle first last)
  | findUnit => answered buffer place (buffer.findUnit? code first last)
  | findLastUnit => answered buffer place (buffer.findLastUnit? code first last)
  | countUnit =>
    answered buffer (fun (count : Nat) => .int count) (buffer.countUnit code first last)
  | findAnyOf =>
    answered buffer place (Buffer.Itemwise.findWhere? buffer.read among.contains first last)
  | findNoneOf =>
    answered buffer place
      (Buffer.Itemwise.findWhere? buffer.read (fun code => !among.contains code) first last)
  | findLastNoneOf =>
    answered buffer place
      (Buffer.Itemwise.findLast? buffer.read (fun code => !among.contains code) first last)
  | matchesAt => answered buffer .bool (buffer.matchesAt needle first last)
  | matchesBefore => answered buffer .bool (buffer.matchesBefore needle first last)
  | runEnd =>
    answered buffer (fun place => if place = first then start else .int place)
      (buffer.runEnd needle first last)

/-- The first place whose unit the test answers as expected. -/
def findWhere (buffer : Buffer) (test : CharTest Value) (expected : Bool)
    (start stop : Value) : Except Fault Value := do
  let first ← bound start
  let last ← bound stop
  answered buffer place
    (Buffer.Itemwise.findWhere? buffer.read
      (fun code => test.holds Value.truth code == expected) first last)

/-- Whether two stretches hold the same units. Of two that reach outside their buffers the
one that does so earlier is at fault, the first one if they do together. -/
def equal (first : Buffer) (start stop : Value) (second : Buffer) (start' stop' : Value) :
    Except Fault Value := do
  let start ← bound start
  let stop ← bound stop
  let start' ← bound start'
  let stop' ← bound stop'
  let shorter := if second.size - start' < first.size - start then second else first
  answered shorter .bool (first.equalBetween start stop second start' stop')

end Search

end TextScan
