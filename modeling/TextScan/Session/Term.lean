import TextScan.Argument
import TextScan.Session.Store

namespace TextScan.Session

inductive Part where
  | stream (cursor : Nat)
  | lines (window : Cursor)
  | walk (id : Nat)
  | buffer (id : Nat)

inductive Object where
  | stream (cursor : Nat)
  | lines (window : Cursor) (separator : List Nat) (forms : List NumberForm)
  | walk (id : Nat)
  | buffer (id : Nat)
  /-- A list of streams. -/
  | streams (cursors : List Nat)
  | value (value : Value)
  /-- A value that refers to what was in registers when it was made. -/
  | made (value : Value) (parts : List Part)

namespace Object

def parts : Object → List Part
  | stream cursor => [.stream cursor]
  | lines window _ _ => [.lines window]
  | walk id => [.walk id]
  | buffer id => [.buffer id]
  | streams cursors => cursors.map .stream
  | value _ => []
  | made _ parts => parts

/-- A value with what it refers to, if there is any such thing. -/
def ofValue (value : Value) (parts : List Part) : Object :=
  if parts.isEmpty then .value value else .made value parts

end Object

/-- Whether what is referred to keeps a buffer from growing. -/
def Store.partHolds (store : Store) (id : Nat) : Part → Bool
  | .stream cursor => store.cursorHolds id cursor
  | .lines window => store.windowHolds id window
  | .walk walk => (store.walks[walk]?).any (store.walkHolds id)
  | .buffer other => store.viewHolds id other

/-- A written argument. -/
inductive Term where
  | value (value : Value)
  | register (name : String)
  | list (terms : List Term)
  | tuple (terms : List Term)
  | set (terms : List Term)
  | frozenSet (terms : List Term)
  | slice (start stop step : Term)
  /-- The test that answers the same value for every character. -/
  | constant (term : Term)
  | repeated (term : Term) (count : Int)
  | joined (terms : List Term)
  /-- What could not be read as a term, and why. -/
  | refused (fault : Fault)
deriving Inhabited

mutual

def Term.names : Term → List String
  | .value _ => []
  | .register name => [name]
  | .list terms => namesAmong terms
  | .tuple terms => namesAmong terms
  | .set terms => namesAmong terms
  | .frozenSet terms => namesAmong terms
  | .slice start stop step => start.names ++ stop.names ++ step.names
  | .constant term => term.names
  | .repeated term _ => term.names
  | .joined terms => namesAmong terms
  | .refused _ => []

def namesAmong : List Term → List String
  | [] => []
  | term :: rest => term.names ++ namesAmong rest

end

/-- A value several times over; only sequences repeat. -/
def repeatedValue (count : Nat) : Value → Except Fault Value
  | .text points => .ok (.text (List.replicate count points).flatten)
  | .bytes bytes => .ok (.bytes (List.replicate count bytes).flatten)
  | .byteArray bytes => .ok (.byteArray (List.replicate count bytes).flatten)
  | .list members => .ok (.list (List.replicate count members).flatten)
  | .tuple members => .ok (.tuple (List.replicate count members).flatten)
  | .array typed =>
    match ItemArray.ofItems? typed.format (List.replicate count typed.items).flatten with
    | some repeated => .ok (.array repeated)
    | none => .error .badValue
  | _ => .error .badValue

/-- Two sequences of one type, one after the other. -/
def joinedValue : Value → Value → Except Fault Value
  | .text first, .text second => .ok (.text (first ++ second))
  | .bytes first, .bytes second => .ok (.bytes (first ++ second))
  | .byteArray first, .byteArray second => .ok (.byteArray (first ++ second))
  | .list first, .list second => .ok (.list (first ++ second))
  | .tuple first, .tuple second => .ok (.tuple (first ++ second))
  | .array first, .array second =>
    if first.format = second.format then
      match ItemArray.ofItems? first.format (first.items ++ second.items) with
      | some joined => .ok (.array joined)
      | none => .error .badValue
    else .error .badValue
  | _, _ => .error .badValue

/-- Several sequences of one type in a row. -/
def joinedValues : List Value → Except Fault Value
  | [] => .error .badValue
  | first :: rest => rest.foldlM joinedValue first

mutual

/-- The value of a term, given the values of registers. -/
def Term.eval (lookup : String → Except Fault Value) : Term → Except Fault Value
  | .value value => .ok value
  | .register name => lookup name
  | .list terms => (evalAll lookup terms).map .list
  | .tuple terms => (evalAll lookup terms).map .tuple
  | .set terms => do
    let given ← evalAll lookup terms
    (Value.members given).map .set
  | .frozenSet terms => do
    let given ← evalAll lookup terms
    (Value.members given).map .frozenSet
  | .slice start stop step => do
    let start ← start.eval lookup
    let stop ← stop.eval lookup
    let step ← step.eval lookup
    pure (.slice start stop step)
  | .constant term => do
    let value ← term.eval lookup
    pure (.function (.constant value))
  | .repeated term count => do
    let value ← term.eval lookup
    repeatedValue count.toNat value
  | .joined terms => do
    let values ← evalAll lookup terms
    joinedValues values
  | .refused fault => .error fault

/-- The values of terms, the first fault winning. -/
def evalAll (lookup : String → Except Fault Value) : List Term → Except Fault (List Value)
  | [] => .ok []
  | term :: rest => do
    let value ← term.eval lookup
    let values ← evalAll lookup rest
    pure (value :: values)

end

end TextScan.Session
