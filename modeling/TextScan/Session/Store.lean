import TextScan.Buffer
import TextScan.Stream.Lines
import TextScan.Value

/-! The store of a session: the buffers it holds, the cursors on them and the walks in
progress. A cursor has an identity, so two names for one cursor move together, and so
has a buffer, which all cursors on it share. -/

namespace TextScan.Session

/-- A buffer in the store. A buffer that is a view of memory names the buffer whose
memory that is. -/
structure Holding where
  buffer : Buffer
  exporter : Option Nat

/-- A window on a buffer of the store. A pinned cursor keeps its buffer from growing. -/
structure Cursor where
  buffer : Nat
  start : Nat
  stop : Nat
  pinned : Bool
  startForm : NumberForm
  stopForm : NumberForm
deriving DecidableEq, Repr

def Cursor.ofStream (buffer : Nat) (pinned : Bool) (stream : Stream) : Cursor :=
  ⟨buffer, stream.start, stream.stop, pinned, stream.startForm, stream.stopForm⟩

/-- What stands in a window from a place on. -/
def Cursor.onFrom (window : Cursor) (place : Nat) : Cursor :=
  { window with start := place, startForm := .number }

/-- What stands in a window before a place. -/
def Cursor.upTo (window : Cursor) (place : Nat) : Cursor :=
  { window with stop := place, stopForm := .number }

def Cursor.isEmpty (window : Cursor) : Bool := window.start == window.stop

/-- What a walk goes over: the units of a cursor, which is looked up when the walk starts,
or the lines of a window fixed before. -/
inductive WalkSource where
  | units (cursor : Nat)
  | lines (window : Cursor) (separator : List Nat)

/-- A walk has not started, has come to some place of what it goes over, or is over. What is
left of a window is a window too. -/
inductive Walk where
  | waiting (source : WalkSource)
  /-- The units of a window are left. -/
  | units (rest : Cursor)
  /-- A window is left to be cut at separators. -/
  | lines (rest : Cursor) (separator : List Nat)
  /-- No line of a window is left, but the end was not told. -/
  | passed (window : Cursor)
  /-- The units of a buffer are left from a place on, as it is now. -/
  | buffer (id place : Nat)
  /-- Values that lie in no window are left. -/
  | values (rest : List Value)
  /-- The streams of a list are left, from a place on. -/
  | streams (cursors : List Nat) (place : Nat)
  | finished

/-- What a walk gives: a value, a line that is a new window, or a stream of a list. -/
inductive Yield where
  | value (value : Value)
  | line (window : Cursor)
  | stream (cursor : Nat)

structure Store where
  holdings : List Holding
  cursors : List Cursor
  walks : List Walk

namespace Store

def empty : Store := ⟨[], [], []⟩

def buffer (store : Store) (id : Nat) : Buffer :=
  (store.holdings[id]?.map Holding.buffer).getD .empty

/-- The buffer whose memory a buffer shows: itself, or the one it is a view of. -/
def exporter (store : Store) (id : Nat) : Nat :=
  ((store.holdings[id]?).bind Holding.exporter).getD id

def stream (store : Store) (cursor : Cursor) : Stream :=
  ⟨store.buffer cursor.buffer, cursor.start, cursor.stop, cursor.startForm, cursor.stopForm⟩

/-- Whether a buffer is short enough for all its kind to be one: a text of at most one
character below 256, or a byte string of at most one byte. -/
def isUnique (buffer : Buffer) : Bool :=
  match buffer.backing with
  | .text => decide (buffer.size ≤ 1) && buffer.units.all fun code => decide (code < 256)
  | .bytes => decide (buffer.size ≤ 1)
  | _ => false

/-- Puts a buffer into the store, unless it is unique and there already. -/
def addBuffer (store : Store) (holding : Holding) : Store × Nat :=
  let known := if isUnique holding.buffer then
      store.holdings.findIdx? fun other => other.buffer == holding.buffer
    else none
  match known with
  | some id => (store, id)
  | none => ({ store with holdings := store.holdings ++ [holding] }, store.holdings.length)

def addCursor (store : Store) (cursor : Cursor) : Store × Nat :=
  ({ store with cursors := store.cursors ++ [cursor] }, store.cursors.length)

def addWalk (store : Store) (walk : Walk) : Store × Nat :=
  ({ store with walks := store.walks ++ [walk] }, store.walks.length)

def setCursor (store : Store) (id : Nat) (cursor : Cursor) : Store :=
  { store with cursors := store.cursors.set id cursor }

def setWalk (store : Store) (id : Nat) (walk : Walk) : Store :=
  { store with walks := store.walks.set id walk }

def setBuffer (store : Store) (id : Nat) (buffer : Buffer) : Store :=
  { store with holdings := store.holdings.modify id fun holding => { holding with buffer } }

/-- Whether a buffer is a view of the memory of another one, and keeps that from growing. -/
def viewHolds (store : Store) (id other : Nat) : Bool :=
  ((store.holdings[other]?).bind Holding.exporter) == some id

/-- A window keeps a buffer from growing when it is pinned on it, or lies on a view of
its memory. -/
def windowHolds (store : Store) (id : Nat) (window : Cursor) : Bool :=
  (window.pinned && window.buffer == id) || store.viewHolds id window.buffer

def cursorHolds (store : Store) (id cursor : Nat) : Bool :=
  (store.cursors[cursor]?).any (store.windowHolds id)

/-- A walk keeps what it goes over until it is over, and a whole list as well. -/
def walkHolds (store : Store) (id : Nat) : Walk → Bool
  | .waiting (.units cursor) => store.cursorHolds id cursor
  | .waiting (.lines window _) => store.windowHolds id window
  | .units rest => store.windowHolds id rest
  | .lines rest _ => store.windowHolds id rest
  | .passed window => store.windowHolds id window
  | .buffer other _ => store.viewHolds id other
  | .values _ => false
  | .streams cursors _ => cursors.any (store.cursorHolds id)
  | .finished => false

/-- A walk as it goes on: where it has not started it fixes what it goes over, and an empty
window has no lines. -/
def opened (store : Store) : Walk → Walk
  | .waiting (.units id) =>
    match store.cursors[id]? with
    | some window => .units window
    | none => .finished
  | .waiting (.lines window separator) =>
    if window.isEmpty then .passed window else .lines window separator
  | walk => walk

/-- The next line of what is left, and what is left behind it. Separators are looked for in
the buffer as it is now; an empty one makes each unit a line. -/
def nextLine (store : Store) (rest : Cursor) (separator : List Nat) : Option (Yield × Walk) :=
  if separator.isEmpty then
    if rest.isEmpty then none
    else
      let piece := (rest.onFrom rest.start).upTo (rest.start + 1)
      some (.line piece, .lines (rest.onFrom (rest.start + 1)) separator)
  else
    match (store.stream rest).findText? separator rest.start with
    | some (some place) =>
      some (.line (rest.upTo place), .lines (rest.onFrom (place + separator.length)) separator)
    | _ => some (.line rest, .passed rest)

/-- What a walk underway gives next, and the walk behind it. -/
def goOn (store : Store) : Walk → Option (Yield × Walk)
  | .units rest =>
    let stream := store.stream rest
    stream.front?.map fun code =>
      (.value (.ofUnit stream.unit code), .units (rest.onFrom (rest.start + 1)))
  | .lines rest separator => store.nextLine rest separator
  | .buffer id place =>
    let buffer := store.buffer id
    (buffer.units[place]?).map fun code =>
      (.value (.ofUnit buffer.unit code), .buffer id (place + 1))
  | .values (value :: rest) => some (.value value, .values rest)
  | .streams cursors place =>
    (cursors[place]?).map fun id => (.stream id, .streams cursors (place + 1))
  | _ => none

def next? (store : Store) (walk : Walk) : Option (Yield × Walk) := store.goOn (store.opened walk)

def remaining (store : Store) : Walk → List Yield
  | .units rest =>
    let stream := store.stream rest
    stream.content.map fun code => .value (.ofUnit stream.unit code)
  | .lines rest separator =>
    (Lines.pieces ⟨store.stream rest, separator, []⟩).map fun piece =>
      .line (.ofStream rest.buffer rest.pinned piece)
  | .buffer id place =>
    let buffer := store.buffer id
    (buffer.units.drop place).map fun code => .value (.ofUnit buffer.unit code)
  | .values rest => rest.map .value
  | .streams cursors place => (cursors.drop place).map .stream
  | _ => []

/-- All that a walk has still to give. -/
def left (store : Store) (walk : Walk) : List Yield := store.remaining (store.opened walk)

/-- What a walk gives, as it reads now. -/
def shown (store : Store) : Yield → Value
  | .value value => value
  | .line window => .stream (store.stream window)
  | .stream id => ((store.cursors[id]?).map fun cursor => .stream (store.stream cursor)).getD .null

/-- Puts the lines among what a walk gives into the store, as cursors of their own, and names
them together with the streams. -/
def gather (store : Store) : List Yield → Store × List Nat
  | [] => (store, [])
  | .value _ :: rest => store.gather rest
  | .line window :: rest =>
    let (store, id) := store.addCursor window
    let (store, ids) := store.gather rest
    (store, id :: ids)
  | .stream id :: rest =>
    let (store, ids) := store.gather rest
    (store, id :: ids)

end Store

end TextScan.Session
