import TextScan.CharUnit
import TextScan.Text

namespace TextScan

/-- An item format: the name it is reported by, and the bytes of one item. -/
structure ItemFormat where
  name : String
  size : Nat
deriving DecidableEq, Repr

namespace ItemFormat

/-- The format's name without the leading marks for native byte order. -/
def baseName (format : ItemFormat) : String :=
  String.ofList (format.name.toList.dropWhile fun c => c = '@' || c = '=')

/-- A buffer is accepted for unsigned items of one, two or four bytes. -/
def accepted? (format : ItemFormat) : Option CharUnit :=
  if format.baseName ∈ ["B", "H", "I", "L"] then
    match format.size with
    | 1 => some .narrow
    | 2 => some .utf16
    | 4 => some .utf32
    | _ => none
  else none

/-- Items are looked up by offset where the name is one character, after at most one mark for
the order of the machine. The other mark fixes their sizes as well, and is not looked through. -/
def isIndexed (format : ItemFormat) : Bool :=
  match format.name.toList with
  | '@' :: kind => kind.length == 1
  | kind => kind.length == 1

/-- The unit a stream reads items as: that of an accepted buffer, if they can be looked up. -/
def unit? (format : ItemFormat) : Option CharUnit :=
  if format.isIndexed then format.accepted? else none

theorem accepted?_of_unit? {format : ItemFormat} {unit : CharUnit}
    (readable : format.unit? = some unit) : format.accepted? = some unit :=
  (Option.ite_none_right_eq_some.mp readable).2

theorem unit?_ne_wide (format : ItemFormat) : format.unit? ≠ some .wide := by
  intro wide
  have accepted := accepted?_of_unit? wide
  unfold accepted? at accepted
  split at accepted
  · split at accepted <;> cases accepted
  · cases accepted

def byte : ItemFormat := ⟨"B", 1⟩

theorem unit?_byte : byte.unit? = some .narrow := by decide +kernel

def short : ItemFormat := ⟨"H", 2⟩

theorem unit?_short : short.unit? = some .utf16 := by decide +kernel

/-- The array format with this type code. -/
def ofTypeCode? (code : String) : Option ItemFormat :=
  let sizes := [("b", 1), ("B", 1), ("h", 2), ("H", 2), ("i", 4), ("I", 4), ("l", 8),
    ("L", 8), ("q", 8), ("Q", 8), ("f", 4), ("d", 8), ("u", 4)]
  (sizes.lookup code).map fun size => ⟨code, size⟩

end ItemFormat

/-- One item. Fractions are kept as a decimal mantissa and a count of places. -/
inductive Item where
  | int (code : Int)
  | fraction (mantissa : Int) (places : Nat)
  | char (point : CodePoint)
deriving DecidableEq, Repr

/-- The code of an item that a readable format admits. -/
def Item.code : Item → Nat
  | .int code => code.toNat
  | _ => 0

/-- Whether a format a stream can read holds this item; other formats hold any. -/
def ItemFormat.admits (format : ItemFormat) (item : Item) : Bool :=
  match format.unit?, item with
  | none, _ => true
  | some unit, .int code => decide (0 ≤ code) && decide (code ≤ unit.maxValue)
  | some _, _ => false

/-- The lowest `size` bytes of a number, least significant first; a negative number
stands in two's complement. -/
def littleEndian : (size : Nat) → Int → List UInt8
  | 0, _ => []
  | size + 1, code => UInt8.ofNat (code % 256).toNat :: littleEndian size (code / 256)

example : littleEndian 2 0x1234 = [0x34, 0x12] ∧ littleEndian 2 (-2) = [0xFE, 0xFF] := by
  decide

theorem length_littleEndian (size : Nat) (code : Int) : (littleEndian size code).length = size := by
  induction size generalizing code with
  | zero => rfl
  | succ size ih => rw [littleEndian, List.length_cons, ih]

/-- The bytes an item is stored in. How a fraction is stored is left open. -/
def Item.bytes? (size : Nat) : Item → Option (List UInt8)
  | .int code => some (littleEndian size code)
  | .fraction _ _ => none
  | .char point => some (littleEndian size point.val)

/-- Items of one format, each of which the format admits. -/
structure ItemArray where
  format : ItemFormat
  items : List Item
  admitted : items.all format.admits = true
deriving DecidableEq, Repr

namespace ItemArray

def ofItems? (format : ItemFormat) (items : List Item) : Option ItemArray :=
  if admitted : items.all format.admits = true then some ⟨format, items, admitted⟩ else none

/-- The bytes an array lies in, left open where it holds a fraction. -/
def bytes? (array : ItemArray) : Option (List UInt8) :=
  (array.items.mapM (Item.bytes? array.format.size)).map List.flatten

end ItemArray

structure Cell where
  item : Item
  bytes : List UInt8
deriving DecidableEq, Repr

/-- A code in the bytes of an item. -/
def Cell.ofCode (size code : Nat) : Cell := ⟨.int code, littleEndian size code⟩

/-- Whether a format stores an item in these bytes. The bytes that a stream reads as a code are
those of the code; under any other format they are what they are. -/
def ItemFormat.stores (format : ItemFormat) (cell : Cell) : Bool :=
  format.admits cell.item && cell.bytes.length == format.size &&
    (format.unit?.isNone || cell.bytes == littleEndian format.size cell.item.code)

/-- A view of typed memory. Only a view of one dimension is a sequence of items. -/
structure MemoryView where
  format : ItemFormat
  dimensions : Nat
  cells : List Cell
  stored : cells.all format.stores = true
deriving DecidableEq, Repr

namespace MemoryView

def items (view : MemoryView) : List Item := view.cells.map Cell.item

/-- The bytes under a view, whatever their order and its format. -/
def bytes (view : MemoryView) : List UInt8 := view.cells.flatMap Cell.bytes

theorem admitted (view : MemoryView) : view.items.all view.format.admits = true := by
  rw [items, List.all_map]
  refine List.all_eq_true.mpr fun cell member => ?_
  have stores := List.all_eq_true.mp view.stored cell member
  simp only [ItemFormat.stores, Bool.and_eq_true] at stores
  exact stores.1.1

def ofCells? (format : ItemFormat) (cells : List Cell) : Option MemoryView :=
  if stored : cells.all format.stores = true then some ⟨format, 1, cells, stored⟩ else none

end MemoryView

/-- The items a view keeps when it takes every `step`-th, from the last one backwards if
the step is negative. -/
def strided {α : Type} (step : Int) (items : List α) : List α :=
  let ordered := if step < 0 then items.reverse else items
  (List.range ordered.length).filterMap fun index =>
    if index % step.natAbs = 0 then ordered[index]? else none

end TextScan
