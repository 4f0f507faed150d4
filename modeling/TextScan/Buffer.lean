import TextScan.Buffer.Items

/-! Buffers: the units a stream reads, together with what holds them. The holder fixes
the character unit, and no unit exceeds the greatest value of its kind. -/

namespace TextScan

/-- What holds the units of a buffer. -/
inductive Backing where
  | text
  | bytes
  | byteArray
  | array (format : ItemFormat) (unit : CharUnit) (readable : format.unit? = some unit)
  | memory (format : ItemFormat) (unit : CharUnit) (readable : format.unit? = some unit)
deriving DecidableEq, Repr

namespace Backing

def unit : Backing → CharUnit
  | text => .wide
  | bytes => .narrow
  | byteArray => .narrow
  | array _ unit _ => unit
  | memory _ unit _ => unit

def isGrowable : Backing → Bool
  | byteArray => true
  | array .. => true
  | _ => false

/-- Text and byte strings are searched by direct comparison of whole stretches. -/
def isContiguous : Backing → Bool
  | text => true
  | bytes => true
  | byteArray => true
  | _ => false

def sameSort : Backing → Backing → Bool
  | text, text => true
  | bytes, bytes => true
  | byteArray, byteArray => true
  | array .., array .. => true
  | memory .., memory .. => true
  | _, _ => false

theorem isText_unit_iff {backing : Backing} : backing.unit.isText = true ↔ backing = text := by
  cases backing with
  | text => simp [unit, CharUnit.isText]
  | bytes => simp [unit, CharUnit.isText]
  | byteArray => simp [unit, CharUnit.isText]
  | array format unit readable =>
    have different : unit ≠ .wide := fun same =>
      ItemFormat.unit?_ne_wide format (same ▸ readable)
    simp [Backing.unit, CharUnit.isText_iff, different]
  | memory format unit readable =>
    have different : unit ≠ .wide := fun same =>
      ItemFormat.unit?_ne_wide format (same ▸ readable)
    simp [Backing.unit, CharUnit.isText_iff, different]

theorem isText_of_sameSort {first second : Backing} (same : first.sameSort second = true) :
    first.unit.isText = second.unit.isText := by
  rw [Bool.eq_iff_iff, isText_unit_iff, isText_unit_iff]
  cases first <;> cases second <;> simp_all [sameSort]

end Backing

/-- Units in order, held by a backing whose unit bounds each of them. -/
structure Buffer where
  backing : Backing
  units : List Nat
  bounded : ∀ code ∈ units, code ≤ backing.unit.maxValue
deriving DecidableEq

namespace Buffer

def unit (buffer : Buffer) : CharUnit := buffer.backing.unit

def size (buffer : Buffer) : Nat := buffer.units.length

def empty : Buffer := ⟨.text, [], by simp⟩

instance : Inhabited Buffer := ⟨empty⟩

def ofText (text : Text) : Buffer :=
  ⟨.text, text.codes, fun code member => by
    have below := Text.codes_lt text code member
    simp only [Backing.unit, CharUnit.maxValue]
    omega⟩

def byteCodes (bytes : List UInt8) : List Nat := bytes.map UInt8.toNat

theorem byteCodes_le (bytes : List UInt8) : ∀ code ∈ byteCodes bytes, code ≤ 255 := by
  intro code member
  obtain ⟨byte, _, rfl⟩ := List.mem_map.mp member
  have := byte.toNat_lt
  omega

def ofBytes (bytes : List UInt8) : Buffer := ⟨.bytes, byteCodes bytes, byteCodes_le bytes⟩

def ofByteArray (bytes : List UInt8) : Buffer :=
  ⟨.byteArray, byteCodes bytes, byteCodes_le bytes⟩

theorem itemCode_le {format : ItemFormat} {unit : CharUnit} {items : List Item}
    (readable : format.unit? = some unit) (admitted : items.all format.admits = true) :
    ∀ code ∈ items.map Item.code, code ≤ unit.maxValue := by
  intro code member
  obtain ⟨item, present, rfl⟩ := List.mem_map.mp member
  have fits := List.all_eq_true.mp admitted item present
  cases item with
  | int code =>
    simp only [ItemFormat.admits, readable, Bool.and_eq_true, decide_eq_true_eq] at fits
    simp only [Item.code]
    omega
  | fraction mantissa places => simp [ItemFormat.admits, readable] at fits
  | char point => simp [ItemFormat.admits, readable] at fits

/-- The buffer over an array, if its format is one a stream reads. -/
def ofArray? (array : ItemArray) : Option Buffer :=
  match readable : array.format.unit? with
  | none => none
  | some unit =>
    some ⟨.array array.format unit readable, array.items.map Item.code,
      itemCode_le readable array.admitted⟩

/-- The buffer over a view, if its format is one a stream reads. -/
def ofMemory? (view : MemoryView) : Option Buffer :=
  match readable : view.format.unit? with
  | none => none
  | some unit =>
    some ⟨.memory view.format unit readable, view.items.map Item.code,
      itemCode_le readable view.admitted⟩

theorem ofArray?_readable {array : ItemArray} {unit : CharUnit}
    (readable : array.format.unit? = some unit) :
    ofArray? array = some ⟨.array array.format unit readable, array.items.map Item.code,
      itemCode_le readable array.admitted⟩ := by
  unfold ofArray?
  split
  · rename_i unread
    cases unread.symm.trans readable
  · rename_i other readable'
    cases readable'.symm.trans readable
    rfl

theorem ofArray?_unread {array : ItemArray} (unread : array.format.unit? = none) :
    ofArray? array = none := by
  unfold ofArray?
  split
  · rfl
  · rename_i readable
    cases unread.symm.trans readable

theorem ofMemory?_readable {view : MemoryView} {unit : CharUnit}
    (readable : view.format.unit? = some unit) :
    ofMemory? view = some ⟨.memory view.format unit readable, view.items.map Item.code,
      itemCode_le readable view.admitted⟩ := by
  unfold ofMemory?
  split
  · rename_i unread
    cases unread.symm.trans readable
  · rename_i other readable'
    cases readable'.symm.trans readable
    rfl

theorem ofMemory?_unread {view : MemoryView} (unread : view.format.unit? = none) :
    ofMemory? view = none := by
  unfold ofMemory?
  split
  · rfl
  · rename_i readable
    cases unread.symm.trans readable

def extract (buffer : Buffer) (start stop : Nat) : Buffer :=
  ⟨buffer.backing, (buffer.units.drop start).take (stop - start), fun code member =>
    buffer.bounded code (List.mem_of_mem_drop (List.mem_of_mem_take member))⟩

def push (buffer : Buffer) (code : Nat) (fits : code ≤ buffer.unit.maxValue) : Buffer :=
  ⟨buffer.backing, buffer.units ++ [code], fun other member => by
    rcases List.mem_append.mp member with old | new
    · exact buffer.bounded other old
    · rw [List.mem_singleton.mp new]
      exact fits⟩

def items (buffer : Buffer) : List Item := buffer.units.map fun (code : Nat) => .int code

theorem items_admitted {buffer : Buffer} {format : ItemFormat}
    (readable : format.unit? = some buffer.unit) :
    buffer.items.all format.admits = true := by
  apply List.all_eq_true.mpr
  intro item member
  obtain ⟨code, present, rfl⟩ := List.mem_map.mp member
  have bound : code ≤ buffer.unit.maxValue := buffer.bounded code present
  simp only [ItemFormat.admits, readable, Bool.and_eq_true, decide_eq_true_eq]
  omega

def cells (buffer : Buffer) (format : ItemFormat) : List Cell :=
  buffer.units.map (.ofCode format.size)

theorem cells_stored (buffer : Buffer) {format : ItemFormat}
    (readable : format.unit? = some buffer.unit) :
    (buffer.cells format).all format.stores = true := by
  refine List.all_eq_true.mpr fun cell member => ?_
  obtain ⟨code, present, rfl⟩ := List.mem_map.mp member
  have admits := List.all_eq_true.mp (items_admitted readable) (.int code)
    (List.mem_map.mpr ⟨code, present, rfl⟩)
  simp [ItemFormat.stores, Cell.ofCode, admits, length_littleEndian, Item.code]

/-- The units as a view of items that a stream reads as them. -/
def viewed (buffer : Buffer) (format : ItemFormat) (readable : format.unit? = some buffer.unit) :
    MemoryView :=
  ⟨format, 1, buffer.cells format, buffer.cells_stored readable⟩

/-- The item format under which the units lie in memory; text lies in none. -/
def memoryFormat? (buffer : Buffer) :
    Option { format : ItemFormat // format.unit? = some buffer.unit } :=
  match buffer with
  | ⟨.text, _, _⟩ => none
  | ⟨.bytes, _, _⟩ => some ⟨.byte, ItemFormat.unit?_byte⟩
  | ⟨.byteArray, _, _⟩ => some ⟨.byte, ItemFormat.unit?_byte⟩
  | ⟨.array format _ readable, _, _⟩ => some ⟨format, readable⟩
  | ⟨.memory format _ readable, _, _⟩ => some ⟨format, readable⟩

/-- The units as typed memory; text lies in none. -/
def memory? (buffer : Buffer) : Option MemoryView :=
  buffer.memoryFormat?.map fun format => buffer.viewed format.val format.property

end Buffer

end TextScan
