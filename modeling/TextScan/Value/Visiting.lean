import TextScan.Value.Equality

/-! The order in which a set visits its members. Numbers lie in slots, each in the one its
key points to or, if that is taken, in the next one of a fixed sequence, and slots are
visited in ascending order. Members of other types are visited as they were given. -/

namespace TextScan

/-- Slots, a power of two of them, each empty or holding a member under its key. -/
structure SlotTable (α : Type) where
  slots : List (Option (Nat × α))

namespace SlotTable

variable {α : Type}

def ofSize (size : Nat) : SlotTable α := ⟨List.replicate size none⟩

def size (table : SlotTable α) : Nat := table.slots.length

/-- The members in ascending order of their slots. -/
def members (table : SlotTable α) : List (Nat × α) := table.slots.filterMap id

/-- The first empty slot among `count` neighbours. -/
def freeAmong (table : SlotTable α) (slot count : Nat) : Option Nat :=
  ((List.range count).map (slot + ·)).find? fun place =>
    match table.slots[place]? with
    | some none => true
    | _ => false

/-- The slot for a key: ten neighbours are tried where there are that many, otherwise one,
and then the sequence goes on from five times the slot, mixed with the rest of the key. -/
def freeSlot (table : SlotTable α) : (tries slot key : Nat) → Nat
  | 0, slot, _ => slot
  | tries + 1, slot, key =>
    match table.freeAmong slot (if slot + 9 < table.size then 10 else 1) with
    | some free => free
    | none => freeSlot table tries ((slot * 5 + 1 + key / 32) % table.size) (key / 32)

def put (table : SlotTable α) (entry : Nat × α) : SlotTable α :=
  ⟨table.slots.set (table.freeSlot (table.size + 16) (entry.1 % table.size) entry.1) (some entry)⟩

/-- The least power of two, from eight on, above a count. -/
def roomFor (count : Nat) : Nat := max 8 (1 <<< (Nat.log2 count + 1))

/-- Puts an entry in, and moves all entries to a table four times as large as their
number once three fifths of the slots are taken. -/
def insert (table : SlotTable α) (entry : Nat × α) : SlotTable α :=
  let filled := table.put entry
  let entries := filled.members
  if (table.size - 1) * 3 ≤ entries.length * 5 then
    entries.foldl put (ofSize (roomFor (entries.length * 4)))
  else filled

end SlotTable

namespace Value

/-- The number that stands for an amount wherever it is looked up: its remainder by a
prime, with its sign; the one below zero stands apart. -/
def hashed? (value : Value) : Option Int :=
  (value.number?.bind Number.whole?).map fun amount =>
    let remainder : Int := (amount.natAbs % 0x1FFFFFFFFFFFFFFF : Nat)
    if 0 ≤ amount then remainder else if remainder = 1 then -2 else -remainder

/-- The key of a number, negative ones as 64-bit complements. -/
def slotKey? (value : Value) : Option Nat :=
  value.hashed?.map fun number => (number % 0x10000000000000000).toNat

/-- Distinct members in the order a set visits them. -/
def visited (members : List Value) : List Value :=
  match members.mapM fun member => member.slotKey?.map fun key => (key, member) with
  | some entries => ((entries.foldl SlotTable.insert (.ofSize 8)).members).map Prod.snd
  | none => members

example : ([1000, 300, 9, 1].map Value.int |> visited).map Value.int? =
    [some 1000, some 9, some 300, some 1] := by decide +kernel

end Value

end TextScan
