import TextScan.Stream.Sealed

namespace TextScan

namespace ItemFormat

variable {format : ItemFormat} {unit : CharUnit}

theorem accept_eq_ok : format.accept = .ok unit ↔ format.accepted? = some unit := by
  unfold accept
  cases format.accepted? with
  | none => exact ⟨nofun, nofun⟩
  | some own => simp only [Except.ok.injEq, Option.some.injEq]

theorem isIndexed_of_unit? (readable : format.unit? = some unit) : format.isIndexed = true :=
  (Option.ite_none_right_eq_some.mp readable).1

theorem not_isIndexed (accepted : format.accepted? = some unit) (unread : format.unit? = none) :
    format.isIndexed = false := by
  rw [Bool.eq_false_iff]
  intro indexed
  rw [unit?, if_pos indexed, accepted] at unread
  cases unread

end ItemFormat

namespace Value

variable {value : Value} {format : ItemFormat} {unit : CharUnit}

def itemFormat? : Value → Option ItemFormat
  | array typed => some typed.format
  | memory view => if view.dimensions = 1 then some view.format else none
  | _ => none

/-- A sequence of items is accepted by their format, and read where that says so. -/
structure ReadBy (value : Value) (format : ItemFormat) : Prop where
  accepts : value.unitOf = format.accept
  reads : ∀ unit, format.unit? = some unit → ∃ buffer, value.buffer = .ok buffer ∧ buffer.unit = unit
  unread : format.unit? = none → value.buffer = .error format.unreadable

theorem readBy_format (items : value.itemFormat? = some format) : value.ReadBy format := by
  cases value with
  | array typed =>
    cases items
    refine ⟨rfl, fun unit readable => ?_, fun unread => ?_⟩
    · rw [Value.buffer, Buffer.ofArray?_readable readable]
      exact ⟨_, rfl, rfl⟩
    · rw [Value.buffer, Buffer.ofArray?_unread unread]
  | memory view =>
    obtain ⟨single, same⟩ := Option.ite_none_right_eq_some.mp items
    cases same
    have whole := not_not_intro single
    refine ⟨if_neg whole, fun unit readable => ?_, fun unread => ?_⟩
    · rw [Value.buffer, if_neg whole, Buffer.ofMemory?_readable readable]
      exact ⟨_, rfl, rfl⟩
    · rw [Value.buffer, if_neg whole, Buffer.ofMemory?_unread unread]
  | _ => cases items

/-- What is no sequence of items is accepted just where it is read. -/
theorem unitOf_eq_of_no_items (items : value.itemFormat? = none) :
    value.unitOf = value.buffer.map Buffer.unit := by
  cases value with
  | array typed => cases items
  | memory view =>
    rw [itemFormat?] at items
    split at items
    · cases items
    · rename_i folded
      rw [unitOf, buffer, if_pos folded, if_pos folded]
      rfl
  | _ => rfl

/-- What is accepted as a buffer of a unit is a buffer to be read in it, or a sequence of items that
cannot be looked up. -/
theorem unitOf_eq_ok : value.unitOf = .ok unit ↔
    (∃ buffer, value.buffer = .ok buffer ∧ buffer.unit = unit) ∨
      ∃ format, value.itemFormat? = some format ∧ format.accepted? = some unit ∧
        format.isIndexed = false := by
  cases items : value.itemFormat? with
  | none =>
    rw [unitOf_eq_of_no_items items]
    cases value.buffer with
    | error cause => simp [Except.map]
    | ok buffer => simp [Except.map]
  | some format =>
    obtain ⟨accepts, reads, unread⟩ := readBy_format items
    rw [accepts, ItemFormat.accept_eq_ok]
    cases read : format.unit? with
    | some own =>
      obtain ⟨buffer, held, rfl⟩ := reads own read
      have indexed := ItemFormat.isIndexed_of_unit? read
      simp [held, indexed, ItemFormat.accepted?_of_unit? read]
    | none =>
      rw [unread read]
      constructor
      · intro accepted
        exact .inr ⟨format, rfl, accepted, ItemFormat.not_isIndexed accepted read⟩
      · rintro (⟨buffer, held, -⟩ | ⟨other, same, accepted, -⟩)
        · cases held
        · cases same
          exact accepted

end Value

namespace SealedStream

variable {stream : SealedStream}

theorem mapM_lookUp {start count : Nat} (some : 0 < count) :
    (List.range' start count).mapM stream.lookUp = .error stream.fault := by
  cases count with
  | zero => cases some
  | succ count => rfl

/-- A stream that gives none of its units, though it has some. -/
structure YieldsNothing (stream : SealedStream) : Prop where
  front : stream.front = .error stream.fault
  back : stream.back = .error stream.fault
  offsets : ∀ offset : Int, 0 ≤ offset → offset < stream.size →
    stream.at? offset = .error stream.fault
  extracts : ∀ count, 0 < count → count ≤ stream.size →
    (stream.extract count).1 = .error stream.fault
  list : stream.toList = .error stream.fault
  consumes : ∀ char code, stream.source.unit.char char = .ok code →
    stream.consume char = .error stream.fault

/-- Off a window of a sealed view, no unit is ever read. -/
theorem yields_nothing (ordered : stream.start ≤ stream.stop) (some : stream.isEmpty = false) :
    stream.YieldsNothing := by
  have front : stream.front = .error stream.fault := by
    rw [SealedStream.front, some]
    rfl
  have room : 0 < stream.size := by
    have apart : stream.start ≠ stream.stop := by simpa [isEmpty] using some
    rw [size]
    omega
  refine ⟨front, ?_, ?_, ?_, mapM_lookUp room, ?_⟩
  · rw [back, some]
    rfl
  · intro offset natural inside
    rw [at?, if_pos ⟨natural, inside⟩]
    rfl
  · intro count positive fits
    rw [extract, if_neg (Nat.not_lt.mpr fits), mapM_lookUp positive]
    rfl
  · intro char code read
    rw [consume, read, front]
    rfl

end SealedStream

/-- One unsigned item of two bytes, in a format whose mark fixes its size. -/
def markedView : SealedView :=
  ⟨⟨⟨"=H", 2⟩, 1, [.ofCode 2 97], by decide +kernel⟩, .utf16, by rfl, by decide +kernel⟩

theorem marked_view_yields_nothing :
    (Value.memory markedView.view).unitOf = .ok .utf16 ∧
      (SealedStream.ofView markedView).size = 1 ∧
      (SealedStream.ofView markedView).YieldsNothing :=
  ⟨markedView.accepted, rfl, SealedStream.yields_nothing (by decide) rfl⟩

end TextScan
