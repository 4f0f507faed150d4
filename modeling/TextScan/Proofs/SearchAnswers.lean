import Mathlib.Data.Set.Card
import Mathlib.Order.Interval.Finset.Nat
import TextScan.Proofs.Coercion
import TextScan.Proofs.Occurrence
import TextScan.Search

namespace TextScan

namespace Buffer

variable {buffer : Buffer} {needle : List Nat} {code start stop place : Nat}

/-- A needle stands whole at a place, from one bound on and before another. -/
def StandsAt (buffer : Buffer) (needle : List Nat) (start stop place : Nat) : Prop :=
  start ≤ place ∧ place + needle.length ≤ stop ∧ needle <+: buffer.units.drop place

/-- A unit stands at a place, from one bound on and before another. -/
def HoldsAt (buffer : Buffer) (code start stop place : Nat) : Prop :=
  start ≤ place ∧ place < stop ∧ buffer.units[place]? = some code

theorem size_congr {other : Buffer} (same : buffer.units = other.units) :
    buffer.size = other.size := congrArg List.length same

theorem between_congr {other : Buffer} (same : buffer.units = other.units) (start stop : Nat) :
    buffer.between start stop = other.between start stop := by
  rw [between, same, ← between]

theorem standsAt_image (ordered : start ≤ stop) (inside : stop ≤ buffer.size) :
    { place | buffer.StandsAt needle start stop place } =
      (start + ·) '' { offset | Scan.Occurs needle (buffer.between start stop) offset } := by
  ext place
  simp only [Set.mem_ofPred_eq, Set.mem_image, StandsAt, Scan.Occurs, length_between inside,
    drop_between]
  constructor
  · rintro ⟨low, fits, starts⟩
    refine ⟨place - start, ⟨by omega, ?_⟩, by omega⟩
    rw [Nat.add_sub_cancel' low]
    exact List.prefix_take_iff.mpr ⟨starts, by omega⟩
  · rintro ⟨offset, ⟨within, starts⟩, rfl⟩
    obtain ⟨whole, fits⟩ := List.prefix_take_iff.mp starts
    exact ⟨Nat.le_add_right _ _, by omega, whole⟩

theorem standsAt_start :
    buffer.StandsAt needle start stop start ↔
      start ≤ stop ∧ needle <+: buffer.between start stop := by
  rw [StandsAt, between, List.prefix_take_iff]
  constructor
  · rintro ⟨-, fits, starts⟩
    exact ⟨by omega, starts, by omega⟩
  · rintro ⟨ordered, starts, fits⟩
    exact ⟨Nat.le_refl _, by omega, starts⟩

theorem standsAt_stop (inside : stop ≤ buffer.size) :
    (∃ place, place + needle.length = stop ∧ buffer.StandsAt needle start stop place) ↔
      start ≤ stop ∧ needle <:+ buffer.between start stop := by
  constructor
  · rintro ⟨place, ends, low, fits, starts⟩
    have whole : needle = buffer.between place stop := by
      refine List.IsPrefix.eq_of_length (List.prefix_take_iff.mpr ⟨starts, by omega⟩) ?_
      rw [length_between inside]
      omega
    refine ⟨by omega, buffer.between start place, ?_⟩
    rw [whole]
    exact between_append low (by omega)
  · rintro ⟨ordered, front, whole⟩
    have size := congrArg List.length whole
    rw [length_between inside, List.length_append] at size
    refine ⟨start + front.length, by omega, by omega, by omega, ?_⟩
    have rest := congrArg (List.drop front.length) whole
    rw [List.drop_left, drop_between] at rest
    rw [rest]
    exact List.take_prefix _ _

theorem holdsAt_image :
    { place | buffer.HoldsAt code start stop place } =
      (start + ·) '' { offset | (Scan.Sought.unit (· == code)).At (buffer.between start stop)
        offset } := by
  ext place
  simp only [Set.mem_ofPred_eq, Set.mem_image, HoldsAt, Scan.Sought.At, getElem?_between,
    beq_iff_eq, exists_eq_right]
  constructor
  · rintro ⟨low, before, held⟩
    refine ⟨place - start, ?_, by omega⟩
    rw [Nat.add_sub_cancel' low, if_pos before, held]
  · rintro ⟨offset, there, rfl⟩
    obtain ⟨before, held⟩ := Option.ite_none_right_eq_some.mp there
    exact ⟨Nat.le_add_right _ _, before, held⟩

/-- The units that are counted in a stretch are as many as the places that hold one. -/
theorem count_between (inside : stop ≤ buffer.size) :
    (buffer.between start stop).count code =
      { place | buffer.HoldsAt code start stop place }.ncard := by
  have places : { place | buffer.HoldsAt code start stop place } =
      ↑((Finset.Ico start stop).filter fun place => buffer.units[place]? = some code) := by
    ext place
    simp [HoldsAt, and_assoc]
  rw [places, Set.ncard_coe_finset]
  clear places
  induction stop with
  | zero => simp [between]
  | succ stop ih =>
    by_cases crossed : stop < start
    · simp [between_empty crossed, Finset.Ico_eq_empty_of_le (Nat.succ_le_of_lt crossed)]
    · have before : start ≤ stop := Nat.le_of_not_lt crossed
      obtain ⟨unit, held, back⟩ := between_concat before inside
      rw [back, List.count_append, ih (Nat.le_of_lt inside), List.count_singleton,
        Nat.Ico_succ_right_eq_insert_Ico before, Finset.filter_insert, held]
      by_cases same : unit = code
      · simp [same]
      · simp [same]

/-- A unit that a place holds, as it is read there. -/
def unitAt? (buffer : Buffer) (place : Nat) : Option Value :=
  buffer.units[place]?.map (.ofUnit buffer.unit)

/-- Two stretches are of one length and hold the same units, one by one. -/
def SameUnits (first : Buffer) (start stop : Nat) (second : Buffer) (start' stop' : Nat) : Prop :=
  stop - start = stop' - start' ∧ ∀ offset, offset < stop - start →
    first.unitAt? (start + offset) = second.unitAt? (start' + offset)

theorem ofUnit_inj {unit unit' : CharUnit} {code code' : Nat}
    (inRange : unit.isText = true → code < 0x110000)
    (inRange' : unit'.isText = true → code' < 0x110000) :
    Value.ofUnit unit code = .ofUnit unit' code' ↔ unit.isText = unit'.isText ∧ code = code' := by
  constructor
  · intro same
    refine (Value.equal_ofUnit inRange inRange').mp ?_
    rw [same]
    exact (Value.equal_ofUnit inRange' inRange').mpr ⟨rfl, rfl⟩
  · rintro ⟨kind, rfl⟩
    rw [Value.ofUnit_kind kind]

theorem sameUnits_iff {first second : Buffer} {start' stop' : Nat} (ordered : start ≤ stop)
    (inside : stop ≤ first.size) (ordered' : start' ≤ stop') (inside' : stop' ≤ second.size) :
    first.SameUnits start stop second start' stop' ↔
      first.between start stop = second.between start' stop' ∧
        (first.unit.isText = second.unit.isText ∨ start = stop) := by
  have size : (first.between start stop).length = stop - start := length_between inside
  have size' : (second.between start' stop').length = stop' - start' := length_between inside'
  constructor
  · rintro ⟨length, same⟩
    have units (offset : Nat) (before : offset < stop - start) :
        first.unit.isText = second.unit.isText ∧
          first.units[start + offset]? = second.units[start' + offset]? := by
      have held : start + offset < first.units.length := by
        simp only [Buffer.size] at inside
        omega
      have held' : start' + offset < second.units.length := by
        simp only [Buffer.size] at inside'
        omega
      have equal := same offset before
      rw [unitAt?, unitAt?, List.getElem?_eq_getElem held, List.getElem?_eq_getElem held',
        Option.map_some, Option.map_some, Option.some_inj,
        ofUnit_inj (first.inRange (List.getElem_mem held))
          (second.inRange (List.getElem_mem held'))] at equal
      rw [List.getElem?_eq_getElem held, List.getElem?_eq_getElem held', equal.2]
      exact ⟨equal.1, rfl⟩
    refine ⟨List.ext_getElem? fun offset => ?_, ?_⟩
    · rw [getElem?_between, getElem?_between]
      by_cases before : offset < stop - start
      · rw [if_pos (by omega), if_pos (by omega), (units offset before).2]
      · rw [if_neg (by omega), if_neg (by omega)]
    · by_cases some : start = stop
      · exact .inr some
      · exact .inl (units 0 (by omega)).1
  · rintro ⟨equal, kind⟩
    have length : stop - start = stop' - start' := by rw [← size, ← size', equal]
    refine ⟨length, fun offset before => ?_⟩
    have text := kind.resolve_right (by omega)
    have held := congrArg (·[offset]?) equal
    simp only [getElem?_between] at held
    rw [if_pos (by omega), if_pos (by omega)] at held
    rw [unitAt?, unitAt?, held, Value.ofUnit_kind text]

end Buffer

namespace Search

variable {buffer : Buffer} {sought char : Value} {needle : List Nat} {code start stop : Nat}

/-- What is sought, unit by unit, are these codes. -/
def Seeks (unit : CharUnit) (sought : Value) (needle : List Nat) : Prop :=
  ∃ members, sought.elements? = some members ∧
    List.Forall₂ (fun member code => unitCode? unit member = some code) members needle

/-- The answer of a search for a place: one that is chosen among some, or minus one if there are
none. -/
inductive Chosen (best : Set Nat → Nat → Prop) (places : Set Nat) : Value → Prop
  | found {place : Nat} (chosen : best places place) : Chosen best places (.int place)
  | absent (none : places = ∅) : Chosen best places (.int (-1))

/-- What the searches for a text and for a unit answer between two bounds. -/
structure Specified (buffer : Buffer) (sought char : Value) (needle : List Nat)
    (code start stop : Nat) : Prop where
  find : ∃ answer, Search.find.perform buffer sought (.int start) (.int stop) = .ok answer ∧
    Chosen IsLeast { place | buffer.StandsAt needle start stop place } answer
  empty : needle = [] → Search.find.perform buffer sought (.int start) (.int stop) =
    .ok (.int (if start ≤ stop then start else -1))
  findUnit : ∃ answer,
    Search.findUnit.perform buffer char (.int start) (.int stop) = .ok answer ∧
      Chosen IsLeast { place | buffer.HoldsAt code start stop place } answer
  findLastUnit : ∃ answer,
    Search.findLastUnit.perform buffer char (.int start) (.int stop) = .ok answer ∧
      Chosen IsGreatest { place | buffer.HoldsAt code start stop place } answer
  countUnit : Search.countUnit.perform buffer char (.int start) (.int stop) =
    .ok (.int { place | buffer.HoldsAt code start stop place }.ncard)
  matchesAt : ∃ answer,
    Search.matchesAt.perform buffer sought (.int start) (.int stop) = .ok (.bool answer) ∧
      (answer = true ↔ buffer.StandsAt needle start stop start)
  matchesBefore : ∃ answer,
    Search.matchesBefore.perform buffer sought (.int start) (.int stop) = .ok (.bool answer) ∧
      (answer = true ↔
        ∃ place, place + needle.length = stop ∧ buffer.StandsAt needle start stop place)

namespace Chosen

variable {best : Set Nat → Nat → Prop} {offsets : Set Nat} {scan : Option Nat}

theorem ofOffsets
    (shift : ∀ offset, best offsets offset → best ((start + ·) '' offsets) (start + offset))
    (found : ∀ offset, scan = some offset → best offsets offset)
    (absent : scan = none → ∀ offset, offset ∉ offsets) :
    Chosen best ((start + ·) '' offsets)
      (place (scan.map fun offset => ((start + offset : Nat) : Int))) := by
  cases scan with
  | none =>
    rw [Set.eq_empty_of_forall_notMem (absent rfl), Set.image_empty]
    exact .absent rfl
  | some offset => exact .found (shift offset (found offset rfl))

theorem least (found : ∀ offset, scan = some offset → IsLeast offsets offset)
    (absent : scan = none → ∀ offset, offset ∉ offsets) :
    Chosen IsLeast ((start + ·) '' offsets)
      (place (scan.map fun offset => ((start + offset : Nat) : Int))) :=
  ofOffsets (fun _ chosen => Monotone.map_isLeast add_right_mono chosen) found absent

theorem greatest (found : ∀ offset, scan = some offset → IsGreatest offsets offset)
    (absent : scan = none → ∀ offset, offset ∉ offsets) :
    Chosen IsGreatest ((start + ·) '' offsets)
      (place (scan.map fun offset => ((start + offset : Nat) : Int))) :=
  ofOffsets (fun _ chosen => Monotone.map_isGreatest add_right_mono chosen) found absent

end Chosen

theorem isUnit_code {unit : CharUnit} {value : Value} (single : unit.IsUnit value) :
    ∃ code, unitCode? unit value = some code ∧
      (unit.isText = false → value.int? = some (code : Int) ∧ code ≤ unit.maxValue) := by
  unfold CharUnit.IsUnit at single
  split at single
  · rename_i text
    obtain ⟨point, rfl⟩ := single
    exact ⟨point.val, by simp [unitCode?, text], by simp [text]⟩
  · rename_i number
    obtain ⟨code, counted, bounded⟩ := single
    refine ⟨code, ?_, fun _ => ⟨counted, bounded⟩⟩
    simp [unitCode?, number, Value.number?_of_int? counted, Number.whole?, Number.mantissa,
      Number.scale]

theorem normal_seeks {unit : CharUnit} (normal : unit.Normal sought) :
    ∃ needle, Seeks unit sought needle := by
  obtain ⟨members, listed, units⟩ := normal.units
  suffices ∃ needle, List.Forall₂ (fun member code => unitCode? unit member = some code) members
      needle by
    obtain ⟨needle, read⟩ := this
    exact ⟨needle, members, listed, read⟩
  clear listed
  induction members with
  | nil => exact ⟨[], .nil⟩
  | cons first rest ih =>
    obtain ⟨single, others⟩ := List.forall_mem_cons.mp units
    obtain ⟨code, read, -⟩ := isUnit_code single
    obtain ⟨needle, later⟩ := ih others
    exact ⟨code :: needle, .cons read later⟩

theorem needle_eq {unit : CharUnit} (seeks : Seeks unit sought needle) :
    Search.needle unit sought = needle := by
  obtain ⟨members, listed, read⟩ := seeks
  rw [Search.needle, listed, Option.getD_some]
  clear listed
  induction read with
  | nil => rfl
  | cons head _ ih => rw [List.map_cons, head, ih, Option.getD_some]

theorem bound_int (amount : Int) : bound (.int amount) = .ok amount := rfl

theorem stretchBound_int (outermost amount : Int) :
    stretchBound outermost (.int amount) = .ok amount := rfl

theorem ok_bind {α β : Type} (given : α) (next : α → Except Fault β) :
    (Except.ok given >>= next) = next given := rfl

theorem text_accepted (search : Search) (seeks : Seeks buffer.unit sought needle) :
    search.refusesCode buffer sought = false := by
  obtain ⟨members, listed, -⟩ := seeks
  have uncounted : sought.int? = none := by
    cases sought with
    | int _ => cases listed
    | bool _ => cases listed
    | _ => rfl
  simp [refusesCode, uncounted]

theorem unit_accepted (search : Search) (single : buffer.unit.IsUnit char) :
    search.refusesCode buffer char = false := by
  obtain ⟨code, -, counted⟩ := isUnit_code single
  by_cases bytes : buffer.backing.isContiguous = true ∧ buffer.unit.isText = false
  · have byte : buffer.unit = .narrow := by
      revert bytes
      rw [Buffer.unit]
      cases buffer.backing with
      | text =>
        rintro ⟨-, number⟩
        cases number
      | bytes => exact fun _ => rfl
      | byteArray => exact fun _ => rfl
      | array =>
        rintro ⟨contiguous, -⟩
        cases contiguous
      | memory =>
        rintro ⟨contiguous, -⟩
        cases contiguous
    obtain ⟨amount, small⟩ := counted bytes.2
    have inRange : code ≤ 255 := by
      rw [byte] at small
      exact small
    simp [refusesCode, amount, inRange]
  · rw [not_and_or, Bool.not_eq_true, Bool.not_eq_false] at bytes
    rcases bytes with itemwise | text
    · simp [refusesCode, itemwise]
    · simp [refusesCode, text]

theorem perform_find (seeks : Seeks buffer.unit sought needle) (inside : stop ≤ buffer.size) :
    Search.find.perform buffer sought (.int start) (.int stop) =
      .ok (place (if start ≤ stop then (Scan.find? needle (buffer.between start stop)).map
        fun offset => ((start + offset : Nat) : Int) else none)) := by
  simp only [perform, bound_int, stretchBound_int, ok_bind, text_accepted _ seeks, needle_eq seeks,
    Bool.false_eq_true, if_false, ite_self, Buffer.find?_eq needle inside, answered]
  split
  · rename_i empty
    obtain ⟨⟨rfl, -⟩, ordered⟩ : (needle = [] ∧ _) ∧ start ≤ stop := by simpa using empty
    rw [if_pos ordered, Scan.find?_nil_left]
    rfl
  · rfl

theorem perform_matchesAt (seeks : Seeks buffer.unit sought needle) (inside : stop ≤ buffer.size) :
    Search.matchesAt.perform buffer sought (.int start) (.int stop) =
      .ok (.bool (decide (start ≤ stop) && needle.isPrefixOf (buffer.between start stop))) := by
  simp only [perform, bound_int, stretchBound_int, ok_bind, text_accepted _ seeks, needle_eq seeks,
    Bool.false_eq_true, if_false, ite_self, Buffer.matchesAt_eq needle inside, answered]

theorem perform_matchesBefore (seeks : Seeks buffer.unit sought needle)
    (inside : stop ≤ buffer.size) :
    Search.matchesBefore.perform buffer sought (.int start) (.int stop) =
      .ok (.bool (decide (start ≤ stop) && needle.isSuffixOf (buffer.between start stop))) := by
  simp only [perform, bound_int, stretchBound_int, ok_bind, text_accepted _ seeks, needle_eq seeks,
    Bool.false_eq_true, if_false, ite_self, Buffer.matchesBefore_eq needle inside, answered]

section Unit

variable (single : buffer.unit.IsUnit char) (read : unitCode? buffer.unit char = some code)
  (inside : stop ≤ buffer.size)

include single read inside

theorem perform_findUnit :
    Search.findUnit.perform buffer char (.int start) (.int stop) =
      .ok (place ((Scan.findWhere? (· == code) (buffer.between start stop)).map
        fun offset => ((start + offset : Nat) : Int))) := by
  simp only [perform, bound_int, stretchBound_int, ok_bind, unit_accepted _ single, read,
    Option.getD_some, Bool.false_eq_true, if_false, ite_self, Buffer.findUnit?_eq code inside,
    answered]

theorem perform_findLastUnit :
    Search.findLastUnit.perform buffer char (.int start) (.int stop) =
      .ok (place ((Scan.findLast? (· == code) (buffer.between start stop)).map
        fun offset => ((start + offset : Nat) : Int))) := by
  simp only [perform, bound_int, stretchBound_int, ok_bind, unit_accepted _ single, read,
    Option.getD_some, Bool.false_eq_true, if_false, ite_self, Buffer.findLastUnit?_eq code inside,
    answered]

theorem perform_countUnit :
    Search.countUnit.perform buffer char (.int start) (.int stop) =
      .ok (.int ((buffer.between start stop).count code : Nat)) := by
  simp only [perform, bound_int, stretchBound_int, ok_bind, unit_accepted _ single, read,
    Option.getD_some, Bool.false_eq_true, if_false, ite_self, Buffer.countUnit_eq code inside,
    answered]

end Unit

theorem specified (seeks : Seeks buffer.unit sought needle) (single : buffer.unit.IsUnit char)
    (read : unitCode? buffer.unit char = some code) (inside : stop ≤ buffer.size) :
    Specified buffer sought char needle code start stop where
  find := by
    refine ⟨_, perform_find seeks inside, ?_⟩
    split
    · rename_i ordered
      rw [Buffer.standsAt_image ordered inside]
      exact .least (fun _ => Scan.find?_least) Scan.find?_absent
    · rename_i crossed
      refine .absent (Set.eq_empty_of_forall_notMem fun place stands => ?_)
      have low := stands.1
      have fits := stands.2.1
      omega
  empty := by
    rintro rfl
    rw [perform_find seeks inside]
    split
    · rw [Scan.find?_nil_left]
      rfl
    · rfl
  findUnit := by
    refine ⟨_, perform_findUnit single read inside, ?_⟩
    rw [Buffer.holdsAt_image]
    exact .least (fun _ => Scan.findWhere?_least) Scan.findWhere?_absent
  findLastUnit := by
    refine ⟨_, perform_findLastUnit single read inside, ?_⟩
    rw [Buffer.holdsAt_image]
    exact .greatest (fun _ => Scan.findLast?_greatest) Scan.findLast?_absent
  countUnit := by
    rw [perform_countUnit single read inside, Buffer.count_between inside]
  matchesAt := by
    refine ⟨_, perform_matchesAt seeks inside, ?_⟩
    rw [Buffer.standsAt_start, Bool.and_eq_true, decide_eq_true_eq, List.isPrefixOf_iff_prefix]
  matchesBefore := by
    refine ⟨_, perform_matchesBefore seeks inside, ?_⟩
    rw [Buffer.standsAt_stop inside, Bool.and_eq_true, decide_eq_true_eq,
      List.isSuffixOf_iff_suffix]

/-- The searches answer alike on two buffers, what is sought being given in the form of each. -/
structure SameAnswers (buffer : Buffer) (sought char : Value) (other : Buffer)
    (sought' char' : Value) (start stop : Nat) : Prop where
  texts : ∀ search ∈ [Search.find, .matchesAt, .matchesBefore],
    search.perform buffer sought (.int start) (.int stop) =
      search.perform other sought' (.int start) (.int stop)
  units : ∀ search ∈ [Search.findUnit, .findLastUnit, .countUnit],
    search.perform buffer char (.int start) (.int stop) =
      search.perform other char' (.int start) (.int stop)

theorem sameAnswers {other : Buffer} {sought' char' : Value} (same : buffer.units = other.units)
    (seeks : Seeks buffer.unit sought needle) (seeks' : Seeks other.unit sought' needle)
    (single : buffer.unit.IsUnit char) (single' : other.unit.IsUnit char')
    (read : unitCode? buffer.unit char = some code)
    (read' : unitCode? other.unit char' = some code) (inside : stop ≤ buffer.size) :
    SameAnswers buffer sought char other sought' char' start stop := by
  have stretch := Buffer.between_congr same start stop
  have inside' : stop ≤ other.size := Buffer.size_congr same ▸ inside
  constructor
  · simp only [List.forall_mem_cons, List.not_mem_nil, false_implies, implies_true, and_true]
    refine ⟨?_, ?_, ?_⟩
    · rw [perform_find seeks inside, perform_find seeks' inside', stretch]
    · rw [perform_matchesAt seeks inside, perform_matchesAt seeks' inside', stretch]
    · rw [perform_matchesBefore seeks inside, perform_matchesBefore seeks' inside', stretch]
  · simp only [List.forall_mem_cons, List.not_mem_nil, false_implies, implies_true, and_true]
    refine ⟨?_, ?_, ?_⟩
    · rw [perform_findUnit single read inside, perform_findUnit single' read' inside', stretch]
    · rw [perform_findLastUnit single read inside, perform_findLastUnit single' read' inside',
        stretch]
    · rw [perform_countUnit single read inside, perform_countUnit single' read' inside', stretch]

/-- Item by item, the searches answer the same whatever they would find outside the bounds, and so
they have an answer even where nothing is to be found there. -/
structure Contained (look : Int → Option Nat) (buffer : Buffer) (needle : List Nat)
    (code start stop : Nat) : Prop where
  find : Buffer.Itemwise.find? look needle start stop = buffer.find? needle start stop
  findUnit : Buffer.Itemwise.findUnit? look code start stop = buffer.findUnit? code start stop
  findLastUnit :
    Buffer.Itemwise.findLastUnit? look code start stop = buffer.findLastUnit? code start stop
  countUnit : Buffer.Itemwise.countUnit look code start stop = buffer.countUnit code start stop
  matchesAt : Buffer.Itemwise.matchesAt look needle start stop = buffer.matchesAt needle start stop
  matchesBefore :
    Buffer.Itemwise.matchesBefore look needle start stop = buffer.matchesBefore needle start stop

theorem contained {look : Int → Option Nat} (shows : Buffer.Itemwise.Shows look buffer start stop)
    (inside : stop ≤ buffer.size) (needle : List Nat) (code : Nat) :
    Contained look buffer needle code start stop where
  find := by rw [Buffer.Itemwise.find?_eq needle shows inside, Buffer.find?_eq needle inside]
  findUnit := by
    rw [Buffer.Itemwise.findUnit?_eq code shows inside, Buffer.findUnit?_eq code inside]
  findLastUnit := by
    rw [Buffer.Itemwise.findLastUnit?_eq code shows inside, Buffer.findLastUnit?_eq code inside]
  countUnit := by
    rw [Buffer.Itemwise.countUnit_eq code shows inside, Buffer.countUnit_eq code inside]
  matchesAt := by
    rw [Buffer.Itemwise.matchesAt_eq needle shows inside, Buffer.matchesAt_eq needle inside]
  matchesBefore := by
    rw [Buffer.Itemwise.matchesBefore_eq needle shows inside, Buffer.matchesBefore_eq needle inside]

section Equal

variable {first second : Buffer} {start' stop' : Nat}

/-- What the comparison of two stretches answers, on these buffers and on others that hold the same
units; item by item, whatever it would find outside the bounds. -/
structure EqualSpecified (first : Buffer) (start stop : Nat) (second : Buffer)
    (start' stop' : Nat) : Prop where
  answer : ∃ answer,
    equal first (.int start) (.int stop) second (.int start') (.int stop') = .ok (.bool answer) ∧
      (answer = true ↔ first.SameUnits start stop second start' stop')
  alike : ∀ other other' : Buffer, first.units = other.units → second.units = other'.units →
    (first.unit.isText = second.unit.isText ↔ other.unit.isText = other'.unit.isText) →
      equal first (.int start) (.int stop) second (.int start') (.int stop') =
        equal other (.int start) (.int stop) other' (.int start') (.int stop')
  contained : stop - start = stop' - start' → ∀ look look' : Int → Option Nat,
    Buffer.Itemwise.Shows look first start stop → Buffer.Itemwise.Shows look' second start' stop' →
      Buffer.Itemwise.agreesWith (first.unit.isText == second.unit.isText) look look'
        ((stop : Int) - start).toNat start start' =
          first.equalBetween start stop second start' stop'

variable (ordered : start ≤ stop) (inside : stop ≤ first.size) (ordered' : start' ≤ stop')
  (inside' : stop' ≤ second.size)

include ordered inside ordered' inside'

theorem equal_ok :
    equal first (.int start) (.int stop) second (.int start') (.int stop') =
      .ok (.bool (decide (first.between start stop = second.between start' stop' ∧
        (first.unit.isText = second.unit.isText ∨ start = stop)))) := by
  simp only [equal, bound_int, ok_bind, answered,
    Buffer.equalBetween_eq ordered inside ordered' inside']

theorem equal_specified : EqualSpecified first start stop second start' stop' where
  answer := by
    refine ⟨_, equal_ok ordered inside ordered' inside', ?_⟩
    rw [decide_eq_true_eq, Buffer.sameUnits_iff ordered inside ordered' inside']
  alike := by
    intro other other' same same' kinds
    rw [equal_ok ordered inside ordered' inside', equal_ok ordered
      (Buffer.size_congr same ▸ inside) ordered' (Buffer.size_congr same' ▸ inside')]
    simp only [Buffer.between_congr same, Buffer.between_congr same', kinds]
  contained := by
    intro length look look' shows shows'
    obtain ⟨count, rfl⟩ := Nat.exists_eq_add_of_le ordered
    obtain ⟨count', rfl⟩ := Nat.exists_eq_add_of_le ordered'
    obtain rfl : count = count' := by omega
    have distance : (((start + count : Nat) : Int) - start).toNat = count := by omega
    rw [distance, Buffer.agreesWith_eq shows shows' inside inside',
      Buffer.equalBetween_eq ordered inside ordered' inside']
    cases count with
    | zero => simp [Buffer.between_empty]
    | succ count => simp [and_comm]

end Equal

/-- The searches of a buffer meet one specification, by whole stretches and item by item: what is
sought is given in the buffer's own form, and the bounds are places in it, which may cross. -/
theorem meets_specification (normal : buffer.unit.Normal sought) (single : buffer.unit.IsUnit char)
    (inside : stop ≤ buffer.size) :
    ∃ needle code, Seeks buffer.unit sought needle ∧ unitCode? buffer.unit char = some code ∧
      Specified buffer sought char needle code start stop ∧
      (∀ (other : Buffer) (sought' char' : Value), buffer.units = other.units →
        other.unit.Normal sought' → other.unit.IsUnit char' →
        Seeks other.unit sought' needle → unitCode? other.unit char' = some code →
        SameAnswers buffer sought char other sought' char' start stop) ∧
      (∀ look, Buffer.Itemwise.Shows look buffer start stop →
        Contained look buffer needle code start stop) ∧
      ∀ (second : Buffer) (start' stop' : Nat), start ≤ stop → start' ≤ stop' →
        stop' ≤ second.size → EqualSpecified buffer start stop second start' stop' := by
  obtain ⟨needle, seeks⟩ := normal_seeks normal
  obtain ⟨code, read, -⟩ := isUnit_code single
  refine ⟨needle, code, seeks, read, specified seeks single read inside, ?_, ?_, ?_⟩
  · intro other sought' char' same _ single' seeks' read'
    exact sameAnswers same seeks seeks' single single' read read' inside
  · exact fun look shows => contained shows inside needle code
  · exact fun second start' stop' ordered ordered' inside' =>
      equal_specified ordered inside ordered' inside'

/-- A byte string that is searched for a byte, from its second place on. -/
theorem meets_specification_bytes :
    let buffer := Buffer.ofBytes [97, 98, 97]
    (buffer.unit.Normal (.bytes [97]) ∧ buffer.unit.IsUnit (.int 97) ∧ 3 ≤ buffer.size) ∧
      ∃ needle code, Seeks buffer.unit (.bytes [97]) needle ∧
        unitCode? buffer.unit (.int 97) = some code ∧
        Specified buffer (.bytes [97]) (.int 97) needle code 1 3 := by
  have own : CharUnit.narrow.readText (.bytes [97]) = .ok (.bytes [97]) := rfl
  have normal : (Buffer.ofBytes [97, 98, 97]).unit.Normal (.bytes [97]) :=
    CharUnit.readText_normal own
  have single : (Buffer.ofBytes [97, 98, 97]).unit.IsUnit (.int 97) := ⟨97, rfl, by decide⟩
  refine ⟨⟨normal, single, by decide⟩, ?_⟩
  obtain ⟨needle, code, seeks, read, specified, -⟩ :=
    @meets_specification _ _ _ 1 3 normal single (by decide)
  exact ⟨needle, code, seeks, read, specified⟩

end Search

end TextScan
