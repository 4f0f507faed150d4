import TextScan.Buffer.Search
import TextScan.Proofs.Scan

namespace TextScan.Buffer

section Between

variable {buffer : Buffer} {start stop : Nat}

theorem length_between (inside : stop ≤ buffer.size) :
    (buffer.between start stop).length = stop - start := by
  simp only [size] at inside
  simp only [between, List.length_take, List.length_drop]
  omega

theorem between_empty (crossed : stop ≤ start) : buffer.between start stop = [] := by
  simp [between, Nat.sub_eq_zero_of_le crossed]

theorem between_cons (before : start < stop) (inside : stop ≤ buffer.size) :
    ∃ unit, buffer.units[start]? = some unit ∧
      buffer.between start stop = unit :: buffer.between (start + 1) stop := by
  have held : start < buffer.units.length := Nat.lt_of_lt_of_le before inside
  have count : stop - start = stop - (start + 1) + 1 := by omega
  refine ⟨buffer.units[start], List.getElem?_eq_getElem held, ?_⟩
  rw [between, List.drop_eq_getElem_cons held, count, List.take_succ_cons]
  rfl

theorem between_concat (before : start ≤ stop) (inside : stop < buffer.size) :
    ∃ unit, buffer.units[stop]? = some unit ∧
      buffer.between start (stop + 1) = buffer.between start stop ++ [unit] := by
  have held : stop < buffer.units.length := inside
  have count : stop + 1 - start = stop - start + 1 := by omega
  have place : start + (stop - start) = stop := by omega
  refine ⟨buffer.units[stop], List.getElem?_eq_getElem held, ?_⟩
  simp only [between, count, List.take_add_one, List.getElem?_drop, place,
    List.getElem?_eq_getElem held, Option.toList_some]

theorem drop_between (offset : Nat) :
    (buffer.between start stop).drop offset = buffer.between (start + offset) stop := by
  simp only [between, List.drop_take, List.drop_drop]
  congr 1
  omega

theorem take_between (offset : Nat) :
    (buffer.between start stop).take offset =
      buffer.between start (min (start + offset) stop) := by
  simp only [between, List.take_take]
  congr 1
  omega

theorem getElem?_between (offset : Nat) :
    (buffer.between start stop)[offset]? =
      if start + offset < stop then buffer.units[start + offset]? else none := by
  simp only [between, List.getElem?_take, List.getElem?_drop]
  by_cases held : start + offset < stop
  · rw [if_pos (by omega), if_pos held]
  · rw [if_neg (by omega), if_neg held]

theorem between_append {place : Nat} (low : start ≤ place) (high : place ≤ stop) :
    buffer.between start place ++ buffer.between place stop = buffer.between start stop := by
  have count : stop - start = (place - start) + (stop - place) := by omega
  have join : start + (place - start) = place := by omega
  simp only [between, count, List.take_add, List.drop_drop, join]

end Between

namespace Itemwise

variable {look : Int → Option Nat} {buffer : Buffer} {start stop : Nat}

/-- A look that finds the units of a buffer from one place on and before another, and elsewhere
anything or nothing. -/
def Shows (look : Int → Option Nat) (buffer : Buffer) (start stop : Nat) : Prop :=
  ∀ place : Nat, start ≤ place → place < stop → look place = buffer.units[place]?

theorem read_shows (buffer : Buffer) {start stop : Nat} : Shows buffer.read buffer start stop :=
  fun place _ _ => buffer.read_ofNat place

theorem Shows.within (shows : Shows look buffer start stop) {start' stop' : Nat}
    (low : start ≤ start') (high : stop' ≤ stop) : Shows look buffer start' stop' :=
  fun place from' before =>
    shows place (Nat.le_trans low from') (Nat.lt_of_lt_of_le before high)

theorem Shows.front (shows : Shows look buffer start stop) (before : start < stop) {unit : Nat}
    (held : buffer.units[start]? = some unit) : look start = some unit :=
  (shows start (Nat.le_refl _) before).trans held

theorem Shows.next (shows : Shows look buffer start stop) :
    Shows look buffer (start + 1) stop := shows.within (Nat.le_succ _) (Nat.le_refl _)

theorem findWhere?_eq (test : Nat → Bool) (shows : Shows look buffer start stop)
    (inside : stop ≤ buffer.size) :
    findWhere? look test start stop =
      some ((Scan.findWhere? test (buffer.between start stop)).map
        fun offset => ((start + offset : Nat) : Int)) := by
  have count : ((stop : Int) - start).toNat = stop - start := by omega
  rw [findWhere?, count]
  generalize gap : stop - start = left
  induction left generalizing start with
  | zero => simp [firstPlace, Scan.findWhere?, between_empty (by omega : stop ≤ start)]
  | succ left ih =>
    have before : start < stop := by omega
    obtain ⟨unit, held, front⟩ := between_cons before inside
    have rest := ih shows.next (by omega) (by omega)
    rw [front, Scan.findWhere?_cons]
    simp only [firstPlace, shows.front before held, Option.map_some, bind, Option.bind]
    by_cases passed : test unit = true
    · simp [passed]
    · simp only [passed, Bool.false_eq_true, if_false, Option.map_map]
      push_cast at rest
      rw [rest]
      congr 2
      funext offset
      simp only [Function.comp_apply]
      omega

theorem findLast?_eq (test : Nat → Bool) (shows : Shows look buffer start stop)
    (inside : stop ≤ buffer.size) :
    findLast? look test start stop =
      some ((Scan.findLast? test (buffer.between start stop)).map
        fun offset => ((start + offset : Nat) : Int)) := by
  have count : ((stop : Int) - start).toNat = stop - start := by omega
  rw [findLast?, count]
  by_cases crossed : stop ≤ start
  · simp [lastPlace, Nat.sub_eq_zero_of_le crossed, between_empty crossed, Scan.findLast?]
  obtain ⟨left, rfl⟩ := Nat.exists_eq_add_of_le (Nat.le_of_not_le crossed)
  rw [Nat.add_sub_cancel_left]
  clear count crossed
  induction left with
  | zero => simp [lastPlace, between_empty, Scan.findLast?]
  | succ left ih =>
    obtain ⟨unit, held, back⟩ := between_concat (by omega : start ≤ start + left) inside
    have place : (start : Int) + (left : Nat) = ((start + left : Nat) : Int) := by omega
    have found : look ((start + left : Nat) : Int) = some unit :=
      (shows (start + left) (Nat.le_add_right _ _) (by omega)).trans held
    rw [← Nat.add_assoc, back, Scan.findLast?_append]
    simp only [lastPlace, place, found, Option.map_some, bind, Option.bind]
    by_cases passed : test unit = true
    · simp [passed, length_between (by omega : start + left ≤ buffer.size)]
    · simpa only [passed, Bool.false_eq_true, if_false] using
        ih (shows.within (Nat.le_refl _) (by omega)) (by omega)

theorem findUnit?_eq (code : Nat) (shows : Shows look buffer start stop)
    (inside : stop ≤ buffer.size) :
    findUnit? look code start stop =
      some ((Scan.findWhere? (· == code) (buffer.between start stop)).map
        fun offset => ((start + offset : Nat) : Int)) :=
  findWhere?_eq (· == code) shows inside

theorem findLastUnit?_eq (code : Nat) (shows : Shows look buffer start stop)
    (inside : stop ≤ buffer.size) :
    findLastUnit? look code start stop =
      some ((Scan.findLast? (· == code) (buffer.between start stop)).map
        fun offset => ((start + offset : Nat) : Int)) :=
  findLast?_eq (· == code) shows inside

theorem countUnit_eq (code : Nat) (shows : Shows look buffer start stop)
    (inside : stop ≤ buffer.size) :
    countUnit look code start stop = some ((buffer.between start stop).count code) := by
  have count : ((stop : Int) - start).toNat = stop - start := by omega
  rw [countUnit, count]
  generalize gap : stop - start = left
  induction left generalizing start with
  | zero => simp [countPlaces, between_empty (by omega : stop ≤ start)]
  | succ left ih =>
    have before : start < stop := by omega
    obtain ⟨unit, held, front⟩ := between_cons before inside
    have rest := ih shows.next (by omega) (by omega)
    push_cast at rest
    simp only [countPlaces, holdsAt, shows.front before held, Option.map_some, bind, Option.bind,
      rest, pure, front, List.count_cons]
    split <;> simp_all

theorem agreesFrom_eq {needle : List Nat} (shows : Shows look buffer start stop)
    (fits : start + needle.length ≤ stop) (inside : stop ≤ buffer.size) :
    agreesFrom look needle start = some (needle.isPrefixOf (buffer.between start stop)) := by
  induction needle generalizing start with
  | nil => simp [agreesFrom]
  | cons code rest ih =>
    simp only [List.length_cons] at fits
    have before : start < stop := by omega
    obtain ⟨unit, held, front⟩ := between_cons before inside
    have later := ih shows.next (by omega)
    push_cast at later
    simp only [agreesFrom, holdsAt, shows.front before held, Option.map_some, bind, Option.bind,
      later, front, List.isPrefixOf, pure]
    by_cases same : unit = code
    · simp [same]
    · simp [same, Ne.symm same]

theorem matchesAt_eq (needle : List Nat) (shows : Shows look buffer start stop)
    (inside : stop ≤ buffer.size) :
    matchesAt look needle start stop =
      some (decide (start ≤ stop) && needle.isPrefixOf (buffer.between start stop)) := by
  by_cases short : stop < start + needle.length
  · have refused : (stop : Int) < (start : Int) + (needle.length : Int) := by omega
    rw [matchesAt, if_pos refused]
    by_cases ordered : start ≤ stop
    · have apart : needle.isPrefixOf (buffer.between start stop) = false := by
        apply Bool.eq_false_iff.mpr
        intro starts
        have bound := (List.isPrefixOf_iff_prefix.mp starts).length_le
        rw [length_between inside] at bound
        omega
      simp only [apart, Bool.and_false]
    · simp [ordered]
  · have fits : ¬ (stop : Int) < (start : Int) + (needle.length : Int) := by omega
    have ordered : start ≤ stop := by omega
    rw [matchesAt, if_neg fits, agreesFrom_eq shows (Nat.le_of_not_lt short) inside]
    simp [ordered]

theorem matchesBefore_eq (needle : List Nat) (shows : Shows look buffer start stop)
    (inside : stop ≤ buffer.size) :
    matchesBefore look needle start stop =
      some (decide (start ≤ stop) && needle.isSuffixOf (buffer.between start stop)) := by
  have size : (buffer.between start stop).length = stop - start := length_between inside
  by_cases short : stop < start + needle.length
  · have refused : (stop : Int) - (needle.length : Int) < start := by omega
    rw [matchesBefore, if_pos refused]
    by_cases ordered : start ≤ stop
    · have apart : needle.isSuffixOf (buffer.between start stop) = false := by
        apply Bool.eq_false_iff.mpr
        intro ends
        have bound := (List.isSuffixOf_iff_suffix.mp ends).length_le
        omega
      simp only [apart, Bool.and_false]
    · simp [ordered]
  · have fits : ¬ (stop : Int) - (needle.length : Int) < start := by omega
    have place : (stop : Int) - (needle.length : Int) = ((stop - needle.length : Nat) : Int) := by
      omega
    have ordered : start ≤ stop := by omega
    have back : buffer.between (stop - needle.length) stop =
        (buffer.between start stop).drop ((buffer.between start stop).length - needle.length) := by
      rw [drop_between, size]
      congr 1
      omega
    have whole : (buffer.between (stop - needle.length) stop).length = needle.length := by
      rw [length_between inside]
      omega
    have behind : Shows look buffer (stop - needle.length) stop :=
      shows.within (by omega) (Nat.le_refl _)
    rw [matchesBefore, if_neg fits, place, matchesAt_eq needle behind inside]
    congr 1
    rw [Bool.eq_iff_iff]
    simp only [Nat.sub_le, decide_true, Bool.true_and, ordered, List.isPrefixOf_iff_prefix,
      List.isSuffixOf_iff_suffix]
    rw [List.suffix_iff_eq_drop, ← back]
    constructor
    · intro starts
      exact starts.eq_of_length whole.symm
    · intro same
      exact ⟨[], by rw [List.append_nil]; exact same⟩

/-- Looking at the first unit before the rest refuses no place where the needle stands. -/
theorem candidate_eq (first : Nat) (rest : List Nat) (shows : Shows look buffer start stop)
    (before : start < stop) (inside : stop ≤ buffer.size) :
    ((holdsAt look first start).bind fun passed =>
      if passed then matchesAt look (first :: rest) start stop else some false) =
      some ((first :: rest).isPrefixOf (buffer.between start stop)) := by
  obtain ⟨unit, held, front⟩ := between_cons before inside
  simp only [holdsAt, shows.front before held, Option.map_some, Option.bind_some]
  by_cases same : unit = first
  · simp only [same, beq_self_eq_true, if_true, matchesAt_eq (first :: rest) shows inside]
    simp [Nat.le_of_lt before]
  · simp [front, List.isPrefixOf, same, Ne.symm same]

theorem find?_eq (needle : List Nat) (shows : Shows look buffer start stop)
    (inside : stop ≤ buffer.size) :
    find? look needle start stop =
      some (if start ≤ stop then
        (Scan.find? needle (buffer.between start stop)).map
          fun offset => ((start + offset : Nat) : Int)
      else none) := by
  cases needle with
  | nil =>
    by_cases ordered : start ≤ stop
    · simp [find?, ordered, Scan.find?_nil_left]
    · simp [find?, ordered]
  | cons first rest =>
    have count : ((stop : Int) - (rest.length : Int) - start).toNat =
        stop - start - rest.length := by omega
    rw [find?, count]
    generalize gap : stop - start - rest.length = left
    -- Places too near the end for the needle are not tried; the scan finds nothing there.
    induction left generalizing start with
    | zero =>
      have short : (buffer.between start stop).length < (first :: rest).length := by
        rw [length_between inside, List.length_cons]
        omega
      simp [firstPlace, Scan.find?_short short]
    | succ left ih =>
      have before : start < stop := by omega
      have tried := candidate_eq first rest shows before inside
      have later := ih shows.next (by omega) (by omega)
      obtain ⟨unit, -, front⟩ := between_cons before inside
      push_cast at later
      rw [if_pos (by omega)] at later
      simp only [bind, pure] at later ⊢
      rw [firstPlace, tried, if_pos (by omega), front, Scan.find?_cons]
      simp only [bind, Option.bind_some, later, pure]
      split
      · simp
      · simp only [Option.map_map]
        congr 2
        funext offset
        simp only [Function.comp_apply]
        omega

end Itemwise

section Choice

variable {buffer : Buffer} {start stop : Nat}

theorem find?_eq (needle : List Nat) (inside : stop ≤ buffer.size) :
    buffer.find? needle start stop =
      some (if start ≤ stop then
        (Scan.find? needle (buffer.between start stop)).map
          fun offset => ((start + offset : Nat) : Int)
      else none) := by
  rw [find?]
  split
  · rw [startOf_ofNat, stopOf_ofNat inside, Stretch.find?]
    split
    · rw [Option.map_map]
      rfl
    · rfl
  · exact Itemwise.find?_eq needle (Itemwise.read_shows buffer) inside

theorem findUnit?_eq (code : Nat) (inside : stop ≤ buffer.size) :
    buffer.findUnit? code start stop =
      some ((Scan.findWhere? (· == code) (buffer.between start stop)).map
        fun offset => ((start + offset : Nat) : Int)) := by
  rw [findUnit?]
  split
  · rw [startOf_ofNat, stopOf_ofNat inside, Stretch.findUnit?, Option.map_map]
    rfl
  · exact Itemwise.findUnit?_eq code (Itemwise.read_shows buffer) inside

theorem findLastUnit?_eq (code : Nat) (inside : stop ≤ buffer.size) :
    buffer.findLastUnit? code start stop =
      some ((Scan.findLast? (· == code) (buffer.between start stop)).map
        fun offset => ((start + offset : Nat) : Int)) := by
  rw [findLastUnit?]
  split
  · rw [startOf_ofNat, stopOf_ofNat inside, Stretch.findLastUnit?, Option.map_map]
    rfl
  · exact Itemwise.findLastUnit?_eq code (Itemwise.read_shows buffer) inside

theorem countUnit_eq (code : Nat) (inside : stop ≤ buffer.size) :
    buffer.countUnit code start stop = some ((buffer.between start stop).count code) := by
  rw [countUnit]
  split
  · rw [startOf_ofNat, stopOf_ofNat inside, Stretch.countUnit]
  · exact Itemwise.countUnit_eq code (Itemwise.read_shows buffer) inside

theorem matchesAt_eq (needle : List Nat) (inside : stop ≤ buffer.size) :
    buffer.matchesAt needle start stop =
      some (decide (start ≤ stop) && needle.isPrefixOf (buffer.between start stop)) := by
  rw [matchesAt]
  split
  · rw [startOf_ofNat, stopOf_ofNat inside, Stretch.matchesAt]
  · exact Itemwise.matchesAt_eq needle (Itemwise.read_shows buffer) inside

theorem matchesBefore_eq (needle : List Nat) (inside : stop ≤ buffer.size) :
    buffer.matchesBefore needle start stop =
      some (decide (start ≤ stop) && needle.isSuffixOf (buffer.between start stop)) := by
  rw [matchesBefore]
  split
  · rw [startOf_ofNat, stopOf_ofNat inside, Stretch.matchesBefore]
  · exact Itemwise.matchesBefore_eq needle (Itemwise.read_shows buffer) inside

theorem runEndFrom_eq {needle : List Nat} (nonempty : needle ≠ []) {tries : Nat}
    (ordered : start ≤ stop) (inside : stop ≤ buffer.size) (enough : stop - start < tries) :
    buffer.runEndFrom needle stop tries start =
      some ((start + Scan.runLength needle (buffer.between start stop) : Nat) : Int) := by
  induction tries generalizing start with
  | zero => omega
  | succ tries ih =>
    have some := List.length_pos_iff.mpr nonempty
    simp only [runEndFrom, matchesAt_eq needle inside, ordered, decide_true, Bool.true_and,
      bind, Option.bind_some, pure]
    by_cases starts : needle <+: buffer.between start stop
    · have bound := starts.length_le
      rw [length_between inside] at bound
      have later := @ih (start + needle.length) (by omega) (by omega)
      push_cast at later
      rw [if_pos (List.isPrefixOf_iff_prefix.mpr starts), later,
        Scan.runLength_step nonempty starts, drop_between]
      congr 1
      omega
    · rw [if_neg fun passed => starts (List.isPrefixOf_iff_prefix.mp passed),
        Scan.runLength_stop starts]
      simp

theorem runEnd_eq (needle : List Nat) (ordered : start ≤ stop) (inside : stop ≤ buffer.size) :
    buffer.runEnd needle start stop =
      some ((start + Scan.runLength needle (buffer.between start stop) : Nat) : Int) := by
  rw [runEnd]
  split
  · rename_i empty
    rw [List.isEmpty_iff.mp empty, Scan.runLength_nil]
    rfl
  · rename_i nonempty
    have enough : stop - start < ((buffer.size : Int) - start).toNat.succ := by omega
    exact runEndFrom_eq (fun same => nonempty (by simp [same])) ordered inside enough

end Choice

section Equality

variable {first second : Buffer} {start start' : Nat}

theorem agreesWith_eq {alike : Bool} {look look' : Int → Option Nat} {count : Nat}
    (shows : Itemwise.Shows look first start (start + count))
    (shows' : Itemwise.Shows look' second start' (start' + count))
    (inside : start + count ≤ first.size) (inside' : start' + count ≤ second.size) :
    Itemwise.agreesWith alike look look' count start start' =
      some (decide (count = 0) || decide (alike = true ∧
        first.between start (start + count) = second.between start' (start' + count))) := by
  induction count generalizing start start' with
  | zero => simp [Itemwise.agreesWith]
  | succ count ih =>
    have before : start < start + (count + 1) := by omega
    have before' : start' < start' + (count + 1) := by omega
    obtain ⟨unit, held, front⟩ := between_cons before inside
    obtain ⟨unit', held', front'⟩ := between_cons before' inside'
    have later := @ih (start + 1) (start' + 1) (shows.within (by omega) (by omega))
      (shows'.within (by omega) (by omega)) (by omega) (by omega)
    push_cast at later
    rw [Nat.add_right_comm, Nat.add_assoc, Nat.add_right_comm start', Nat.add_assoc] at later
    simp only [Itemwise.agreesWith, shows.front before held, shows'.front before' held', bind,
      Option.bind_some, pure, front, front']
    by_cases same : alike = true ∧ unit = unit'
    · rw [if_pos same, later]
      obtain ⟨sort, rfl⟩ := same
      cases count with
      | zero => simp [sort, between_empty]
      | succ count => simp [sort, Nat.add_assoc]
    · rw [if_neg same]
      simp only [Nat.add_one_ne_zero, decide_false, Bool.false_or, List.cons.injEq]
      have apart : ¬ (alike = true ∧ unit = unit' ∧
          first.between (start + 1) (start + (count + 1)) =
            second.between (start' + 1) (start' + (count + 1))) :=
        fun agree => same ⟨agree.1, agree.2.1⟩
      rw [decide_eq_false apart]

/-- Two stretches are equal if they hold the same units of one kind; none are held by two
empty ones. -/
theorem equalBetween_eq {stop stop' : Nat} (ordered : start ≤ stop) (inside : stop ≤ first.size)
    (ordered' : start' ≤ stop') (inside' : stop' ≤ second.size) :
    first.equalBetween start stop second start' stop' =
      some (decide (first.between start stop = second.between start' stop' ∧
        (first.unit.isText = second.unit.isText ∨ start = stop))) := by
  have size : (first.between start stop).length = stop - start := length_between inside
  have size' : (second.between start' stop').length = stop' - start' := length_between inside'
  rw [equalBetween]
  by_cases lengths : stop - start = stop' - start'
  · have same : ¬ (stop : Int) - start ≠ (stop' : Int) - start' := by omega
    rw [if_neg same]
    split
    · rename_i contiguous
      obtain ⟨-, sort⟩ := Bool.and_eq_true_iff.mp contiguous
      have kind : first.unit.isText = second.unit.isText := Backing.isText_of_sameSort sort
      rw [startOf_ofNat, stopOf_ofNat inside, startOf_ofNat, stopOf_ofNat inside', Stretch.equal]
      congr 1
      rw [Bool.eq_iff_iff]
      simp only [ordered, decide_true, Bool.true_and, List.isPrefixOf_iff_prefix,
        decide_eq_true_eq, kind, true_or, and_true]
      constructor
      · intro starts
        exact (starts.eq_of_length (by omega)).symm
      · intro agree
        exact ⟨[], by rw [List.append_nil, agree]⟩
    · have count : ((stop : Int) - start).toNat = stop - start := by omega
      have agree : Itemwise.agreesWith (first.unit.isText == second.unit.isText) first.read
          second.read (stop - start) start start' = some _ :=
        agreesWith_eq (Itemwise.read_shows first) (Itemwise.read_shows second) (by omega) (by omega)
      rw [count, agree, Nat.add_sub_cancel' ordered, lengths, Nat.add_sub_cancel' ordered']
      congr 1
      rw [Bool.eq_iff_iff]
      simp only [Bool.or_eq_true, decide_eq_true_eq, beq_iff_eq]
      constructor
      · rintro (empty | ⟨kind, agree⟩)
        · rw [between_empty (by omega : stop ≤ start), between_empty (by omega : stop' ≤ start')]
          exact ⟨rfl, .inr (by omega)⟩
        · exact ⟨agree, .inl kind⟩
      · rintro ⟨agree, kind | empty⟩
        · exact .inr ⟨kind, agree⟩
        · exact .inl (by omega)
  · have different : (stop : Int) - start ≠ (stop' : Int) - start' := by omega
    have apart : ¬ (first.between start stop = second.between start' stop' ∧
        (first.unit.isText = second.unit.isText ∨ start = stop)) := by
      intro agree
      rw [agree.1] at size
      omega
    rw [if_pos different, decide_eq_false apart]

end Equality

end TextScan.Buffer
