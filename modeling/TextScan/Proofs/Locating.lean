import Mathlib.Data.List.Induction
import Mathlib.Data.Prod.Lex
import TextScan.Proofs.Partition
import TextScan.Proofs.Splitting

/-! Locating: the line and the column of a window are what is left of the first place of its buffer
when it is moved past the units before the window one by one. So a place moves with what is taken,
and of two windows on one buffer the place that comes first in reading order starts first. -/

namespace TextScan

open Scan

namespace Location

/-- The unit that ends a line. -/
def lineFeed : Nat := 10

/-- The place of the first unit of a buffer. -/
def first : Location := ⟨1, 1, 0⟩

/-- The place behind a unit: the first one of the next line, or the next one of the same line. -/
def past (place : Location) (code : Nat) : Location :=
  if code = lineFeed then ⟨place.line + 1, 1, place.offset + 1⟩
  else ⟨place.line, place.column + 1, place.offset + 1⟩

/-- The place behind some units. -/
def through (place : Location) (units : List Nat) : Location := units.foldl past place

/-- Line and column, in reading order. -/
def key (place : Location) : Nat ×ₗ Nat := toLex (place.line, place.column)

variable {place : Location} {code : Nat} {units : List Nat}

theorem through_append (place : Location) (units later : List Nat) :
    place.through (units ++ later) = (place.through units).through later := List.foldl_append

theorem past_feed (place : Location) :
    place.past lineFeed = ⟨place.line + 1, 1, place.offset + 1⟩ := if_pos rfl

theorem past_other (place : Location) (other : code ≠ lineFeed) :
    place.past code = ⟨place.line, place.column + 1, place.offset + 1⟩ := if_neg other

theorem line_through (place : Location) (free : lineFeed ∉ units) :
    (place.through units).line = place.line := by
  induction units generalizing place with
  | nil => rfl
  | cons code rest ih =>
    rw [List.mem_cons, not_or] at free
    have same : (place.past code).line = place.line := by rw [past_other place (Ne.symm free.1)]
    exact (ih (place.past code) free.2).trans same

/-- Lines are counted by their line feeds, columns from the last of them or from before the first
unit. -/
theorem first_through (units : List Nat) :
    first.through units = ⟨units.count lineFeed + 1,
      (units.length - ((findLast? (· == lineFeed) units).map Int.ofNat).getD (-1)).toNat,
      units.length⟩ := by
  induction units using List.reverseRecOn with
  | nil => rfl
  | append_singleton units code ih =>
    rw [through_append, ih, findLast?_append, List.count_append, List.length_append,
      List.length_singleton]
    by_cases feed : code = lineFeed
    · subst feed
      have column : (((units.length + 1 : Nat) : Int) - (Int.ofNat units.length)).toNat = 1 := by
        rw [Int.ofNat_eq_natCast]
        omega
      rw [if_pos (beq_self_eq_true lineFeed), Option.map_some, Option.getD_some, column,
        List.count_singleton_self]
      exact past_feed _
    · have other : List.count lineFeed [code] = 0 :=
        List.count_eq_zero.mpr fun member => feed (List.mem_singleton.mp member).symm
      rw [if_neg (by simpa using feed), other]
      refine (past_other _ feed).trans ?_
      congr 1
      cases last : findLast? (· == lineFeed) units with
      | none =>
        simp only [Option.map_none, Option.getD_none]
        omega
      | some offset =>
        have inside := findLast?_lt last
        simp only [Option.map_some, Option.getD_some, Int.ofNat_eq_natCast]
        omega

/-- Every unit leads on in reading order: to a later line, or to a later column. -/
theorem key_past (place : Location) (code : Nat) : place.key < (place.past code).key := by
  unfold key past
  rw [Prod.Lex.toLex_lt_toLex]
  split
  · exact .inl (Nat.lt_succ_self _)
  · exact .inr ⟨rfl, Nat.lt_succ_self _⟩

theorem key_through (place : Location) (some : units ≠ []) :
    place.key < (place.through units).key := by
  induction units generalizing place with
  | nil => exact absurd rfl some
  | cons code rest ih =>
    have next := key_past place code
    by_cases none : rest = []
    · rw [none]
      exact next
    · exact next.trans (ih (place.past code) none)

end Location

theorem CharUnit.char_lineFeed (unit : CharUnit) :
    unit.char (.text (Text.ofString "\n")) = .ok Location.lineFeed := by
  cases unit <;> decide

namespace Stream

variable {stream other view : Stream}

/-- The place behind all that stands before the window in its buffer. -/
def place (stream : Stream) : Location :=
  Location.first.through (stream.buffer.between 0 stream.start)

def LocatedAt (stream : Stream) (place : Location) : Prop :=
  ∀ environment file, stream.perform environment (.location file) =
    .ok (.value (.ofLocation place stream.startForm file), stream)

theorem Valid.location?_eq (valid : stream.Valid) : stream.location? = some stream.place := by
  have inside : stream.start ≤ stream.buffer.size :=
    Nat.le_trans valid.start_le_stop valid.stop_le_size
  have length : (stream.buffer.between 0 stream.start).length = stream.start :=
    Buffer.length_between inside
  have counted : stream.buffer.countUnit 10 0 stream.start =
      some ((stream.buffer.between 0 stream.start).count Location.lineFeed) :=
    Buffer.countUnit_eq Location.lineFeed inside
  have last : stream.buffer.findLastUnit? 10 0 stream.start =
      some ((Scan.findLast? (· == Location.lineFeed) (stream.buffer.between 0 stream.start)).map
        fun offset => ((0 + offset : Nat) : Int)) :=
    Buffer.findLastUnit?_eq Location.lineFeed inside
  rw [location?, counted, last, place, Location.first_through, length]
  simp only [Nat.zero_add]
  rfl

theorem Valid.located (valid : stream.Valid) : stream.LocatedAt stream.place := by
  intro environment file
  rw [perform, valid.location?_eq]
  rfl

/-- What starts later on the same buffer is behind the units between. -/
theorem place_later (same : view.buffer = stream.buffer) (later : stream.start ≤ view.start) :
    view.place = stream.place.through (stream.buffer.between stream.start view.start) := by
  rw [place, place, ← Location.through_append, same,
    Buffer.between_append (Nat.zero_le _) later]

theorem place_before (valid : other.Valid) (same : stream.buffer = other.buffer)
    (before : stream.start < other.start) : stream.place.key < other.place.key := by
  have inside : other.start ≤ stream.buffer.size :=
    same ▸ Nat.le_trans valid.start_le_stop valid.stop_le_size
  rw [place_later same.symm (Nat.le_of_lt before)]
  apply Location.key_through
  intro none
  have length : (stream.buffer.between stream.start other.start).length = _ :=
    Buffer.length_between inside
  rw [none, List.length_nil] at length
  omega

/-- On one buffer the line and the column are in the order of the starts, and tell them apart. -/
theorem Valid.place_order (valid : stream.Valid) (valid' : other.Valid)
    (same : other.buffer = stream.buffer) :
    (stream.start < other.start ↔ stream.place.key < other.place.key) ∧
      (stream.start = other.start ↔ stream.place.key = other.place.key) := by
  have onward := place_before valid' same.symm
  have backward := place_before valid same
  have equal (starts : stream.start = other.start) : stream.place = other.place := by
    rw [place, place, same, starts]
  rcases Nat.lt_trichotomy stream.start other.start with before | starts | behind
  · have less := onward before
    exact ⟨iff_of_true before less, iff_of_false (Nat.ne_of_lt before) less.ne⟩
  · have keys := congrArg Location.key (equal starts)
    exact ⟨iff_of_false (Nat.not_lt.mpr (Nat.le_of_eq starts.symm)) keys.not_lt,
      iff_of_true starts keys⟩
  · have less := backward behind
    exact ⟨iff_of_false (Nat.lt_asymm behind) less.asymm,
      iff_of_false (Nat.ne_of_gt behind) less.ne'⟩

/-- Behind each line feed a line starts: the lines of the front of a buffer are numbered in order
and start in the first column. -/
theorem Split.place_line {views : List Stream} (split : stream.Split [Location.lineFeed] views)
    (front : stream.start = 0) (line : Nat) (there : views[line]? = some view) :
    view.place.line = line + 1 ∧ view.place.column = 1 := by
  induction line generalizing view with
  | zero =>
    obtain ⟨head, found, start⟩ := split.head
    rw [List.head?_eq_getElem?, there] at found
    cases found
    rw [place, start, front, Buffer.between_empty (Nat.le_refl 0)]
    exact ⟨rfl, rfl⟩
  | succ line ih =>
    have short := Nat.lt_of_succ_lt (List.getElem?_eq_some_iff.mp there).1
    have here := List.getElem?_eq_getElem short
    obtain ⟨lines, -⟩ := ih here
    obtain ⟨start, separator, -⟩ := split.next line _ view here there
    obtain ⟨own, -, ordered, -⟩ := split.inside _ (List.mem_of_getElem? here)
    obtain ⟨own', -⟩ := split.inside _ (List.mem_of_getElem? there)
    generalize views[line] = before at *
    have free : Location.lineFeed ∉ before.content := by
      intro member
      obtain ⟨left, right, joined⟩ := List.append_of_mem member
      refine split.free before (List.mem_of_getElem? here) ⟨left, right, ?_⟩
      rw [joined, List.append_assoc, List.singleton_append]
    have onward : before.start ≤ view.start := by
      rw [start]
      omega
    have passed : view.place =
        ((before.place.through before.content)).past Location.lineFeed := by
      rw [place_later (own'.trans own.symm) onward, content_eq_between,
        ← Buffer.between_append ordered (by rw [start]; omega), own, separator,
        Location.through_append]
      rfl
    rw [passed, Location.past_feed]
    exact ⟨congrArg Nat.succ ((Location.line_through _ free).trans lines), rfl⟩

/-- Where a stream is follows from what stands before it: the first line and column of its buffer,
moved past each of those units. So what is taken moves the place past just that, the windows that
are given are located where they start, on one buffer the places in reading order are in the order
of the starts, and the lines of the front of a buffer start in the first column of their line. -/
theorem Valid.location_follows (valid : stream.Valid) :
    stream.unit.char (.text (Text.ofString "\n")) = .ok Location.lineFeed ∧
    stream.LocatedAt (Location.first.through (stream.buffer.between 0 stream.start)) ∧
    (∀ (environment : Environment) (request : Request),
      let report := stream.report environment request
      report.rest.LocatedAt (stream.place.through report.units) ∧
        ∀ view ∈ report.windows,
          view.LocatedAt (stream.place.through (stream.buffer.between stream.start view.start))) ∧
    (∀ other : Stream, other.Valid → other.buffer = stream.buffer →
      (stream.start < other.start ↔ stream.place.key < other.place.key) ∧
        (stream.start = other.start ↔ stream.place.key = other.place.key)) ∧
    (stream.start = 0 → stream.start < stream.stop → ∀ environment : Environment, ∃ lines : Lines,
      stream.perform environment (.lines (.text (Text.ofString "\n"))) =
          .ok (.value (.lines lines), stream) ∧
        ∀ line view, lines.toList[line]? = some view →
          view.LocatedAt view.place ∧ view.place.line = line + 1 ∧ view.place.column = 1) := by
  refine ⟨stream.unit.char_lineFeed, valid.located, ?_, ?_, ?_⟩
  · intro environment request report
    have inside (window : Stream) (member : window ∈ report.rest :: report.windows) :
        window.LocatedAt
          (stream.place.through (stream.buffer.between stream.start window.start)) := by
      obtain ⟨span, on⟩ := valid.report_on environment request window member
      rw [← place_later on.buffer (on.start ▸ Nat.le_add_right _ _)]
      exact (on.valid valid).located
    exact ⟨inside _ List.mem_cons_self, fun view member => inside view (.tail _ member)⟩
  · intro other valid' same
    exact valid.place_order valid' same
  · intro front some environment
    have read : stream.unit.text (.text (Text.ofString "\n")) = .ok [Location.lineFeed] := by
      cases stream.unit <;> decide
    refine ⟨⟨stream, [Location.lineFeed], stream.unit.forms (.text (Text.ofString "\n"))⟩, ?_, ?_⟩
    · change stream.coerce (stream.unit.text (.text (Text.ofString "\n"))) >>= _ = _
      rw [stream.coerce_ok read]
      rfl
    · intro line view there
      have held : ¬stream.isEmpty = true := fun empty => Nat.ne_of_lt some (beq_iff_eq.mp empty)
      have cut : stream.Split [Location.lineFeed] _ :=
        (valid.parts (List.cons_ne_nil _ _)).split valid (List.cons_ne_nil _ _)
      obtain ⟨span, on⟩ := valid.line_on (List.mem_of_getElem? there)
      rw [Lines.toList, if_neg held] at there
      exact ⟨(on.valid valid).located, cut.place_line front line there⟩

/-- In three lines of which the second has two units, the second of these is in the second column.
What is taken up to the end of the first line leaves the stream behind it, and the third line starts
in the first column. -/
theorem location_follows_lines :
    let whole := ofBuffer (.ofBytes [97, 10, 98, 99, 10, 100])
    let inner := whole.onFrom 3
    let request := Request.perform (.takeTo ⟨false, false, false⟩ (.bytes [10]))
    let report := whole.report ⟨Config.default, "linux"⟩ request
    whole.Valid ∧ inner.Valid ∧ inner.LocatedAt ⟨2, 2, 3⟩ ∧
      report.rest.LocatedAt ⟨1, 2, 1⟩ ∧ (whole.upTo 1).LocatedAt ⟨1, 1, 0⟩ ∧
      (whole.start < inner.start ∧ whole.place.key < inner.place.key) ∧
      (whole.onFrom 5).LocatedAt ⟨3, 1, 5⟩ := by
  have valid := ofBuffer_valid (.ofBytes [97, 10, 98, 99, 10, 100])
  have valid' : ((ofBuffer (.ofBytes [97, 10, 98, 99, 10, 100])).onFrom 3).Valid :=
    ⟨by decide, by decide⟩
  obtain ⟨-, -, follows, ordered, lines⟩ := valid.location_follows
  obtain ⟨left, given⟩ := follows ⟨Config.default, "linux"⟩
    (.perform (.takeTo ⟨false, false, false⟩ (.bytes [10])))
  obtain ⟨cut, performed, located⟩ := lines rfl (by decide) ⟨Config.default, "linux"⟩
  cases performed
  have before : (ofBuffer (.ofBytes [97, 10, 98, 99, 10, 100])).start <
      ((ofBuffer (.ofBytes [97, 10, 98, 99, 10, 100])).onFrom 3).start := by decide
  exact ⟨valid, valid', valid'.location_follows.2.1, left, given _ List.mem_cons_self,
    ⟨before, (ordered _ valid' rfl).1.mp before⟩, (located 2 _ rfl).1⟩

end Stream

end TextScan
