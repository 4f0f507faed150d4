import Mathlib.Data.List.Infix
import TextScan.CharUnit.Encoding

/-! How the units of a text tell its code points apart. What spells a code point is read back
from the front of whatever it stands before, and no unit after the first of a spelling can be
a first one. So one text stands in the units of another where its code points do, and nowhere
else. -/

namespace TextScan

/-- A text that has an encoding in every unit. -/
def Text.Plain (text : Text) : Prop := ∀ point ∈ text, point.isSurrogate = false

namespace Text

variable {first second text : Text}

theorem plain_iff : text.Plain ↔ text.hasSurrogate = false := by
  simp [Plain, hasSurrogate]

theorem Plain.of_subset (plain : second.Plain) (subset : first ⊆ second) : first.Plain :=
  fun point member => plain point (subset member)

theorem Plain.take (plain : text.Plain) (count : Nat) : Text.Plain (text.take count) :=
  plain.of_subset (List.take_subset count text)

theorem Plain.drop (plain : text.Plain) (count : Nat) : Text.Plain (text.drop count) :=
  plain.of_subset (List.drop_subset count text)

theorem Plain.head {point : CodePoint} (plain : Plain (point :: text)) :
    point.isSurrogate = false := plain point List.mem_cons_self

theorem Plain.tail {point : CodePoint} (plain : Plain (point :: text)) : Plain text :=
  fun other member => plain other (List.mem_cons_of_mem point member)

@[simp] theorem codes_nil : codes [] = [] := rfl

theorem codes_cons (point : CodePoint) (text : Text) :
    codes (point :: text) = point.val :: codes text := rfl

theorem codes_concat (text : Text) (point : CodePoint) :
    codes (text ++ [point]) = codes text ++ [point.val] := List.map_append

theorem codes_eq_nil : text.codes = [] ↔ text = [] := List.map_eq_nil_iff

theorem codes_drop (text : Text) (count : Nat) :
    codes (text.drop count) = text.codes.drop count := List.map_drop

theorem codes_front : first.codes <+: second.codes ↔ first <+: second :=
  List.prefix_map_iff_of_injective fun _ _ => Fin.ext

theorem codes_back : first.codes <:+ second.codes ↔ first <:+ second :=
  List.suffix_map_iff_of_injective fun _ _ => Fin.ext

end Text

/-- One continuation of UTF-8 is read onto the leading bits, which is the end of a code point
where no more is owed. -/
theorem readUtf8_continuation (pending bits low : Nat) (rest : List Nat) :
    readUtf8 (pending + 1) bits ((0x80 + low % 0x40) :: rest) =
      if pending = 0 then (readUtf8 0 0 rest).map ((bits * 0x40 + low % 0x40) :: ·)
      else readUtf8 pending (bits * 0x40 + low % 0x40) rest := by
  have small : 0x80 ≤ 0x80 + low % 0x40 ∧ 0x80 + low % 0x40 < 0xC0 := by omega
  have bits' : 0x80 + low % 0x40 - 0x80 = low % 0x40 := by omega
  rw [readUtf8, if_pos small, bits']

/-- What spells a code point in UTF-8 is read back before anything. -/
theorem readUtf8_utf8 {code : Nat} (reach : code < 0x110000) (rest : List Nat) :
    readUtf8 0 0 (utf8 code ++ rest) = (readUtf8 0 0 rest).map (code :: ·) := by
  unfold utf8
  split
  · rename_i one
    rw [List.singleton_append, readUtf8, if_pos one]
  · split
    · have whole : code / 0x40 * 0x40 + code % 0x40 = code := by omega
      rw [List.cons_append, readUtf8, if_neg (by omega), if_neg (by omega), if_pos (by omega),
        Nat.add_sub_cancel_left, List.cons_append, readUtf8_continuation, if_pos rfl, whole,
        List.nil_append]
    · split
      · have whole : (code / 0x1000 * 0x40 + code / 0x40 % 0x40) * 0x40 + code % 0x40 = code := by
          omega
        rw [List.cons_append, readUtf8, if_neg (by omega), if_neg (by omega), if_neg (by omega),
          if_pos (by omega), Nat.add_sub_cancel_left, List.cons_append, readUtf8_continuation,
          if_neg (by decide), List.cons_append, readUtf8_continuation, if_pos rfl, whole,
          List.nil_append]
      · have whole : ((code / 0x40000 * 0x40 + code / 0x1000 % 0x40) * 0x40 +
            code / 0x40 % 0x40) * 0x40 + code % 0x40 = code := by omega
        rw [List.cons_append, readUtf8, if_neg (by omega), if_neg (by omega), if_neg (by omega),
          if_neg (by omega), if_pos (by omega), Nat.add_sub_cancel_left, List.cons_append,
          readUtf8_continuation, if_neg (by decide), List.cons_append, readUtf8_continuation,
          if_neg (by decide), List.cons_append, readUtf8_continuation, if_pos rfl, whole,
          List.nil_append]

theorem readUtf16_utf16 {code : Nat} (reach : code < 0x110000)
    (plain : code < 0xD800 ∨ 0xDFFF < code) (rest : List Nat) :
    readUtf16 none (utf16 code ++ rest) = (readUtf16 none rest).map (code :: ·) := by
  unfold utf16
  split
  · rw [List.singleton_append, readUtf16, if_pos plain]
  · have whole : 0x10000 + (0xD800 + (code - 0x10000) / 0x400 - 0xD800) * 0x400 +
        (0xDC00 + (code - 0x10000) % 0x400 - 0xDC00) = code := by omega
    rw [List.cons_append, readUtf16, if_neg (by omega), if_pos (by omega), List.cons_append,
      readUtf16, if_pos (by omega), whole, List.nil_append]

namespace CharUnit

variable {unit : CharUnit} {first second text : Text}

@[simp] theorem encode_nil (unit : CharUnit) : unit.encode [] = [] := rfl

theorem encode_cons (unit : CharUnit) (point : CodePoint) (text : Text) :
    unit.encode (point :: text) = unit.spell point ++ unit.encode text := rfl

theorem encode_concat (unit : CharUnit) (text : Text) (point : CodePoint) :
    unit.encode (text ++ [point]) = unit.encode text ++ unit.spell point := by
  rw [encode_append, encode_cons]
  exact congrArg _ (List.append_nil _)

section Reading

theorem surrogate_free {point : CodePoint} (plain : point.isSurrogate = false) :
    point.val < 0xD800 ∨ 0xDFFF < point.val := by
  have apart : ¬ (0xD800 ≤ point.val ∧ point.val ≤ 0xDFFF) := by
    simpa [CodePoint.isSurrogate] using plain
  omega

theorem decode?_spell (unit : CharUnit) {point : CodePoint} (plain : point.isSurrogate = false)
    (rest : List Nat) :
    unit.decode? (unit.spell point ++ rest) = (unit.decode? rest).map (point :: ·) := by
  have own : CodePoint.ofNat point.val = point := Fin.ext (CodePoint.val_ofNat point.isLt)
  have reads (read : Option (List Nat)) :
      (read.map (point.val :: ·)).map Text.ofCodes = (read.map Text.ofCodes).map (point :: ·) := by
    cases read with
    | none => rfl
    | some codes => simp [Text.ofCodes, own]
  cases unit with
  | wide => exact reads (some rest)
  | utf32 => exact reads (some rest)
  | narrow =>
    unfold decode?
    dsimp only [spell]
    rw [readUtf8_utf8 point.isLt]
    exact reads _
  | utf16 =>
    unfold decode?
    dsimp only [spell]
    rw [readUtf16_utf16 point.isLt (surrogate_free plain)]
    exact reads _

theorem decode?_encode_append (unit : CharUnit) (plain : text.Plain) (rest : List Nat) :
    unit.decode? (unit.encode text ++ rest) = (unit.decode? rest).map (text ++ ·) := by
  induction text with
  | nil => simp [encode]
  | cons point text ih =>
    rw [encode_cons, List.append_assoc, decode?_spell unit plain.head, ih plain.tail,
      Option.map_map]
    rfl

theorem decode?_encode (unit : CharUnit) (plain : text.Plain) :
    unit.decode? (unit.encode text) = some text := by
  have read := decode?_encode_append unit plain []
  rw [List.append_nil] at read
  have empty : unit.decode? [] = some [] := by cases unit <;> rfl
  rw [read, empty, Option.map_some, List.append_nil]

theorem encode_injective (plain : first.Plain) (plain' : second.Plain)
    (same : unit.encode first = unit.encode second) : first = second := by
  have read := decode?_encode unit plain
  rw [same, decode?_encode unit plain'] at read
  exact (Option.some.inj read).symm

/-- A text stands at the front of another in any unit if it does in code points. -/
theorem encode_front (plain : first.Plain) (plain' : second.Plain) :
    unit.encode first <+: unit.encode second ↔ first <+: second := by
  constructor
  · rintro ⟨rest, joined⟩
    have read := decode?_encode_append unit plain rest
    rw [joined, decode?_encode unit plain'] at read
    obtain ⟨behind, -, whole⟩ := Option.map_eq_some_iff.mp read.symm
    exact ⟨behind, whole⟩
  · rintro ⟨behind, rfl⟩
    rw [encode_append]
    exact List.prefix_append _ _

end Reading

section Leading

/-- Whether a unit can only stand behind the first unit of a code point. -/
def follows : CharUnit → Nat → Bool
  | narrow, code => decide (0x80 ≤ code ∧ code < 0xC0)
  | utf16, code => decide (0xDC00 ≤ code ∧ code ≤ 0xDFFF)
  | _, _ => false

theorem follows_continuation (low : Nat) : narrow.follows (0x80 + low % 0x40) = true := by
  simp only [follows, decide_eq_true_eq]
  omega

/-- What spells a code point: a first unit, and units that can only stand behind one. -/
theorem spell_eq_cons (unit : CharUnit) {point : CodePoint} (plain : point.isSurrogate = false) :
    ∃ lead tail, unit.spell point = lead :: tail ∧ unit.follows lead = false ∧
      ∀ code ∈ tail, unit.follows code = true := by
  have apart := surrogate_free plain
  have reach := point.isLt
  cases unit with
  | wide => exact ⟨_, [], rfl, rfl, List.forall_mem_nil _⟩
  | utf32 => exact ⟨_, [], rfl, rfl, List.forall_mem_nil _⟩
  | narrow =>
    have leads {lead : Nat} (outside : lead < 0x80 ∨ 0xC0 ≤ lead) :
        narrow.follows lead = false := by
      simp only [follows, decide_eq_false_iff_not]
      omega
    simp only [spell, TextScan.utf8]
    split
    · exact ⟨_, [], rfl, leads (by omega), List.forall_mem_nil _⟩
    · split
      · exact ⟨_, _, rfl, leads (by omega), by simp [follows_continuation]⟩
      · split
        · exact ⟨_, _, rfl, leads (by omega), by simp [follows_continuation]⟩
        · exact ⟨_, _, rfl, leads (by omega), by simp [follows_continuation]⟩
  | utf16 =>
    have leads {lead : Nat} (outside : lead < 0xDC00 ∨ 0xDFFF < lead) :
        utf16.follows lead = false := by
      simp only [follows, decide_eq_false_iff_not]
      omega
    simp only [spell, TextScan.utf16]
    split
    · exact ⟨_, [], rfl, leads (by omega), List.forall_mem_nil _⟩
    · refine ⟨_, _, rfl, leads (by omega), ?_⟩
      simp only [follows, List.mem_singleton, forall_eq, decide_eq_true_eq]
      omega

theorem spell_eq_concat (unit : CharUnit) {point : CodePoint}
    (plain : point.isSurrogate = false) : ∃ front code, unit.spell point = front ++ [code] := by
  obtain ⟨lead, tail, spelled, -⟩ := spell_eq_cons unit plain
  rcases List.eq_nil_or_concat (unit.spell point) with none | ⟨front, code, joined⟩
  · rw [spelled] at none
    cases none
  · exact ⟨front, code, joined.trans List.concat_eq_append⟩

theorem encode_eq_nil (plain : text.Plain) : unit.encode text = [] ↔ text = [] := by
  constructor
  · intro none
    cases text with
    | nil => rfl
    | cons point text =>
      obtain ⟨lead, tail, spelled, -⟩ := spell_eq_cons unit plain.head
      rw [encode_cons, spelled] at none
      cases none
  · rintro rfl
    rfl

/-- Units that do not start with one that follows. -/
def Leads (unit : CharUnit) (codes : List Nat) : Prop :=
  ∀ code, codes.head? = some code → unit.follows code = false

theorem encode_leads (unit : CharUnit) (plain : text.Plain) : unit.Leads (unit.encode text) := by
  intro code first
  cases text with
  | nil => cases first
  | cons point text =>
    obtain ⟨lead, tail, spelled, leads, -⟩ := spell_eq_cons unit plain.head
    rw [encode_cons, spelled] at first
    cases first
    exact leads

/-- Where the units of a text are cut before one that can be a first one, the text is cut
between two code points. -/
theorem encode_cut (plain : text.Plain) {front back : List Nat}
    (cut : unit.encode text = front ++ back) (leads : unit.Leads back) :
    ∃ count, front = unit.encode (text.take count) ∧ back = unit.encode (text.drop count) := by
  induction text generalizing front with
  | nil =>
    obtain ⟨rfl, rfl⟩ := List.append_eq_nil_iff.mp cut.symm
    exact ⟨0, rfl, rfl⟩
  | cons point text ih =>
    obtain ⟨lead, tail, spelled, -, behind⟩ := spell_eq_cons unit plain.head
    rw [encode_cons] at cut
    rcases List.append_eq_append_iff.mp cut with ⟨left, rfl, same⟩ | ⟨inside, same, rfl⟩
    · obtain ⟨count, rfl, rfl⟩ := ih plain.tail same
      exact ⟨count + 1, rfl, rfl⟩
    · cases front with
      | nil =>
        refine ⟨0, rfl, ?_⟩
        rw [List.nil_append] at same
        rw [← same]
        rfl
      | cons first front =>
        cases inside with
        | nil =>
          refine ⟨1, ?_, rfl⟩
          rw [List.append_nil] at same
          simp [encode, same]
        | cons code inside =>
          -- the cut is inside a spelling, where every unit follows
          cases spelled.symm.trans same
          have follows := behind code (by simp)
          rw [leads code rfl] at follows
          cases follows

/-- A text stands at the end of another in any unit if it does in code points. -/
theorem encode_back (plain : first.Plain) (plain' : second.Plain) :
    unit.encode first <:+ unit.encode second ↔ first <:+ second := by
  constructor
  · rintro ⟨front, joined⟩
    obtain ⟨count, -, same⟩ := encode_cut plain' joined.symm (encode_leads unit plain)
    rw [encode_injective plain (plain'.drop count) same]
    exact List.drop_suffix count second
  · rintro ⟨before, rfl⟩
    rw [encode_append]
    exact List.suffix_append _ _

end Leading

section Ascii

theorem spell_ascii (unit : CharUnit) {point : CodePoint} (ascii : point.val < 0x80) :
    unit.spell point = [point.val] := by
  cases unit with
  | wide => rfl
  | utf32 => rfl
  | narrow => simp only [spell, TextScan.utf8, if_pos ascii]
  | utf16 =>
    have small : point.val < 0x10000 := by omega
    simp only [spell, TextScan.utf16, if_pos small]

/-- No unit of another character is the code of an ASCII one. -/
theorem spell_beyond (unit : CharUnit) {point : CodePoint} (beyond : 0x80 ≤ point.val) :
    ∀ code ∈ unit.spell point, 0x80 ≤ code := by
  cases unit with
  | wide => simpa [spell] using beyond
  | utf32 => simpa [spell] using beyond
  | narrow =>
    simp only [spell, TextScan.utf8, if_neg (Nat.not_lt.mpr beyond)]
    split
    · simp only [List.mem_cons, List.not_mem_nil, or_false, forall_eq_or_imp, forall_eq]
      omega
    · split
      · simp only [List.mem_cons, List.not_mem_nil, or_false, forall_eq_or_imp, forall_eq]
        omega
      · simp only [List.mem_cons, List.not_mem_nil, or_false, forall_eq_or_imp, forall_eq]
        omega
  | utf16 =>
    simp only [spell, TextScan.utf16]
    split
    · simpa using beyond
    · simp only [List.mem_cons, List.not_mem_nil, or_false, forall_eq_or_imp, forall_eq]
      omega

theorem encode_ascii (unit : CharUnit) (ascii : ∀ point ∈ text, point.val < 0x80) :
    unit.encode text = text.codes := by
  induction text with
  | nil => rfl
  | cons point text ih =>
    rw [encode_cons, spell_ascii unit (ascii point List.mem_cons_self),
      ih fun other member => ascii other (List.mem_cons_of_mem _ member), Text.codes_cons]
    rfl

end Ascii

section Reach

/-- How many units the first code points of a text take. -/
def reach (unit : CharUnit) (text : Text) (count : Nat) : Nat :=
  (unit.encode (text.take count)).length

theorem reach_zero (unit : CharUnit) (text : Text) : unit.reach text 0 = 0 := rfl

theorem reach_succ (unit : CharUnit) (point : CodePoint) (text : Text) (count : Nat) :
    unit.reach (point :: text) (count + 1) = (unit.spell point).length + unit.reach text count :=
  List.length_append

theorem reach_add (unit : CharUnit) (text : Text) (count more : Nat) :
    unit.reach text (count + more) =
      unit.reach text count + unit.reach (text.drop count) more := by
  rw [reach, List.take_add, encode_append, List.length_append]
  rfl

theorem reach_all (unit : CharUnit) {text : Text} {count : Nat} (all : text.length ≤ count) :
    unit.reach text count = (unit.encode text).length := by
  rw [reach, List.take_of_length_le all]

theorem reach_front (unit : CharUnit) {front text : Text} (stands : front <+: text) :
    unit.reach text front.length = (unit.encode front).length := by
  rw [reach, ← List.prefix_iff_eq_take.mp stands]

theorem encode_split (unit : CharUnit) (text : Text) (count : Nat) :
    unit.encode text = unit.encode (text.take count) ++ unit.encode (text.drop count) := by
  rw [← encode_append, List.take_append_drop]

theorem encode_take (unit : CharUnit) (text : Text) (count : Nat) :
    (unit.encode text).take (unit.reach text count) = unit.encode (text.take count) := by
  rw [encode_split unit text count]
  exact List.take_left' rfl

theorem encode_drop (unit : CharUnit) (text : Text) (count : Nat) :
    (unit.encode text).drop (unit.reach text count) = unit.encode (text.drop count) := by
  rw [encode_split unit text count]
  exact List.drop_left' rfl

/-- Only all the code points of a text take all its units. -/
theorem reach_eq_length (plain : text.Plain) {count : Nat} (inside : count ≤ text.length) :
    unit.reach text count = (unit.encode text).length ↔ count = text.length := by
  constructor
  · intro all
    have split := congrArg List.length (encode_drop unit text count)
    rw [List.length_drop, all, Nat.sub_self] at split
    have none := List.length_eq_zero_iff.mp split.symm
    have spent := (encode_eq_nil (plain.drop count)).mp none
    exact Nat.le_antisymm inside (List.drop_eq_nil_iff.mp spent)
  · rintro rfl
    exact reach_all unit (Nat.le_refl _)

end Reach

end CharUnit

end TextScan
