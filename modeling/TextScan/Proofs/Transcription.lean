import TextScan.Proofs.Reply
import TextScan.Proofs.Spelling

/-! Scans of a text in any unit find what they find in its code points: a place between two
code points stands where the code points before it end in units. -/

namespace TextScan.Scan

open CharUnit

variable {unit : CharUnit} {sought text : Text}

theorem encode_isPrefixOf (unit : CharUnit) (plain : sought.Plain) (plain' : text.Plain) :
    (unit.encode sought).isPrefixOf (unit.encode text) = sought.codes.isPrefixOf text.codes := by
  rw [Bool.eq_iff_iff, List.isPrefixOf_iff_prefix, List.isPrefixOf_iff_prefix,
    encode_front plain plain', Text.codes_front]

theorem encode_isSuffixOf (unit : CharUnit) (plain : sought.Plain) (plain' : text.Plain) :
    (unit.encode sought).isSuffixOf (unit.encode text) = sought.codes.isSuffixOf text.codes := by
  rw [Bool.eq_iff_iff, List.isSuffixOf_iff_suffix, List.isSuffixOf_iff_suffix,
    encode_back plain plain', Text.codes_back]

section Find

/-- Nothing that starts with a first unit stands among units that follow one. -/
theorem find?_skip {needle tail : List Nat} (nonempty : needle ≠ []) (leads : unit.Leads needle)
    (behind : ∀ code ∈ tail, unit.follows code = true) (rest : List Nat) :
    find? needle (tail ++ rest) = (find? needle rest).map (· + tail.length) := by
  induction tail with
  | nil => simp
  | cons code tail ih =>
    have apart : needle.isPrefixOf (code :: (tail ++ rest)) = false := by
      cases needle with
      | nil => exact absurd rfl nonempty
      | cons lead needle =>
        have first := leads lead rfl
        have second := behind code List.mem_cons_self
        have different : (lead == code) = false := by
          rw [beq_eq_false_iff_ne]
          rintro rfl
          rw [first] at second
          cases second
        rw [List.isPrefixOf, different, Bool.false_and]
    rw [List.cons_append, find?_cons, apart, ih fun other member => behind other (.tail _ member)]
    cases find? needle rest with
    | none => rfl
    | some offset => rfl

theorem find?_encode (unit : CharUnit) (plain : sought.Plain) (plain' : text.Plain) :
    find? (unit.encode sought) (unit.encode text) =
      (find? sought.codes text.codes).map (unit.reach text) := by
  by_cases empty : sought = []
  · subst empty
    rw [encode_nil, Text.codes_nil, find?_nil_left, find?_nil_left]
    rfl
  · have nonempty : unit.encode sought ≠ [] := (encode_eq_nil plain).not.mpr empty
    induction text with
    | nil =>
      have absent : find? (unit.encode sought) [] = none :=
        find?_short (List.length_pos_iff.mpr nonempty)
      have absent' : find? sought.codes [] = none :=
        find?_short (List.length_pos_iff.mpr (Text.codes_eq_nil.not.mpr empty))
      rw [encode_nil, Text.codes_nil, absent, absent']
      rfl
    | cons point text ih =>
      obtain ⟨lead, tail, spelled, -, behind⟩ := spell_eq_cons unit plain'.head
      have stands := encode_isPrefixOf unit plain plain'
      have skips := find?_skip nonempty (encode_leads unit plain) behind (unit.encode text)
      rw [ih plain'.tail] at skips
      rw [encode_cons, spelled, List.cons_append, Text.codes_cons] at stands
      rw [encode_cons, spelled, List.cons_append, Text.codes_cons, find?_cons, find?_cons, stands,
        skips]
      split
      · rfl
      · cases find? sought.codes (Text.codes text) with
        | none => rfl
        | some offset =>
          simp only [Option.map_some, reach_succ, spelled, List.length_cons, Option.some_inj]
          omega

end Find

section Runs

/-- A repeated text leaves no stop where its repetitions fill the content, however long it
is. -/
theorem afterRepeats?_eq {needle : List Nat} (nonempty : needle ≠ []) (content : List Nat) :
    afterRepeats? needle content =
      if runLength needle content = content.length then none
      else some (runLength needle content) := by
  match needle with
  | [] => exact absurd rfl nonempty
  | [code] =>
    unfold afterRepeats?
    dsimp only
    induction content with
    | nil =>
      rw [runLength_stop (by simp)]
      rfl
    | cons first rest ih =>
      rw [findWhere?_cons]
      by_cases same : first = code
      · subst same
        rw [runLength_step nonempty (by simp), ih]
        rw [bne_self_eq_false, if_neg Bool.false_ne_true, List.length_singleton, List.drop_one,
          List.tail_cons, List.length_cons]
        by_cases all : runLength [first] rest = rest.length
        · rw [if_pos all, if_pos (by omega)]
          rfl
        · rw [if_neg all, if_neg (by omega), Option.map_some, Nat.add_comm]
      · have ends : ¬ [code] <+: first :: rest := by
          simp [List.cons_prefix_cons, Ne.symm same]
        rw [runLength_stop ends]
        simp [same]
  | first :: second :: rest =>
    unfold afterRepeats?
    simp

theorem runLength_encode (unit : CharUnit) (plain : sought.Plain) (plain' : text.Plain) :
    runLength (unit.encode sought) (unit.encode text) =
      unit.reach text (runLength sought.codes text.codes) := by
  by_cases empty : sought = []
  · subst empty
    rw [encode_nil, Text.codes_nil, runLength_nil, runLength_nil, reach_zero]
  · have nonempty : unit.encode sought ≠ [] := (encode_eq_nil plain).not.mpr empty
    have nonempty' := Text.codes_eq_nil.not.mpr empty
    induction length : text.length using Nat.strong_induction_on generalizing text with
    | _ size ih =>
      subst length
      by_cases stands : sought <+: text
      · have shorter : (text.drop sought.length).length < text.length := by
          have some := List.length_pos_iff.mpr empty
          have bound := stands.length_le
          rw [List.length_drop]
          omega
        have later := ih _ shorter (plain'.drop sought.length) rfl
        rw [runLength_step nonempty ((encode_front plain plain').mpr stands),
          runLength_step nonempty' (Text.codes_front.mpr stands), ← reach_front unit stands,
          encode_drop, later, Text.codes_drop, Text.length_codes, reach_add]
      · have ends : ¬ unit.encode sought <+: unit.encode text :=
          fun front => stands ((encode_front plain plain').mp front)
        have ends' : ¬ sought.codes <+: text.codes :=
          fun front => stands (Text.codes_front.mp front)
        rw [runLength_stop ends, runLength_stop ends', reach_zero]

theorem afterRepeats?_encode (unit : CharUnit) (plain : sought.Plain) (plain' : text.Plain) :
    afterRepeats? (unit.encode sought) (unit.encode text) =
      (afterRepeats? sought.codes text.codes).map (unit.reach text) := by
  by_cases empty : sought = []
  · subst empty
    simp [afterRepeats?, runLength_nil, reach_zero]
  · have nonempty : unit.encode sought ≠ [] := (encode_eq_nil plain).not.mpr empty
    have nonempty' := Text.codes_eq_nil.not.mpr empty
    have inside := runLength_le sought.codes text.codes
    rw [Text.length_codes] at inside
    rw [afterRepeats?_eq nonempty, afterRepeats?_eq nonempty', runLength_encode unit plain plain',
      Text.length_codes, apply_ite (Option.map (unit.reach text))]
    simp only [reach_eq_length plain' inside, Option.map_none, Option.map_some]

end Runs

section Tests

/-- A test that tells no two codes beyond ASCII apart. -/
def Coarse (test : Nat → Bool) : Prop :=
  ∀ code other, 0x80 ≤ code → 0x80 ≤ other → test code = test other

variable {test : Nat → Bool}

theorem Coarse.not (coarse : Coarse test) : Coarse fun code => !test code :=
  fun code other beyond beyond' => congrArg (!·) (coarse code other beyond beyond')

theorem coarse_contains {chars : List Nat} (ascii : ∀ code ∈ chars, code < 0x80) :
    Coarse chars.contains := by
  have outside {code : Nat} (beyond : 0x80 ≤ code) : chars.contains code = false := by
    rw [Bool.eq_false_iff, ne_eq, List.contains_iff_mem]
    exact fun member => absurd (ascii code member) (Nat.not_lt.mpr beyond)
  intro code other beyond beyond'
  rw [outside beyond, outside beyond']

/-- A coarse test answers for each unit of a character what it answers for the character. -/
theorem Coarse.spell (coarse : Coarse test) (unit : CharUnit) (point : CodePoint) :
    ∀ code ∈ unit.spell point, test code = test point.val := by
  intro code member
  by_cases ascii : point.val < 0x80
  · rw [spell_ascii unit ascii, List.mem_singleton] at member
    rw [member]
  · have beyond := Nat.le_of_not_lt ascii
    exact coarse _ _ (spell_beyond unit beyond code member) beyond

theorem findWhere?_skip {front : List Nat} (fails : ∀ code ∈ front, test code = false)
    (rest : List Nat) :
    findWhere? test (front ++ rest) = (findWhere? test rest).map (· + front.length) := by
  induction front with
  | nil => simp
  | cons code front ih =>
    rw [List.cons_append, findWhere?_cons, fails code List.mem_cons_self, if_neg Bool.false_ne_true,
      ih fun other member => fails other (.tail _ member)]
    cases findWhere? test rest with
    | none => rfl
    | some offset => rfl

theorem findWhere?_encode (unit : CharUnit) (coarse : Coarse test) (plain : text.Plain) :
    findWhere? test (unit.encode text) =
      (findWhere? test text.codes).map (unit.reach text) := by
  induction text with
  | nil => rfl
  | cons point text ih =>
    have alike := coarse.spell unit point
    rw [encode_cons, Text.codes_cons, findWhere?_cons]
    split
    · rename_i passes
      obtain ⟨lead, tail, spelled, -⟩ := spell_eq_cons unit plain.head
      have first : test lead = true := (alike lead (by simp [spelled])).trans passes
      rw [spelled, List.cons_append, findWhere?_cons, if_pos first]
      rfl
    · rename_i fails
      rw [Bool.not_eq_true] at fails
      rw [findWhere?_skip fun code member => (alike code member).trans fails, ih plain.tail]
      cases findWhere? test (Text.codes text) with
      | none => rfl
      | some offset =>
        rw [Option.map_some, Option.map_some, Option.map_some, Option.map_some, reach_succ,
          Nat.add_comm]

theorem trimFront_encode (unit : CharUnit) (coarse : Coarse test) (plain : text.Plain) :
    Content.trimFront (unit.encode text) test =
      unit.reach text (Content.trimFront text.codes test) := by
  unfold Content.trimFront
  rw [findWhere?_encode unit coarse.not plain]
  cases findWhere? (fun code => !test code) text.codes with
  | none =>
    simp only [Option.map_none, Option.getD_none, Text.length_codes]
    exact (reach_all unit (Nat.le_refl _)).symm
  | some offset => rfl

theorem trimBack_stop (content : List Nat) {code : Nat} (fails : test code = false) :
    Content.trimBack (content ++ [code]) test = content.length + 1 := by
  unfold Content.trimBack
  rw [findLast?_append, fails]
  rfl

theorem trimBack_skip (content : List Nat) {back : List Nat}
    (passes : ∀ code ∈ back, test code = true) :
    Content.trimBack (content ++ back) test = Content.trimBack content test := by
  induction back using List.reverseRecOn with
  | nil => rw [List.append_nil]
  | append_singleton back code ih =>
    have last := passes code (by simp)
    rw [← List.append_assoc]
    conv => lhs; unfold Content.trimBack
    rw [findLast?_append, last]
    exact ih fun other member => passes other (List.mem_append_left _ member)

theorem trimBack_le (content : List Nat) (test : Nat → Bool) :
    Content.trimBack content test ≤ content.length := by
  unfold Content.trimBack
  split
  · rename_i found
    exact findLast?_lt found
  · exact Nat.zero_le _

theorem trimBack_encode (unit : CharUnit) (coarse : Coarse test) (plain : text.Plain) :
    Content.trimBack (unit.encode text) test =
      unit.reach text (Content.trimBack text.codes test) := by
  induction text using List.reverseRecOn with
  | nil => rfl
  | append_singleton text point ih =>
    have earlier := plain.of_subset (List.subset_append_left text [point])
    have alike := coarse.spell unit point
    cases answer : test point.val with
    | true =>
      have passes : ∀ code ∈ unit.spell point, test code = true :=
        fun code member => (alike code member).trans answer
      have single : ∀ code ∈ [point.val], test code = true := by simpa using answer
      have inside := trimBack_le (Text.codes text) test
      rw [Text.length_codes] at inside
      rw [encode_concat, Text.codes_concat, trimBack_skip _ passes, trimBack_skip _ single,
        ih earlier, reach, reach, List.take_append_of_le_length inside]
    | false =>
      have last : point.isSurrogate = false := plain point (by simp)
      obtain ⟨front, code, spelled⟩ := spell_eq_concat unit last
      have fails : test code = false := (alike code (by simp [spelled])).trans answer
      have whole : (text ++ [point]).length ≤ text.length + 1 := by simp
      rw [Text.codes_concat, trimBack_stop _ answer, Text.length_codes, reach_all unit whole,
        encode_concat, spelled, ← List.append_assoc, trimBack_stop _ fails]
      simp only [List.length_append, List.length_singleton]

end Tests

section Delimited

theorem delimited?_encode (unit : CharUnit) (plain : sought.Plain) (plain' : text.Plain) :
    delimited? (unit.encode sought) (unit.encode text) =
      (delimited? sought.codes text.codes).map (unit.reach (text.drop sought.length)) := by
  have opens : (unit.encode sought ≠ [] ∧ unit.encode sought <+: unit.encode text) ↔
      sought.codes ≠ [] ∧ sought.codes <+: text.codes := by
    rw [ne_eq, ne_eq, encode_eq_nil plain, Text.codes_eq_nil, encode_front plain plain',
      Text.codes_front]
  unfold delimited?
  by_cases open' : sought.codes ≠ [] ∧ sought.codes <+: text.codes
  · have stands := Text.codes_front.mp open'.2
    rw [if_pos open', if_pos (opens.mpr open'), ← reach_front unit stands, encode_drop,
      find?_encode unit plain (plain'.drop _), Text.codes_drop, Text.length_codes]
  · rw [if_neg open', if_neg fun other => open' (opens.mp other)]
    rfl

theorem contains_spell {chars : List Nat} (ascii : ∀ code ∈ chars, code < 0x80) (unit : CharUnit)
    (point : CodePoint) {code : Nat} (member : code ∈ unit.spell point) :
    chars.contains code = chars.contains point.val :=
  (coarse_contains ascii).spell unit point code member

theorem head?_encode_cons (unit : CharUnit) {point : CodePoint}
    (plain : point.isSurrogate = false) (text : Text) :
    ∃ lead ∈ unit.spell point, (unit.encode (point :: text)).head? = some lead := by
  obtain ⟨lead, tail, spelled, -⟩ := spell_eq_cons unit plain
  refine ⟨lead, by simp [spelled], ?_⟩
  rw [encode_cons, spelled]
  rfl

theorem head?_contains (unit : CharUnit) (plain : text.Plain) {chars : List Nat}
    (ascii : ∀ code ∈ chars, code < 0x80) :
    (unit.encode text).head?.map chars.contains = text.codes.head?.map chars.contains := by
  cases text with
  | nil => rfl
  | cons point text =>
    obtain ⟨lead, spelled, first⟩ := head?_encode_cons unit plain.head text
    rw [first, Option.map_some, contains_spell ascii unit point spelled]
    rfl

theorem getLast?_contains (unit : CharUnit) (plain : text.Plain) {chars : List Nat}
    (ascii : ∀ code ∈ chars, code < 0x80) :
    (unit.encode text).getLast?.map chars.contains = text.codes.getLast?.map chars.contains := by
  rcases List.eq_nil_or_concat text with rfl | ⟨before, point, rfl⟩
  · rfl
  · rw [List.concat_eq_append] at plain ⊢
    have last : point.isSurrogate = false := plain point (by simp)
    obtain ⟨front, code, spelled⟩ := spell_eq_concat unit last
    have member : code ∈ unit.spell point := by simp [spelled]
    rw [encode_concat, spelled, ← List.append_assoc, List.getLast?_concat, Text.codes_concat,
      List.getLast?_concat, Option.map_some, Option.map_some,
      contains_spell ascii unit point member]

theorem enclosed?_encode (unit : CharUnit) {chars : List Nat}
    (ascii : ∀ code ∈ chars, code < 0x80) (plain : text.Plain) :
    enclosed? chars (unit.encode text) =
      (enclosed? chars text.codes).map (unit.reach (text.drop 1)) := by
  cases text with
  | nil => rfl
  | cons point text =>
    rw [Text.codes_cons]
    by_cases member : point.val ∈ chars
    · have small := ascii point.val member
      have same : Coarse (· == point.val) := by
        intro code other beyond beyond'
        have apart {code : Nat} (beyond : 0x80 ≤ code) : (code == point.val) = false := by
          rw [beq_eq_false_iff_ne]
          omega
        exact (apart beyond).trans (apart beyond').symm
      rw [encode_cons, spell_ascii unit small]
      unfold enclosed?
      dsimp only [List.singleton_append]
      rw [if_pos member, if_pos member, findWhere?_encode unit same plain.tail]
      rfl
    · obtain ⟨lead, spelled, first⟩ := head?_encode_cons unit plain.head text
      have alike := contains_spell ascii unit point spelled
      rw [Bool.eq_iff_iff, List.contains_iff_mem, List.contains_iff_mem] at alike
      have none : enclosed? chars (point.val :: Text.codes text) = none := if_neg member
      rw [none]
      generalize unit.encode (point :: text) = units at first
      cases units with
      | nil => rfl
      | cons code units =>
        cases first
        exact if_neg fun other => member (alike.mp other)

end Delimited

section Lines

/-- A span of a text, and the span of its units. -/
structure SameSpan (unit : CharUnit) (text : Text) (span span' : Span) : Prop where
  ordered : span.low ≤ span.high
  inside : span.high ≤ text.length
  low : span'.low = unit.reach text span.low
  high : span'.high = unit.reach text span.high

/-- Where a text was found in units, its end is the end of its code points there. -/
theorem reach_found (unit : CharUnit) {offset : Nat}
    (found : find? sought.codes text.codes = some offset) :
    unit.reach text offset + (unit.encode sought).length =
      unit.reach text (offset + sought.length) := by
  have stands := find?_starts found
  rw [← Text.codes_drop, Text.codes_front] at stands
  rw [reach_add, reach_front unit stands]

/-- The lines left from a place on, of a text and of its units. -/
theorem spansFrom_encode (unit : CharUnit) (plain : sought.Plain) (nonempty : sought ≠ [])
    (plain' : text.Plain) (low : Nat) (inside : low ≤ text.length) :
    List.Forall₂ (SameSpan unit text)
      (spansFrom sought.codes low (Text.codes (text.drop low)))
      (spansFrom (unit.encode sought) (unit.reach text low) (unit.encode (text.drop low))) := by
  have some := Text.codes_eq_nil.not.mpr nonempty
  have some' : unit.encode sought ≠ [] := (encode_eq_nil plain).not.mpr nonempty
  induction left : text.length - low using Nat.strong_induction_on generalizing low with
  | _ size ih =>
    subst left
    have finds := find?_encode unit plain (plain'.drop low)
    have length : (Text.codes (text.drop low)).length = text.length - low := by
      rw [Text.length_codes, List.length_drop]
    cases found : find? sought.codes (Text.codes (text.drop low)) with
    | none =>
      rw [found] at finds
      rw [spansFrom_none _ found, spansFrom_none _ finds, length]
      refine .cons ⟨Nat.le_add_right _ _, ?_, rfl, ?_⟩ .nil
      · dsimp only
        omega
      · dsimp only
        rw [reach_add, reach_all unit (Nat.le_of_eq List.length_drop)]
    | some offset =>
      rw [found] at finds
      have fits := find?_fits found
      have long := List.length_pos_iff.mpr nonempty
      have closes := reach_found unit found
      rw [length, Text.length_codes] at fits
      have later := ih (text.length - (low + offset + sought.length)) (by omega)
        (low + offset + sought.length) (by omega) rfl
      rw [spansFrom_some _ some found, spansFrom_some _ some' finds]
      refine .cons ⟨Nat.le_add_right _ _, ?_, rfl, (reach_add unit text low offset).symm⟩ ?_
      · dsimp only
        omega
      · have next : unit.reach text low + unit.reach (text.drop low) offset +
            (unit.encode sought).length = unit.reach text (low + offset + sought.length) := by
          rw [Nat.add_assoc, closes, ← reach_add, Nat.add_assoc]
        have behind : (unit.encode (text.drop low)).drop
            (unit.reach (text.drop low) offset + (unit.encode sought).length) =
              unit.encode (text.drop (low + offset + sought.length)) := by
          rw [closes, encode_drop, List.drop_drop, Nat.add_assoc]
        rw [next, behind, ← Text.codes_drop, List.drop_drop, Text.length_codes, ← Nat.add_assoc]
        exact later

theorem lineSpans_encode (unit : CharUnit) (plain : sought.Plain) (nonempty : sought ≠ [])
    (plain' : text.Plain) :
    List.Forall₂ (SameSpan unit text) (lineSpans sought.codes text.codes)
      (lineSpans (unit.encode sought) (unit.encode text)) := by
  have some := Text.codes_eq_nil.not.mpr nonempty
  have some' : unit.encode sought ≠ [] := (encode_eq_nil plain).not.mpr nonempty
  unfold lineSpans
  by_cases empty : text = []
  · subst empty
    exact .nil
  · have units : unit.encode text ≠ [] := (encode_eq_nil plain').not.mpr empty
    have codes := Text.codes_eq_nil.not.mpr empty
    simp only [List.isEmpty_iff, units, codes, some, some', if_false]
    exact spansFrom_encode unit plain nonempty plain' 0 (Nat.zero_le _)

end Lines

end TextScan.Scan
