import TextScan.Proofs.ContentOrder
import TextScan.Proofs.WidthRuns

/-! Encodings keep comparisons. Units spell different texts differently, and UTF-8 and UTF-32
spell them in the order of their code points: of two spellings neither begins the other, and
where they first differ the lesser code point has the lesser unit. -/

namespace TextScan

theorem Text.codes_injective {first second : Text} (same : first.codes = second.codes) :
    first = second := by
  rw [← ofCodes_codes first, same, ofCodes_codes]

/-- Codes that come before others whatever follows either. -/
def Ahead (first second : List Nat) : Prop := ∀ rest rest', first ++ rest < second ++ rest'

namespace Ahead

variable {first second : List Nat} {code code' : Nat}

theorem head (less : code < code') (rest rest' : List Nat) :
    Ahead (code :: rest) (code' :: rest') :=
  fun _ _ => List.cons_lt_cons_iff.mpr (.inl less)

theorem append (ahead : Ahead first second) (rest rest' : List Nat) :
    Ahead (first ++ rest) (second ++ rest') := by
  intro more more'
  rw [List.append_assoc, List.append_assoc]
  exact ahead _ _

theorem after (front : List Nat) (ahead : Ahead first second) :
    Ahead (front ++ first) (front ++ second) := by
  intro rest rest'
  rw [List.append_assoc, List.append_assoc]
  induction front with
  | nil => exact ahead rest rest'
  | cons code front ih => exact List.cons_lt_cons_iff.mpr (.inr ⟨rfl, ih⟩)

/-- Codes that keep order still do with one more digit of six bits at the end. -/
theorem digit {front : Nat → List Nat}
    (ordered : ∀ code code', code < code' → Ahead (front code) (front code'))
    (less : code < code') :
    Ahead (front (code / 0x40) ++ [0x80 + code % 0x40])
      (front (code' / 0x40) ++ [0x80 + code' % 0x40]) := by
  have digits : code / 0x40 < code' / 0x40 ∨
      code / 0x40 = code' / 0x40 ∧ 0x80 + code % 0x40 < 0x80 + code' % 0x40 := by omega
  rcases digits with high | ⟨same, low⟩
  · exact (ordered _ _ high).append _ _
  · rw [same]
    exact (head low [] []).after _

end Ahead

/-- A spelling in UTF-8 by its length, which the lead tells. -/
theorem utf8_cases (code : Nat) :
    (code < 0x80 ∧ utf8 code = [code]) ∨
    (0x80 ≤ code ∧ code < 0x800 ∧
      utf8 code = [0xC0 + code / 0x40, 0x80 + code % 0x40]) ∨
    (0x800 ≤ code ∧ code < 0x10000 ∧
      utf8 code = [0xE0 + code / 0x1000, 0x80 + code / 0x40 % 0x40, 0x80 + code % 0x40]) ∨
    (0x10000 ≤ code ∧
      utf8 code = [0xF0 + code / 0x40000, 0x80 + code / 0x1000 % 0x40,
        0x80 + code / 0x40 % 0x40, 0x80 + code % 0x40]) := by
  unfold utf8
  split
  · exact .inl ⟨‹_›, rfl⟩
  · split
    · exact .inr (.inl ⟨by omega, ‹_›, rfl⟩)
    · split
      · exact .inr (.inr (.inl ⟨by omega, ‹_›, rfl⟩))
      · exact .inr (.inr (.inr ⟨by omega, rfl⟩))

/-- The bytes of a lesser code point come first: a shorter spelling has a lesser lead, and one
of the same length is lesser in its first different digit. -/
theorem utf8_ahead {code code' : Nat} (less : code < code') : Ahead (utf8 code) (utf8 code') := by
  have one (base code code' : Nat) (less : code < code') : Ahead [base + code] [base + code'] :=
    .head (Nat.add_lt_add_left less base) [] []
  have two (base code code' : Nat) (less : code < code') :
      Ahead [base + code / 0x40, 0x80 + code % 0x40] [base + code' / 0x40, 0x80 + code' % 0x40] :=
    Ahead.digit (one base) less
  have three (base code code' : Nat) (less : code < code') :
      Ahead [base + code / 0x1000, 0x80 + code / 0x40 % 0x40, 0x80 + code % 0x40]
        [base + code' / 0x1000, 0x80 + code' / 0x40 % 0x40, 0x80 + code' % 0x40] := by
    have digit := Ahead.digit (two base) less
    rw [Nat.div_div_eq_div_mul, Nat.div_div_eq_div_mul] at digit
    exact digit
  have four (base code code' : Nat) (less : code < code') :
      Ahead [base + code / 0x40000, 0x80 + code / 0x1000 % 0x40, 0x80 + code / 0x40 % 0x40,
          0x80 + code % 0x40]
        [base + code' / 0x40000, 0x80 + code' / 0x1000 % 0x40, 0x80 + code' / 0x40 % 0x40,
          0x80 + code' % 0x40] := by
    have digit := Ahead.digit (three base) less
    simp only [Nat.div_div_eq_div_mul] at digit
    exact digit
  rcases utf8_cases code with ⟨high, own⟩ | ⟨low, high, own⟩ | ⟨low, high, own⟩ | ⟨low, own⟩
  · rcases utf8_cases code' with ⟨-, other⟩ | ⟨-, -, other⟩ | ⟨-, -, other⟩ | ⟨-, other⟩
    all_goals
      rw [own, other]
      exact .head (by omega) _ _
  · rcases utf8_cases code' with ⟨low', -⟩ | ⟨-, -, other⟩ | ⟨-, -, other⟩ | ⟨-, other⟩
    · exact absurd less (by omega)
    · rw [own, other]
      exact two _ _ _ less
    all_goals
      rw [own, other]
      exact .head (by omega) _ _
  · rcases utf8_cases code' with ⟨low', -⟩ | ⟨-, low', -⟩ | ⟨-, -, other⟩ | ⟨-, other⟩
    · exact absurd less (by omega)
    · exact absurd less (by omega)
    · rw [own, other]
      exact three _ _ _ less
    · rw [own, other]
      exact .head (by omega) _ _
  · rcases utf8_cases code' with ⟨low', -⟩ | ⟨-, low', -⟩ | ⟨-, low', -⟩ | ⟨-, other⟩
    · exact absurd less (by omega)
    · exact absurd less (by omega)
    · exact absurd less (by omega)
    · rw [own, other]
      exact four _ _ _ less

namespace CharUnit

variable {unit : CharUnit} {first second : Text}

/-- Only pairs of surrogates spell out of order. -/
theorem spell_ahead (ordered : unit ≠ .utf16) {point point' : CodePoint}
    (less : point.val < point'.val) : Ahead (unit.spell point) (unit.spell point') := by
  cases unit with
  | wide => exact .head less [] []
  | narrow => exact utf8_ahead less
  | utf16 => exact absurd rfl ordered
  | utf32 => exact .head less [] []

/-- Texts are spelled in their order if the code points where they part are. -/
theorem encode_lt_of_parted (plain : second.Plain)
    (parted : ∀ front point rest point' rest', first = front ++ point :: rest →
      second = front ++ point' :: rest' → point.val < point'.val →
        Ahead (unit.spell point) (unit.spell point'))
    (less : first.codes < second.codes) : unit.encode first < unit.encode second := by
  induction first generalizing second with
  | nil =>
    cases second with
    | nil => exact absurd less (List.lt_irrefl _)
    | cons point rest =>
      obtain ⟨lead, tail, spelled, -⟩ := spell_eq_cons unit plain.head
      rw [encode_cons, spelled]
      exact List.nil_lt_cons _ _
  | cons point rest ih =>
    cases second with
    | nil => exact absurd less (List.not_lt_nil _)
    | cons point' rest' =>
      rw [Text.codes_cons, Text.codes_cons, List.cons_lt_cons_iff] at less
      rw [encode_cons, encode_cons]
      rcases less with less | ⟨same, less⟩
      · exact parted [] point rest point' rest' rfl rfl less _ _
      · cases Fin.ext same
        refine List.append_left_lt (ih plain.tail ?_ less)
        intro front other tail other' tail' here there
        exact parted (point :: front) other tail other' tail' (congrArg _ here) (congrArg _ there)

theorem encode_lt (ordered : unit ≠ .utf16) (plain : second.Plain)
    (less : first.codes < second.codes) : unit.encode first < unit.encode second :=
  encode_lt_of_parted plain (fun _ _ _ _ _ _ _ less => spell_ahead ordered less) less

theorem encode_eq_iff (plain : first.Plain) (plain' : second.Plain) :
    unit.encode first = unit.encode second ↔ first.codes = second.codes := by
  constructor
  · intro same
    rw [encode_injective plain plain' same]
  · intro same
    rw [Text.codes_injective same]

/-- Relations between texts are those between their units, except that UTF-16 keeps equality
alone. -/
theorem orders_encode (plain : first.Plain) (plain' : second.Plain) {relation : Relation}
    (ordered : unit = .utf16 → relation = .eq ∨ relation = .ne) :
    relation.orders (unit.encode first) (unit.encode second) =
      relation.orders first.codes second.codes := by
  have same : unit.encode first = unit.encode second ↔ first.codes = second.codes :=
    encode_eq_iff plain plain'
  by_cases pairs : unit = .utf16
  · rcases ordered pairs with rfl | rfl
    · exact decide_eq_decide.mpr same
    · exact decide_eq_decide.mpr (not_congr same)
  · exact Relation.orders_of_lt same (encode_lt pairs plain') (encode_lt pairs plain) relation

end CharUnit

namespace Stream

variable {unit : CharUnit} {text text' : Text} {first first' second second' : Stream}

theorem Valid.comparison_plain {stream : Stream} (valid : stream.Valid) {given : Text}
    (plain : given.Plain) (relation : Relation) :
    stream.comparison relation false (.text given) =
      .ok (relation.orders stream.content (stream.unit.encode given)) :=
  valid.comparison_text rfl rfl (CharUnit.text_plain stream.unit plain) relation false (.inr rfl)

/-- Two texts compare in code points as in units of any width that keeps the relation, whether
both are windows or one is given as it is. -/
theorem Spells.comparison_encoded (spells : first.Spells second unit text)
    (spells' : first'.Spells second' unit text') (relation : Relation)
    (ordered : unit = .utf16 → relation = .eq ∨ relation = .ne) :
    ∃ answer, answer = relation.orders text.codes text'.codes ∧
      first.comparison relation false (.stream first') = .ok answer ∧
      second.comparison relation false (.stream second') = .ok answer ∧
      first.comparison relation false (.text text') = .ok answer ∧
      second.comparison relation false (.text text') = .ok answer := by
  have same := CharUnit.orders_encode spells.plain spells'.plain ordered
  have kind : first.unit.isText = first'.unit.isText := by rw [spells.wide, spells'.wide]
  have kind' : second.unit.isText = second'.unit.isText := by rw [spells.other, spells'.other]
  refine ⟨_, rfl, ?_, ?_, ?_, ?_⟩
  · rw [← spells.codes, ← spells'.codes]
    exact spells.valid.compare_stream spells'.valid kind relation
  · rw [← same, ← spells.units, ← spells'.units]
    exact spells.valid'.compare_stream spells'.valid' kind' relation
  · rw [spells.valid.comparison_plain spells'.plain, spells.wide, spells.codes,
      CharUnit.encode_wide]
  · rw [spells.valid'.comparison_plain spells'.plain, spells.other, spells.units, same]

/-- A letter of two bytes and a character of four. -/
def twoBytes : Text := Text.ofCodes [0xE9]

def fourBytes : Text := Text.ofCodes [0x1F600]

theorem comparison_encoded_bytes :
    (ofBuffer (.ofText twoBytes)).comparison .lt false (.stream (ofBuffer (.ofText fourBytes))) =
        .ok true ∧
      (ofBuffer (.ofBytes [0xC3, 0xA9])).comparison .lt false
        (.stream (ofBuffer (.ofBytes [0xF0, 0x9F, 0x98, 0x80]))) = .ok true ∧
      (ofBuffer (.ofBytes [0xC3, 0xA9])).comparison .lt false (.text fourBytes) = .ok true := by
  have plain (text : Text) (free : text.hasSurrogate = false) : text.Plain :=
    Text.plain_iff.mpr free
  have spells : (ofBuffer (.ofText twoBytes)).Spells (ofBuffer (.ofBytes [0xC3, 0xA9])) .narrow
      twoBytes := spells_ofBuffer (plain twoBytes rfl) rfl rfl
  have spells' : (ofBuffer (.ofText fourBytes)).Spells
      (ofBuffer (.ofBytes [0xF0, 0x9F, 0x98, 0x80])) .narrow fourBytes :=
    spells_ofBuffer (plain fourBytes rfl) rfl rfl
  obtain ⟨answer, less, wide, bytes, -, given⟩ := spells.comparison_encoded spells' .lt nofun
  cases less
  exact ⟨wide, bytes, given⟩

end Stream

end TextScan
