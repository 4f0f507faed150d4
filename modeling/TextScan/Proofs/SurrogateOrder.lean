import TextScan.Proofs.EncodingOrder

/-! UTF-16 out of order. Pairs of surrogates spell the greatest code points of all, but their
units are less than those that stand above the surrogates. So texts compare in UTF-16 as in
code points, unless they part at a pair in one and at such a unit in the other; then they
compare the other way round. -/

namespace TextScan

namespace CodePoint

/-- One of the two code points is spelled by a pair of surrogates, the other by a unit that is
greater than those of any pair. -/
def Crosses (point point' : CodePoint) : Prop :=
  (0xDFFF < point.val ∧ point.val < 0x10000 ∧ 0x10000 ≤ point'.val) ∨
    (0xDFFF < point'.val ∧ point'.val < 0x10000 ∧ 0x10000 ≤ point.val)

theorem Crosses.symm {point point' : CodePoint} (crosses : point.Crosses point') :
    point'.Crosses point := Or.symm crosses

theorem apart_of_plain {point : CodePoint} (plain : point.isSurrogate = false) :
    point.val < 0xD800 ∨ 0xDFFF < point.val := by
  simp only [isSurrogate, Bool.and_eq_false_iff, decide_eq_false_iff_not] at plain
  omega

end CodePoint

/-- Two texts that part at code points which cross. -/
def Text.Crosses (first second : Text) : Prop :=
  ∃ (front rest rest' : Text) (point point' : CodePoint), first = front ++ point :: rest ∧
    second = front ++ point' :: rest' ∧ point.Crosses point'

theorem Text.Crosses.symm {first second : Text} (crosses : first.Crosses second) :
    second.Crosses first := by
  obtain ⟨front, rest, rest', point, point', own, other, crosses⟩ := crosses
  exact ⟨front, rest', rest, point', point, other, own, crosses.symm⟩

theorem Text.crosses_single {point point' : CodePoint} :
    Text.Crosses [point] [point'] ↔ point.Crosses point' := by
  constructor
  · rintro ⟨front, rest, rest', own, other, same, same', crosses⟩
    cases front with
    | nil =>
      cases same
      cases same'
      exact crosses
    | cons first front => simp at same
  · intro crosses
    exact ⟨[], [], [], point, point', rfl, rfl, crosses⟩

/-- A spelling in UTF-16 is one unit or a pair. -/
theorem utf16_cases (code : Nat) :
    (code < 0x10000 ∧ utf16 code = [code]) ∨
    (0x10000 ≤ code ∧
      utf16 code = [0xD800 + (code - 0x10000) / 0x400, 0xDC00 + (code - 0x10000) % 0x400]) := by
  unfold utf16
  split
  · exact .inl ⟨‹_›, rfl⟩
  · exact .inr ⟨by omega, rfl⟩

/-- Code points that do not cross are spelled in their order. -/
theorem utf16_ahead {point point' : CodePoint} (plain : point.isSurrogate = false)
    (less : point.val < point'.val) (apart : ¬point.Crosses point') :
    Ahead (utf16 point.val) (utf16 point'.val) := by
  have place := CodePoint.apart_of_plain plain
  rcases utf16_cases point.val with ⟨high, own⟩ | ⟨low, own⟩
  · rcases utf16_cases point'.val with ⟨-, other⟩ | ⟨low', other⟩
    · rw [own, other]
      exact .head less [] []
    · have below : point.val < 0xD800 :=
        place.resolve_right fun above => apart (.inl ⟨above, high, low'⟩)
      rw [own, other]
      exact .head (by omega) [] _
  · rcases utf16_cases point'.val with ⟨high', -⟩ | ⟨-, other⟩
    · exact absurd less (by omega)
    · rw [own, other]
      -- two pairs differ in the first unit, or else in the second
      by_cases leads : (point.val - 0x10000) / 0x400 < (point'.val - 0x10000) / 0x400
      · exact .head (by omega) _ _
      · have same : (point.val - 0x10000) / 0x400 = (point'.val - 0x10000) / 0x400 := by omega
        rw [same]
        exact Ahead.after [_] (.head (by omega) [] [])

/-- Code points that cross are spelled in the opposite order. -/
theorem utf16_behind {point point' : CodePoint} (less : point.val < point'.val)
    (crosses : point.Crosses point') : Ahead (utf16 point'.val) (utf16 point.val) := by
  have reach := point'.isLt
  rcases crosses with ⟨above, high, low'⟩ | ⟨-, high', low⟩
  · rcases utf16_cases point.val with ⟨-, own⟩ | ⟨low, -⟩
    · rcases utf16_cases point'.val with ⟨high', -⟩ | ⟨-, other⟩
      · exact absurd low' (by omega)
      · rw [own, other]
        exact .head (by omega) _ []
    · exact absurd low (by omega)
  · exact absurd less (by omega)

namespace CharUnit

variable {first second : Text}

theorem encode_utf16_lt (plain : first.Plain) (plain' : second.Plain)
    (apart : ¬first.Crosses second) (less : first.codes < second.codes) :
    utf16.encode first < utf16.encode second := by
  refine encode_lt_of_parted plain' ?_ less
  intro front point rest point' rest' own other before
  have held : point.isSurrogate = false := plain point (by simp [own])
  exact utf16_ahead held before fun crosses =>
    apart ⟨front, rest, rest', point, point', own, other, crosses⟩

/-- Texts that cross are spelled in the opposite order, whatever follows where they part. -/
theorem encode_utf16_gt (crosses : first.Crosses second) (less : first.codes < second.codes) :
    utf16.encode second < utf16.encode first := by
  obtain ⟨front, rest, rest', point, point', rfl, rfl, crosses⟩ := crosses
  have before : point.val < point'.val := by
    by_contra after
    have ahead : point'.val < point.val := by
      rcases crosses with ⟨-, high, low'⟩ | ⟨-, high', low⟩ <;> omega
    have greater := Ahead.after front.codes (.head ahead [] []) rest'.codes rest.codes
    simp only [Text.codes, List.map_append, List.map_cons, List.append_assoc, List.cons_append,
      List.nil_append] at less greater
    exact List.lt_asymm less greater
  rw [encode_append, encode_append, encode_cons, encode_cons, ← List.append_assoc,
    ← List.append_assoc]
  exact Ahead.after (utf16.encode front) (utf16_behind before crosses) _ _

theorem orders_utf16 (plain : first.Plain) (plain' : second.Plain)
    (apart : ¬first.Crosses second) (relation : Relation) :
    relation.orders (utf16.encode first) (utf16.encode second) =
      relation.orders first.codes second.codes :=
  Relation.orders_of_lt (encode_eq_iff plain plain') (encode_utf16_lt plain plain' apart)
    (encode_utf16_lt plain' plain fun crosses => apart crosses.symm) relation

theorem orders_utf16_crosses (plain : first.Plain) (plain' : second.Plain)
    (crosses : first.Crosses second) (relation : Relation) :
    relation.orders (utf16.encode first) (utf16.encode second) =
      relation.converse.orders first.codes second.codes := by
  have same : utf16.encode first = utf16.encode second ↔ second.codes = first.codes :=
    (encode_eq_iff plain plain').trans eq_comm
  rw [Relation.orders_converse]
  exact Relation.orders_of_lt same (encode_utf16_gt crosses.symm) (encode_utf16_gt crosses) relation

end CharUnit

namespace Stream

variable {text text' : Text} {first first' second second' : Stream}

/-- Two texts compare in code points as in UTF-16, whether both are windows or one is given as it
is. Where the texts cross, it is the converse relation that holds of their units. -/
theorem Spells.comparison_utf16 (spells : first.Spells second .utf16 text)
    (spells' : first'.Spells second' .utf16 text') (relation : Relation) :
    ∃ answer, answer = relation.orders text.codes text'.codes ∧
      first.comparison relation false (.stream first') = .ok answer ∧
      (¬text.Crosses text' →
        second.comparison relation false (.stream second') = .ok answer ∧
        second.comparison relation false (.text text') = .ok answer) ∧
      (text.Crosses text' →
        second.comparison relation.converse false (.stream second') = .ok answer ∧
        second.comparison relation.converse false (.text text') = .ok answer) := by
  have kind : first.unit.isText = first'.unit.isText := by rw [spells.wide, spells'.wide]
  have kind' : second.unit.isText = second'.unit.isText := by rw [spells.other, spells'.other]
  have units (asked : Relation) : second.comparison asked false (.stream second') =
      .ok (asked.orders (CharUnit.utf16.encode text) (CharUnit.utf16.encode text')) := by
    rw [← spells.units, ← spells'.units]
    exact spells.valid'.compare_stream spells'.valid' kind' asked
  have given (asked : Relation) : second.comparison asked false (.text text') =
      .ok (asked.orders (CharUnit.utf16.encode text) (CharUnit.utf16.encode text')) := by
    rw [spells.valid'.comparison_plain spells'.plain, spells.other, spells.units]
  refine ⟨_, rfl, ?_, ?_, ?_⟩
  · rw [← spells.codes, ← spells'.codes]
    exact spells.valid.compare_stream spells'.valid kind relation
  · intro apart
    rw [units, given, CharUnit.orders_utf16 spells.plain spells'.plain apart]
    exact ⟨rfl, rfl⟩
  · intro crosses
    rw [units, given, CharUnit.orders_utf16_crosses spells.plain spells'.plain crosses,
      Relation.converse_converse]
    exact ⟨rfl, rfl⟩

/-- A tilde above the surrogates, and a stream over units of 16 bits. -/
def wideTilde : Text := Text.ofCodes [0xFF5E]

def shortUnits (codes : List Nat) (bounded : ∀ code ∈ codes, code ≤ 0xFFFF) : Stream :=
  ofBuffer ⟨.array .short .utf16 ItemFormat.unit?_short, codes, bounded⟩

theorem shortUnits_spells {text : Text} (free : text.hasSurrogate = false) {codes : List Nat}
    (bounded : ∀ code ∈ codes, code ≤ 0xFFFF) (units : codes = CharUnit.utf16.encode text) :
    (ofBuffer (.ofText text)).Spells (shortUnits codes bounded) .utf16 text :=
  spells_ofBuffer (Text.plain_iff.mpr free) rfl units

/-- A letter comes before a pair in either order of units, the tilde comes behind it. -/
theorem comparison_utf16_pair :
    let letter := ofBuffer (.ofText twoBytes)
    let pair := ofBuffer (.ofText fourBytes)
    let units := shortUnits [0xD83D, 0xDE00] (by decide)
    (letter.comparison .lt false (.stream pair) = .ok true ∧
      (shortUnits [0xE9] (by decide)).comparison .lt false (.stream units) = .ok true) ∧
    (ofBuffer (.ofText wideTilde)).comparison .lt false (.stream pair) = .ok true ∧
      (shortUnits [0xFF5E] (by decide)).comparison .gt false (.stream units) = .ok true := by
  have pair : (ofBuffer (.ofText fourBytes)).Spells (shortUnits [0xD83D, 0xDE00] (by decide))
      .utf16 fourBytes := shortUnits_spells rfl _ rfl
  have letter : (ofBuffer (.ofText twoBytes)).Spells (shortUnits [0xE9] (by decide)) .utf16
      twoBytes := shortUnits_spells rfl _ rfl
  have tilde : (ofBuffer (.ofText wideTilde)).Spells (shortUnits [0xFF5E] (by decide)) .utf16
      wideTilde := shortUnits_spells rfl _ rfl
  have apart : ¬Text.Crosses twoBytes fourBytes := by
    refine fun crosses => absurd (Text.crosses_single.mp crosses) ?_
    unfold CodePoint.Crosses
    decide
  have crosses : Text.Crosses wideTilde fourBytes := by
    refine Text.crosses_single.mpr ?_
    unfold CodePoint.Crosses
    decide
  obtain ⟨answer, before, wide, kept, -⟩ := letter.comparison_utf16 pair .lt
  obtain ⟨answer', before', wide', -, turned⟩ := tilde.comparison_utf16 pair .lt
  cases before
  cases before'
  exact ⟨⟨wide, (kept apart).1⟩, wide', (turned crosses).1⟩

/-- A tilde comes before a pair in code points, and behind it in UTF-16. -/
theorem tilde_behind_pair :
    (ofBuffer (.ofText wideTilde)).comparison .lt false (.stream (ofBuffer (.ofText fourBytes))) =
        .ok true ∧
      (shortUnits [0xFF5E] (by decide)).comparison .lt false
        (.stream (shortUnits [0xD83D, 0xDE00] (by decide))) = .ok false := by
  decide

end Stream

end TextScan
