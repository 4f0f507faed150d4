import TextScan.Proofs.EncodingOrder
import TextScan.Proofs.Readback

/-! Coercion: what a unit makes of a text argument is a text of the unit's own type, which it takes
as it is, and a character argument is a text of a single unit. A text literal is spelled in the
standard encoding of the unit: only surrogates have no spelling, joined texts are spelled side by
side, and a spelling is read back as its text. -/

namespace TextScan

theorem mapM_eq_ok_iff {ε α β : Type} {read : α → Except ε β} {items : List α}
    {results : List β} :
    items.mapM read = .ok results ↔
      List.Forall₂ (fun item result => read item = .ok result) items results := by
  induction items generalizing results with
  | nil =>
    rw [List.mapM_nil, List.forall₂_nil_left_iff]
    exact ⟨fun same => (Except.ok.inj same).symm, fun same => congrArg Except.ok same.symm⟩
  | cons first rest ih =>
    rw [List.mapM_cons, List.forall₂_cons_left_iff]
    constructor
    · intro whole
      cases head : read first with
      | error cause =>
        rw [head] at whole
        cases whole
      | ok result =>
        cases tail : rest.mapM read with
        | error cause =>
          rw [head, tail] at whole
          cases whole
        | ok more =>
          rw [head, tail] at whole
          cases whole
          exact ⟨result, more, rfl, ih.mp tail, rfl⟩
    · rintro ⟨result, more, head, tail, rfl⟩
      rw [head, ih.mpr tail]
      rfl

namespace Value

variable {value member : Value} {unit : CharUnit} {codes : List Nat}

/-- What gives a value's codes: a number itself, or the members of anything else. -/
def given? (value : Value) : Option (List Value) :=
  if value.int?.isSome then some [value] else value.members?

theorem forms_eq (value : Value) : value.forms = (value.given?.getD []).map form := by
  unfold forms given?
  cases value.int? with
  | some _ => rfl
  | none =>
    cases value.members? with
    | some _ => rfl
    | none => rfl

theorem ofForms_nil (codes : List Nat) :
    ofForms [] codes = codes.map fun (code : Nat) => int code := by
  cases codes with
  | _ => rfl

theorem ofForm_form {code : Nat} (counted : member.int? = some (code : Int)) :
    ofForm member.form code = member := by
  cases member with
  | int amount =>
    cases counted
    rfl
  | bool value =>
    cases value with
    | true =>
      cases Int.ofNat_inj.mp (Option.some.inj counted)
      rfl
    | false =>
      cases Int.ofNat_inj.mp (Option.some.inj counted)
      rfl
  | _ => cases counted

theorem ofForms_eq_nil {forms : List NumberForm} : ofForms forms codes = [] ↔ codes = [] := by
  cases codes with
  | nil => cases forms <;> simp [ofForms]
  | cons code rest => cases forms <;> simp [ofForms]

theorem ofForms_eq_singleton {forms : List NumberForm} :
    ofForms forms codes = [value] ↔
      ∃ code, codes = [code] ∧ value = ofForm (forms.headD .number) code := by
  cases codes with
  | nil => cases forms <;> simp [ofForms]
  | cons code rest =>
    cases forms with
    | nil =>
      rw [ofForms_nil, List.map_cons, List.cons_eq_cons, List.map_eq_nil_iff]
      constructor
      · rintro ⟨rfl, rfl⟩
        exact ⟨code, rfl, rfl⟩
      · rintro ⟨_, same, rfl⟩
        cases same
        exact ⟨rfl, rfl⟩
    | cons form forms =>
      rw [ofForms, List.cons_eq_cons, ofForms_eq_nil]
      constructor
      · rintro ⟨rfl, rfl⟩
        exact ⟨code, rfl, rfl⟩
      · rintro ⟨_, same, rfl⟩
        cases same
        exact ⟨rfl, rfl⟩

end Value

namespace CharUnit

variable {unit : CharUnit} {value member : Value} {members : List Value} {code : Nat}
  {codes : List Nat} {text : Text}

theorem codeOf_eq_ok : unit.codeOf member = .ok code ↔
    member.int? = some (code : Int) ∧ code ≤ unit.maxValue := by
  unfold codeOf
  cases member.int? with
  | none => simp
  | some amount =>
    simp only [checkCode, Option.some.injEq]
    split
    · rename_i fits
      rw [Except.ok.injEq]
      omega
    · rename_i beyond
      refine ⟨nofun, ?_⟩
      rintro ⟨rfl, inside⟩
      exact absurd ⟨Int.natCast_nonneg code, Int.ofNat_le.mpr inside⟩ beyond

/-- A value that is one unit: a text of one character, or a number in range. -/
def IsUnit (unit : CharUnit) (value : Value) : Prop :=
  if unit.isText then ∃ point, value = .text [point]
  else ∃ code : Nat, value.int? = some (code : Int) ∧ code ≤ unit.maxValue

/-- Members that are read one by one are numbers that the unit has, and are shown in their own
forms. -/
theorem mapM_codeOf_ok (read : members.mapM unit.codeOf = .ok codes) :
    Value.ofForms (members.map Value.form) codes = members ∧
      (∀ code ∈ codes, code ≤ unit.maxValue) ∧
      ∀ member ∈ members, ∃ code : Nat, member.int? = some (code : Int) ∧ code ≤ unit.maxValue := by
  induction mapM_eq_ok_iff.mp read with
  | nil => exact ⟨rfl, nofun, nofun⟩
  | @cons first code rest codes head tail ih =>
    obtain ⟨written, bounded, counted⟩ := ih (mapM_eq_ok_iff.mpr tail)
    have own := codeOf_eq_ok.mp head
    refine ⟨?_, List.forall_mem_cons.mpr ⟨own.2, bounded⟩,
      List.forall_mem_cons.mpr ⟨⟨code, own⟩, counted⟩⟩
    rw [List.map_cons, Value.ofForms, Value.ofForm_form own.1, written]

theorem byteCodes_lt (bytes : List UInt8) : ∀ byte ∈ Buffer.byteCodes bytes, byte < 256 := by
  intro byte member
  obtain ⟨own, -, rfl⟩ := List.mem_map.mp member
  exact own.toNat_lt

theorem codeOf_of_int? {amount : Int} (counted : value.int? = some amount) :
    unit.codeOf value = unit.checkCode amount := by
  unfold codeOf
  rw [counted]

theorem mapM_codeOf_single {amount : Int} (counted : value.int? = some amount) :
    [value].mapM unit.codeOf = (unit.checkCode amount).map fun code => [code] := by
  rw [List.mapM_cons, codeOf_of_int? counted]
  cases unit.checkCode amount with
  | _ => rfl

/-- The ways in which a text argument is accepted: a literal, the bytes of a narrow unit, or the
codes that the value gives one by one. -/
theorem text_eq_ok (read : unit.text value = .ok codes) :
    (∃ text, value = .text text ∧ unit.literal text = .ok codes) ∨
    (unit = .narrow ∧ ∀ code ∈ codes, code < 256) ∨
    (unit.isText = false ∧ ∃ members, value.given? = some members ∧
      members.mapM unit.codeOf = .ok codes) := by
  unfold CharUnit.text at read
  split at read
  · exact .inl ⟨_, rfl, read⟩
  · split at read
    · cases read
    · rename_i number
      refine .inr ?_
      split at read
      · split at read
        · cases read
          exact .inl ⟨‹_›, byteCodes_lt _⟩
        · cases read
      · split at read
        · cases read
          exact .inl ⟨‹_›, byteCodes_lt _⟩
        · cases read
      · split at read
        · cases read
          exact .inl ⟨‹_›, byteCodes_lt _⟩
        · cases read
      · split at read <;> cases read
      · refine .inr ⟨Bool.eq_false_iff.mpr number, ?_⟩
        unfold Value.given?
        split at read
        · rename_i amount _ counted
          rw [counted]
          exact ⟨[value], rfl, (mapM_codeOf_single counted).trans read⟩
        · cases read
        · rename_i counted _
          rw [counted]
          split at read
          · exact ⟨_, ‹_›, read⟩
          · cases read

theorem spell_le (unit : CharUnit) (point : CodePoint) :
    ∀ code ∈ unit.spell point, code ≤ unit.maxValue := by
  intro code member
  have reach := point.isLt
  cases unit with
  | wide =>
    cases List.mem_singleton.mp member
    exact Nat.le_of_lt_succ reach
  | utf32 =>
    cases List.mem_singleton.mp member
    change point.val ≤ 0xFFFFFFFF
    omega
  | narrow =>
    change code ∈ TextScan.utf8 point.val at member
    change code ≤ 0xFF
    rcases utf8_cases point.val with ⟨_, own⟩ | ⟨_, _, own⟩ | ⟨_, _, own⟩ | ⟨_, own⟩
    all_goals
      rw [own] at member
      simp only [List.mem_cons, List.not_mem_nil, or_false] at member
      omega
  | utf16 =>
    change code ∈ TextScan.utf16 point.val at member
    change code ≤ 0xFFFF
    unfold TextScan.utf16 at member
    split at member
    all_goals
      simp only [List.mem_cons, List.not_mem_nil, or_false] at member
      omega

/-- A text that has a spelling: surrogates are spelled in wide units alone. -/
def Spellable (unit : CharUnit) (text : Text) : Prop := unit.isText = true ∨ text.Plain

theorem literal_eq_ok :
    unit.literal text = .ok codes ↔ unit.Spellable text ∧ codes = unit.encode text := by
  unfold literal encode? Spellable
  rw [Text.plain_iff]
  cases unit.isText <;> cases text.hasSurrogate <;> simp [eq_comm]

theorem literal_eq_error {cause : UnitFault} :
    unit.literal text = .error cause ↔ ¬unit.Spellable text ∧ cause = .surrogate text := by
  unfold literal encode? Spellable
  rw [Text.plain_iff]
  cases unit.isText <;> cases text.hasSurrogate <;> simp [eq_comm]

theorem text_bounded (read : unit.text value = .ok codes) :
    ∀ code ∈ codes, code ≤ unit.maxValue := by
  rcases text_eq_ok read with ⟨text, -, literal⟩ | ⟨rfl, small⟩ | ⟨-, members, -, read⟩
  · cases (literal_eq_ok.mp literal).2
    intro code member
    obtain ⟨point, -, inside⟩ := List.mem_flatMap.mp member
    exact spell_le unit point code inside
  · exact fun code member => Nat.le_of_lt_succ (small code member)
  · exact (mapM_codeOf_ok read).2.1

/-- The type of a text in the unit. -/
def textType : CharUnit → String
  | wide => "str"
  | narrow => "bytes"
  | _ => "tuple"

/-- A text in the form that the unit gives it: of the unit's own type, made of units, and read as
itself. -/
structure Normal (unit : CharUnit) (result : Value) : Prop where
  type : result.typeName = unit.textType
  units : ∃ members, result.elements? = some members ∧ ∀ member ∈ members, unit.IsUnit member
  fixed : unit.readText result = .ok result

theorem readText_eq_ok {result : Value} : unit.readText value = .ok result ↔
    ∃ codes, unit.text value = .ok codes ∧ result = unit.textValue (unit.forms value) codes := by
  unfold readText
  cases unit.text value with
  | error cause => simp [Except.map]
  | ok codes => simp [Except.map, eq_comm]

theorem readChar_eq_ok {char : Value} : unit.readChar value = .ok char ↔
    ∃ code, unit.text value = .ok [code] ∧
      char = unit.unitValue ((unit.forms value).headD .number) code := by
  unfold readChar CharUnit.char
  cases unit.text value with
  | error cause => simp [Except.map, bind, Except.bind]
  | ok codes =>
    match codes with
    | [] => simp [Except.map, bind, Except.bind, throw, throwThe, MonadExceptOf.throw]
    | [code] => simp [Except.map, bind, Except.bind, pure, Except.pure, eq_comm]
    | _ :: _ :: _ => simp [Except.map, bind, Except.bind, throw, throwThe, MonadExceptOf.throw]

/-- Only texts are accepted by wide units, and they stay as they are. -/
theorem text_wide (read : wide.text value = .ok codes) :
    ∃ text, value = .text text ∧ codes = text.codes := by
  rcases text_eq_ok read with ⟨text, rfl, literal⟩ | ⟨other, -⟩ | ⟨number, -⟩
  · exact ⟨text, rfl, (literal_eq_ok.mp literal).2.trans (encode_wide text)⟩
  · cases other
  · cases number

/-- Texts of wider numbers are tuples of what the value gives, or of the numbers of a spelling. -/
theorem textValue_tuple (tuples : unit = utf16 ∨ unit = utf32)
    (read : unit.text value = .ok codes) :
    ∃ members, unit.textValue (unit.forms value) codes = .tuple members ∧
      members.mapM unit.codeOf = .ok codes := by
  have written : unit.textValue (unit.forms value) codes =
      .tuple (Value.ofForms ((value.given?.getD []).map Value.form) codes) := by
    rw [← Value.forms_eq]
    rcases tuples with rfl | rfl
    · rfl
    · rfl
  rcases text_eq_ok read with ⟨text, rfl, -⟩ | ⟨other, -⟩ | ⟨-, members, given, legible⟩
  · refine ⟨_, written, ?_⟩
    change (Value.ofForms [] codes).mapM unit.codeOf = _
    rw [Value.ofForms_nil]
    exact mapM_codeOf unit (text_bounded read)
  · rcases tuples with rfl | rfl
    · cases other
    · cases other
  · rw [given, Option.getD_some, (mapM_codeOf_ok legible).1] at written
    exact ⟨members, written, legible⟩

/-- What a unit makes of a text argument has the same units. -/
theorem text_again (read : unit.text value = .ok codes) :
    unit.text (unit.textValue (unit.forms value) codes) = .ok codes := by
  have tuple (tuples : unit = utf16 ∨ unit = utf32) :
      unit.text (unit.textValue (unit.forms value) codes) = .ok codes := by
    obtain ⟨members, shown, legible⟩ := textValue_tuple tuples read
    rw [shown]
    rcases tuples with rfl | rfl
    · exact legible
    · exact legible
  cases unit with
  | wide =>
    obtain ⟨text, rfl, rfl⟩ := text_wide read
    change wide.text (.text (Text.ofCodes text.codes)) = _
    rw [Text.ofCodes_codes]
    exact read
  | narrow => exact congrArg Except.ok (Buffer.byteCodes_ofNat (text_bounded read))
  | utf16 => exact tuple (.inl rfl)
  | utf32 => exact tuple (.inr rfl)

/-- What a unit makes of a text argument is in its normal form. -/
theorem readText_normal {result : Value} (read : unit.readText value = .ok result) :
    unit.Normal result := by
  obtain ⟨codes, accepted, rfl⟩ := readText_eq_ok.mp read
  have again := text_again accepted
  have tuple (tuples : unit = utf16 ∨ unit = utf32) :
      unit.Normal (unit.textValue (unit.forms value) codes) := by
    obtain ⟨members, shown, legible⟩ := textValue_tuple tuples accepted
    obtain ⟨written, -, counted⟩ := mapM_codeOf_ok legible
    rw [shown] at again ⊢
    have same := congrArg Value.tuple written.symm
    rcases tuples with rfl | rfl
    · exact ⟨rfl, ⟨members, rfl, counted⟩, readText_eq_ok.mpr ⟨codes, again, same⟩⟩
    · exact ⟨rfl, ⟨members, rfl, counted⟩, readText_eq_ok.mpr ⟨codes, again, same⟩⟩
  cases unit with
  | wide =>
    refine ⟨rfl, ⟨_, rfl, ?_⟩, readText_eq_ok.mpr ⟨codes, again, rfl⟩⟩
    intro member inside
    obtain ⟨point, -, rfl⟩ := List.mem_map.mp inside
    exact ⟨point, rfl⟩
  | narrow =>
    refine ⟨rfl, ⟨_, rfl, ?_⟩, readText_eq_ok.mpr ⟨codes, again, rfl⟩⟩
    intro member inside
    obtain ⟨byte, -, rfl⟩ := List.mem_map.mp inside
    exact ⟨byte.toNat, rfl, Nat.le_of_lt_succ byte.toNat_lt⟩
  | utf16 => exact tuple (.inl rfl)
  | utf32 => exact tuple (.inr rfl)

/-- A character argument is one whose text is a single unit, and is that unit. -/
theorem readChar_iff {char : Value} : unit.readChar value = .ok char ↔
    ∃ result, unit.readText value = .ok result ∧ result.elements? = some [char] := by
  have single {codes : List Nat} (read : unit.text value = .ok codes) :
      (unit.textValue (unit.forms value) codes).elements? = some [char] ↔
        ∃ code, codes = [code] ∧
          char = unit.unitValue ((unit.forms value).headD .number) code := by
    cases unit with
    | wide =>
      change some (((codes.map CodePoint.ofNat)).map fun point => Value.text [point]) = _ ↔ _
      rw [Option.some_inj, List.map_map, List.map_eq_singleton_iff]
      exact exists_congr fun code => and_congr_right fun _ => eq_comm
    | narrow =>
      change some ((codes.map UInt8.ofNat).map fun byte => Value.int byte.toNat) = _ ↔ _
      rw [Option.some_inj, List.map_map, List.map_eq_singleton_iff]
      refine exists_congr fun code => and_congr_right fun alone => ?_
      have small := text_bounded read code (alone ▸ List.mem_cons_self)
      have own : (UInt8.ofNat code).toNat = code :=
        UInt8.toNat_ofNat_of_lt' (Nat.lt_succ_of_le small)
      change Value.int (UInt8.ofNat code).toNat = char ↔ char = .int code
      rw [own]
      exact eq_comm
    | utf16 => exact Option.some_inj.trans Value.ofForms_eq_singleton
    | utf32 => exact Option.some_inj.trans Value.ofForms_eq_singleton
  rw [readChar_eq_ok]
  constructor
  · rintro ⟨code, read, same⟩
    exact ⟨_, readText_eq_ok.mpr ⟨_, read, rfl⟩, (single read).mpr ⟨code, rfl, same⟩⟩
  · rintro ⟨result, read, alone⟩
    obtain ⟨codes, accepted, rfl⟩ := readText_eq_ok.mp read
    obtain ⟨code, rfl, same⟩ := (single accepted).mp alone
    exact ⟨code, accepted, same⟩

section Literals

variable {text text' : Text} {result : Value}

theorem readText_literal : unit.readText (.text text) = .ok result ↔
    unit.Spellable text ∧ result = unit.textValue [] (unit.encode text) := by
  have forms : unit.forms (.text text) = [] := by
    cases unit with
    | _ => rfl
  have read : unit.text (.text text) = unit.literal text := rfl
  rw [readText_eq_ok, forms, read]
  constructor
  · rintro ⟨codes, literal, rfl⟩
    obtain ⟨spellable, rfl⟩ := literal_eq_ok.mp literal
    exact ⟨spellable, rfl⟩
  · rintro ⟨spellable, rfl⟩
    exact ⟨_, literal_eq_ok.mpr ⟨spellable, rfl⟩, rfl⟩

theorem readText_refuses {cause : UnitFault} : unit.readText (.text text) = .error cause ↔
    (unit ≠ .wide ∧ ∃ point ∈ text, point.isSurrogate = true) ∧ cause = .surrogate text := by
  have refused : unit.readText (.text text) = .error cause ↔ unit.literal text = .error cause := by
    change (unit.literal text).map _ = _ ↔ _
    cases unit.literal text with
    | error _ => simp only [Except.map, Except.error.injEq]
    | ok _ => exact ⟨nofun, nofun⟩
  have spelled : ¬unit.Spellable text ↔
      unit ≠ .wide ∧ ∃ point ∈ text, point.isSurrogate = true := by
    unfold Spellable Text.Plain
    rw [not_or, isText_iff]
    simp
  rw [refused, literal_eq_error, spelled]

theorem spellable_append :
    unit.Spellable (text ++ text') ↔ unit.Spellable text ∧ unit.Spellable text' := by
  unfold Spellable Text.Plain
  rw [List.forall_mem_append]
  exact or_and_left

theorem readText_append : unit.readText (.text (text ++ text')) = .ok result ↔
    ∃ first second, unit.readText (.text text) = .ok first ∧
      unit.readText (.text text') = .ok second ∧
      Session.joinedValue first second = .ok result := by
  have joined (codes codes' : List Nat) :
      Session.joinedValue (unit.textValue [] codes) (unit.textValue [] codes') =
        .ok (unit.textValue [] (codes ++ codes')) := by
    cases unit with
    | _ => simp [textValue, Session.joinedValue, Text.ofCodes, Value.ofForms_nil]
  rw [readText_literal, spellable_append, encode_append]
  constructor
  · rintro ⟨⟨spellable, spellable'⟩, rfl⟩
    exact ⟨_, _, readText_literal.mpr ⟨spellable, rfl⟩, readText_literal.mpr ⟨spellable', rfl⟩,
      joined _ _⟩
  · rintro ⟨first, second, read, read', same⟩
    obtain ⟨spellable, rfl⟩ := readText_literal.mp read
    obtain ⟨spellable', rfl⟩ := readText_literal.mp read'
    rw [joined] at same
    exact ⟨⟨spellable, spellable'⟩, (Except.ok.inj same).symm⟩

theorem readText_decodes (read : unit.readText (.text text) = .ok result) :
    ∃ codes, unit.text result = .ok codes ∧ unit.decode? codes = some text := by
  obtain ⟨codes, accepted, rfl⟩ := readText_eq_ok.mp read
  obtain ⟨spellable, same⟩ := literal_eq_ok.mp accepted
  refine ⟨codes, text_again accepted, ?_⟩
  rw [same]
  rcases spellable with wide | plain
  · cases isText_iff.mp wide
    rw [encode_wide]
    exact congrArg some (Text.ofCodes_codes text)
  · exact decode?_encode unit plain

theorem readText_injective (plain : text.Plain)
    (same : unit.readText (.text text) = unit.readText (.text text')) : text = text' := by
  have read : unit.readText (.text text) = .ok _ := readText_literal.mpr ⟨.inr plain, rfl⟩
  obtain ⟨codes, units, decoded⟩ := readText_decodes read
  obtain ⟨codes', units', decoded'⟩ := readText_decodes (same ▸ read)
  cases units.symm.trans units'
  exact Option.some_inj.mp (decoded.symm.trans decoded')

end Literals

section Standard

theorem toNat_ofNat {point : CodePoint} (plain : point.isSurrogate = false) :
    (Char.ofNat point.val).toNat = point.val := by
  have valid : point.val.isValidChar := by
    have apart := surrogate_free plain
    have reach := point.isLt
    unfold Nat.isValidChar
    omega
  rw [Char.ofNat, dif_pos valid]
  rfl

/-- The bytes of a character are the standard ones. -/
theorem utf8_standard (char : Char) :
    (TextScan.utf8 char.toNat).map UInt8.ofNat = String.utf8EncodeChar char := by
  have reach := CodePoint.toNat_lt char
  unfold String.utf8EncodeChar
  rw [Char.toNat_val]
  generalize char.toNat = code at reach
  have last : code % 64 + 128 = 0x80 + code % 0x40 := Nat.add_comm _ _
  have middle : code / 64 % 64 + 128 = 0x80 + code / 0x40 % 0x40 := Nat.add_comm _ _
  have upper : code / 4096 % 64 + 128 = 0x80 + code / 0x1000 % 0x40 := Nat.add_comm _ _
  rcases utf8_cases code with ⟨high, own⟩ | ⟨low, high, own⟩ | ⟨low, high, own⟩ | ⟨low, own⟩
  · rw [own, if_pos (by omega)]
    rfl
  · have lead : code / 64 % 32 + 192 = 0xC0 + code / 0x40 := by omega
    rw [own, if_neg (by omega), if_pos (by omega), lead, last]
    rfl
  · have lead : code / 4096 % 16 + 224 = 0xE0 + code / 0x1000 := by omega
    rw [own, if_neg (by omega), if_neg (by omega), if_pos (by omega), lead, middle, last]
    rfl
  · have lead : code / 262144 % 8 + 240 = 0xF0 + code / 0x40000 := by omega
    rw [own, if_neg (by omega), if_neg (by omega), if_neg (by omega), lead, upper, middle, last]
    rfl

theorem encode_standard {text : Text} {string : String} (shown : text.toString? = some string) :
    (narrow.encode text).map UInt8.ofNat = string.toUTF8.data.toList := by
  unfold Text.toString? at shown
  split at shown
  · cases shown
  · rename_i free
    cases shown
    have plain := Text.plain_iff.mpr (Bool.eq_false_iff.mpr free)
    rw [String.toUTF8_eq_toByteArray, String.toByteArray_ofList, List.utf8Encode,
      List.toList_data_toByteArray, List.flatMap_map, encode, List.map_flatMap]
    refine List.flatMap_congr fun point member => ?_
    rw [← utf8_standard, toNat_ofNat (plain point member)]
    rfl

/-- Coercion is a normal form. What a unit accepts as a text becomes a text of its own type, of
units in range, that it takes as it is; a character is a text of one unit. Literals are spelled in
the standard encoding: none but surrogates are refused, and those by number units with a unit error;
joined literals are spelled side by side, different ones differently, and each is read back. -/
theorem coercion_sound (unit : CharUnit) :
    (∀ value result, unit.readText value = .ok result → unit.Normal result) ∧
    (∀ value char, unit.readChar value = .ok char ↔
      ∃ result, unit.readText value = .ok result ∧ result.elements? = some [char]) ∧
    (∀ text : Text, (∃ cause, unit.readText (.text text) = .error cause) ↔
      unit ≠ .wide ∧ ∃ point ∈ text, point.isSurrogate = true) ∧
    (∀ (text : Text) cause, unit.readText (.text text) = .error cause →
      (Fault.unit (some unit) cause).kind = .unit) ∧
    (∀ (text text' : Text) result, unit.readText (.text (text ++ text')) = .ok result ↔
      ∃ first second, unit.readText (.text text) = .ok first ∧
        unit.readText (.text text') = .ok second ∧
        Session.joinedValue first second = .ok result) ∧
    (∀ text text' : Text, text.Plain → text'.Plain →
      unit.readText (.text text) = unit.readText (.text text') → text = text') ∧
    (∀ (text : Text) result, unit.readText (.text text) = .ok result →
      ∃ codes, unit.text result = .ok codes ∧ unit.decode? codes = some text) ∧
    (unit = .narrow → ∀ (text : Text) string, text.toString? = some string →
      unit.readText (.text text) = .ok (.bytes string.toUTF8.data.toList)) := by
  refine ⟨fun _ _ => readText_normal, fun _ _ => readChar_iff, ?_, ?_,
    fun _ _ _ => readText_append, fun _ _ plain _ => readText_injective plain,
    fun _ _ => readText_decodes, ?_⟩
  · intro text
    constructor
    · rintro ⟨cause, refused⟩
      exact (readText_refuses.mp refused).1
    · intro spoilt
      exact ⟨.surrogate text, readText_refuses.mpr ⟨spoilt, rfl⟩⟩
  · intro text cause refused
    cases (readText_refuses.mp refused).2
    rfl
  · rintro rfl text string shown
    have plain : text.Plain := by
      rw [Text.plain_iff, ← Bool.not_eq_true]
      intro spoilt
      rw [Text.toString?, if_pos spoilt] at shown
      cases shown
    rw [← encode_standard shown]
    exact readText_literal.mpr ⟨.inr plain, rfl⟩

/-- A pair of surrogates spells a character beyond the first 65536, after a letter of its own. Truth
values are kept among numbers, and a lone surrogate is refused. -/
theorem coercion_sound_pair :
    let text : Text := Text.ofCodes [0x61, 0x1F600]
    utf16.Normal (.tuple [.int 0x61, .int 0xD83D, .int 0xDE00]) ∧
      utf16.readChar (.list [.bool true]) = .ok (.bool true) ∧
      (∃ cause, utf16.readText (.text (Text.ofCodes [0xD83D])) = .error cause) ∧
      ∃ codes, utf16.text (.tuple [.int 0x61, .int 0xD83D, .int 0xDE00]) = .ok codes ∧
        utf16.decode? codes = some text := by
  intro text
  obtain ⟨normal, chars, refused, -, -, -, decoded, -⟩ := coercion_sound utf16
  have read : utf16.readText (.text text) =
      .ok (.tuple [.int 0x61, .int 0xD83D, .int 0xDE00]) := rfl
  exact ⟨normal _ _ read, (chars _ _).mpr ⟨.tuple [.bool true], rfl, rfl⟩,
    (refused _).mpr ⟨nofun, 0xD83D, by decide, by decide⟩, decoded _ _ read⟩

end Standard

end CharUnit

end TextScan
