import TextScan.Proofs.Transcription
import TextScan.Proofs.Agreement

/-! What an operation answers about a text in code points, and about the units that spell it:
the same truth value or nothing, and windows that end at the same code points. Texts may be
any that every unit can spell; sets of characters and tests are made of ASCII, whose
characters are one unit everywhere. -/

namespace TextScan

open Scan

def Text.Ascii (text : Text) : Prop := ∀ point ∈ text, point.val < 0x80

namespace Value

/-- A text that every unit can spell. -/
def Plain : Value → Prop
  | .text given => given.Plain
  | _ => False

def AsciiText : Value → Prop
  | .text given => given.Ascii
  | _ => False

def AsciiChars : Value → Prop
  | .set members => ∀ member ∈ members, member.AsciiText
  | .frozenSet members => ∀ member ∈ members, member.AsciiText
  | value => value.AsciiText

theorem AsciiChars.spent {value : Value} (ascii : value.AsciiChars) :
    value.spentAsChars.AsciiChars := by
  have each {members : List Value} (ascii : ∀ member ∈ members, member.AsciiText) :
      ∀ member ∈ members.map Value.spent, AsciiText member := by
    intro member inside
    obtain ⟨former, present, rfl⟩ := List.mem_map.mp inside
    have held := ascii former present
    cases former with
    | text given => exact held
    | _ => exact held.elim
  cases value with
  | set members => exact each ascii
  | frozenSet members => exact each ascii
  | text given => exact ascii
  | _ => exact ascii.elim

end Value

/-- A test built from ASCII characters alone. -/
def CharTest.Ascii : CharTest Value → Prop
  | .oneOf codes => ∀ code ∈ codes, code < 0x80
  | .noneOf codes => ∀ code ∈ codes, code < 0x80
  | .negate test => test.Ascii
  | _ => True

/-- A target to stop at: ASCII characters, an ASCII test, or a text. -/
def Stopping.Portable (stopping : Stopping) (target : Value) : Prop :=
  if stopping.anyOf then target.AsciiChars
  else match target.test? with
    | some test => test.Ascii
    | none => target.Plain

/-- Operations that do not count units, on arguments that mean the same in every unit. -/
def Operation.Portable (environment : Environment) : Operation → Prop
  | .isEmpty => True
  | .truth => True
  | .copy => True
  | .startsWith sought => sought.Plain
  | .startsWithAny chars => chars.AsciiChars
  | .endsWith sought => sought.Plain
  | .endsWithAny chars => chars.AsciiChars
  | .consume char => char.AsciiText
  | .takeTo stopping target => stopping.Portable target
  | .dropTo stopping target => stopping.Portable target
  | .takeDelimited delimiter => delimiter.Plain
  | .takeDelimitedAny delimiters => delimiters.AsciiChars
  | .trim chars => (environment.trimmed chars).AsciiChars
  | .trimFront chars => (environment.trimmed chars).AsciiChars
  | .trimBack chars => (environment.trimmed chars).AsciiChars
  | .lines separator =>
    (environment.separating separator).Plain ∧ (environment.separating separator).truth = true
  | _ => False

/-- One cause of a fault, told for each of two units. -/
def UnitFaults (unit : CharUnit) (first second : Fault) : Prop :=
  ∃ cause, first = .unit (some .wide) cause ∧ second = .unit (some unit) cause

section Arguments

variable {unit : CharUnit} {value : Value}

theorem CharClass.contains_beyond (charClass : CharClass) {code : Int} (beyond : 0x80 ≤ code) :
    charClass.contains code = false := by
  cases charClass <;>
    simp only [contains, between, Bool.or_eq_false_iff, Bool.and_eq_false_iff,
      decide_eq_false_iff_not, beq_eq_false_iff_ne] <;> omega

theorem CharTest.Ascii.coarse {test : CharTest Value} (ascii : test.Ascii) :
    Coarse fun code => test.holds Value.truth code := by
  have absent {codes : List Int} (small : ∀ code ∈ codes, code < 0x80) {code : Nat}
      (beyond : 0x80 ≤ code) : codes.contains (code : Int) = false := by
    rw [Bool.eq_false_iff, ne_eq, List.contains_iff_mem]
    intro member
    have bound := small _ member
    omega
  intro code other beyond beyond'
  induction test with
  | inClass charClass =>
    have first : charClass.contains code = false := charClass.contains_beyond (by omega)
    have second : charClass.contains other = false := charClass.contains_beyond (by omega)
    exact first.trans second.symm
  | oneOf codes => exact (absent ascii beyond).trans (absent ascii beyond').symm
  | noneOf codes =>
    exact congrArg (!·) ((absent ascii beyond).trans (absent ascii beyond').symm)
  | negate test ih => exact congrArg (!·) (ih ascii)
  | ownCode =>
    have true' {code : Nat} (beyond : 0x80 ≤ code) : ((code : Int) != 0) = true := by
      rw [bne_iff_ne]
      omega
    exact (true' beyond).trans (true' beyond').symm
  | constant answer => rfl

theorem CharUnit.text_plain (unit : CharUnit) {text : Text} (plain : text.Plain) :
    unit.text (.text text) = .ok (unit.encode text) := by
  have none := Text.plain_iff.mp plain
  simp only [CharUnit.text, literal, encode?, none, Bool.and_false, Bool.false_eq_true, if_false]

theorem CharUnit.text_ascii (unit : CharUnit) {text : Text} (ascii : text.Ascii) :
    unit.text (.text text) = .ok text.codes := by
  have plain : text.Plain := by
    intro point member
    have small := ascii point member
    simp only [CodePoint.isSurrogate, Bool.and_eq_false_iff, decide_eq_false_iff_not]
    omega
  rw [text_plain unit plain, encode_ascii unit ascii]

theorem Text.Ascii.codes {text : Text} (ascii : text.Ascii) : ∀ code ∈ text.codes, code < 0x80 := by
  intro code member
  obtain ⟨point, inside, rfl⟩ := List.mem_map.mp member
  exact ascii point inside

theorem CharUnit.char_ascii (unit : CharUnit) (ascii : value.AsciiText) :
    unit.char value = wide.char value ∧ ∀ code, wide.char value = .ok code → code < 0x80 := by
  cases value with
  | text given =>
    have small := Text.Ascii.codes ascii
    have read (unit : CharUnit) := text_ascii unit ascii
    refine ⟨?_, ?_⟩
    · rw [CharUnit.char, CharUnit.char, read, read]
    · intro code found
      rw [CharUnit.char, read] at found
      generalize given.codes = codes at small found
      match codes, found with
      | [single], found =>
        cases found
        exact small _ List.mem_cons_self
  | _ => exact ascii.elim

theorem CharUnit.chars_ascii (unit : CharUnit) {members : List Value}
    (ascii : ∀ member ∈ members, member.AsciiText) :
    members.mapM unit.char = members.mapM wide.char ∧
      ∀ codes, members.mapM wide.char = .ok codes → ∀ code ∈ codes, code < 0x80 := by
  induction members with
  | nil =>
    refine ⟨rfl, ?_⟩
    intro codes found
    cases found
    nofun
  | cons member members ih =>
    obtain ⟨same, small⟩ := char_ascii unit (ascii member List.mem_cons_self)
    obtain ⟨others, each⟩ := ih fun other inside => ascii other (List.mem_cons_of_mem _ inside)
    rw [List.mapM_cons, List.mapM_cons, same, others]
    refine ⟨rfl, ?_⟩
    intro codes found
    cases first : wide.char member with
    | error cause =>
      rw [first] at found
      cases found
    | ok code =>
      cases rest : members.mapM wide.char with
      | error cause =>
        rw [first, rest] at found
        cases found
      | ok codes =>
        rw [first, rest] at found
        cases found
        exact List.forall_mem_cons.mpr ⟨small code first, each codes rest⟩

theorem CharUnit.charset_ascii (unit : CharUnit) (ascii : value.AsciiChars) :
    unit.charset value = wide.charset value ∧
      ∀ codes, wide.charset value = .ok codes → ∀ code ∈ codes, code < 0x80 := by
  cases value with
  | set members => exact chars_ascii unit ascii
  | frozenSet members => exact chars_ascii unit ascii
  | text given =>
    have read (unit : CharUnit) : unit.charset (.text given) = .ok given.codes :=
      text_ascii unit ascii
    rw [read, read]
    refine ⟨rfl, ?_⟩
    intro codes found
    cases found
    exact Text.Ascii.codes ascii
  | _ => exact ascii.elim

end Arguments

section Coercions

variable {unit : CharUnit} {value : Value}

/-- A coercion that says the same for two units. -/
theorem coerce_same {α : Type} (unit : CharUnit) (result : Except UnitFault α) {holds : α → Prop}
    (answers : ∀ answer, result = .ok answer → holds answer) :
    Agree (UnitFaults unit) (fun answer answer' => answer = answer' ∧ holds answer)
      (Content.coerce .wide result) (Content.coerce unit result) := by
  cases result with
  | error cause => exact .fault ⟨cause, rfl, rfl⟩
  | ok answer => exact .done ⟨rfl, answers answer rfl⟩

theorem coerce_charset (unit : CharUnit) (ascii : value.AsciiChars) :
    Agree (UnitFaults unit) (fun chars chars' => chars = chars' ∧ ∀ code ∈ chars, code < 0x80)
      (Content.coerce .wide (CharUnit.wide.charset value))
      (Content.coerce unit (unit.charset value)) := by
  obtain ⟨same, small⟩ := unit.charset_ascii ascii
  rw [same]
  exact coerce_same unit _ small

theorem coerce_char (unit : CharUnit) (ascii : value.AsciiText) :
    Agree (UnitFaults unit) (fun code code' => code = code' ∧ code < 0x80)
      (Content.coerce .wide (CharUnit.wide.char value))
      (Content.coerce unit (unit.char value)) := by
  obtain ⟨same, small⟩ := unit.char_ascii ascii
  rw [same]
  exact coerce_same unit _ small

theorem coerce_text (unit : CharUnit) (plain : value.Plain) :
    Agree (UnitFaults unit)
      (fun codes codes' => ∃ sought : Text, value = .text sought ∧ sought.Plain ∧
        codes = sought.codes ∧ codes' = unit.encode sought)
      (Content.coerce .wide (CharUnit.wide.text value))
      (Content.coerce unit (unit.text value)) := by
  cases value with
  | text given =>
    rw [CharUnit.text_plain unit plain, CharUnit.text_plain .wide plain, CharUnit.encode_wide]
    exact .done ⟨given, rfl, plain, rfl, rfl⟩
  | _ => exact plain.elim

end Coercions

/-- Answers about a text and about its units: one truth value or nothing, windows that end at
the same code points, lines between the same separators, or the stream itself. -/
inductive SameReply (unit : CharUnit) (text : Text) : Reply → Reply → Prop where
  | nothing : SameReply unit text (.value .null) (.value .null)
  | truth (answer : Bool) : SameReply unit text (.value (.bool answer)) (.value (.bool answer))
  | window {span span' : Span} (same : SameSpan unit text span span') :
    SameReply unit text (.window span) (.window span')
  | lines {separator : Text} (plain : separator.Plain) (nonempty : separator ≠ [])
      (forms forms' : List NumberForm) :
    SameReply unit text (.lines separator.codes forms) (.lines (unit.encode separator) forms')
  | itself : SameReply unit text .itself .itself

abbrev Translated (unit : CharUnit) (text : Text) :
    Except Fault (Reply × Span) → Except Fault (Reply × Span) → Prop :=
  Agree (UnitFaults unit) fun said said' =>
    SameReply unit text said.1 said'.1 ∧ SameSpan unit text said.2 said'.2

section Replies

variable {unit : CharUnit} {text : Text} {value : Value} {environment : Environment}

theorem sameSpan_between (unit : CharUnit) {low high : Nat} (ordered : low ≤ high)
    (inside : high ≤ text.length) :
    SameSpan unit text ⟨low, high⟩ ⟨unit.reach text low, unit.reach text high⟩ :=
  ⟨ordered, inside, rfl, rfl⟩

theorem sameSpan_from (unit : CharUnit) {low : Nat} (inside : low ≤ text.length) :
    SameSpan unit text ⟨low, text.codes.length⟩
      ⟨unit.reach text low, (unit.encode text).length⟩ := by
  rw [Text.length_codes]
  exact ⟨inside, Nat.le_refl _, rfl, (CharUnit.reach_all unit (Nat.le_refl _)).symm⟩

theorem sameSpan_whole (unit : CharUnit) (text : Text) :
    SameSpan unit text (Content.whole text.codes) (Content.whole (unit.encode text)) :=
  sameSpan_from unit (Nat.zero_le _)

theorem Translated.done {reply reply' : Reply} {span span' : Span}
    (said : SameReply unit text reply reply') (left : SameSpan unit text span span') :
    Translated unit text (.ok (reply, span)) (.ok (reply', span')) := Agree.done ⟨said, left⟩

theorem Translated.truth (unit : CharUnit) (text : Text) (answer : Bool) :
    Translated unit text (.ok (.value (.bool answer), Content.whole text.codes))
      (.ok (.value (.bool answer), Content.whole (unit.encode text))) :=
  .done (.truth answer) (sameSpan_whole unit text)

theorem Translated.nothing (unit : CharUnit) (text : Text) :
    Translated unit text (.ok (.value .null, Content.whole text.codes))
      (.ok (.value .null, Content.whole (unit.encode text))) :=
  .done .nothing (sameSpan_whole unit text)

/-- A stop in a text and in its units. -/
def SameStop (unit : CharUnit) (text : Text) (stop stop' : Option Nat) : Prop :=
  (∀ offset, stop = some offset → offset ≤ text.length) ∧ stop' = stop.map (unit.reach text)

theorem sameStop_where (unit : CharUnit) (plain : text.Plain) {test : Nat → Bool}
    (coarse : Coarse test) :
    SameStop unit text (findWhere? test text.codes) (findWhere? test (unit.encode text)) := by
  refine ⟨?_, findWhere?_encode unit coarse plain⟩
  intro offset found
  rw [← Text.length_codes]
  exact Nat.le_of_lt (findWhere?_lt found)

theorem stop?_translated (unit : CharUnit) (plain : text.Plain) {stopping : Stopping}
    (portable : stopping.Portable value) :
    Agree (UnitFaults unit) (SameStop unit text)
      (Content.stop? .wide text.codes stopping value)
      (Content.stop? unit (unit.encode text) stopping value) := by
  have bne {test : Nat → Bool} (coarse : Coarse test) (expected : Bool) :
      Coarse fun code => test code != expected :=
    fun code other beyond beyond' => congrArg (· != expected) (coarse code other beyond beyond')
  unfold Stopping.Portable at portable
  unfold Content.stop?
  by_cases anyOf : stopping.anyOf = true
  · rw [if_pos anyOf] at portable
    rw [if_pos anyOf, if_pos anyOf]
    refine (coerce_charset unit portable).bind fun chars chars' same => ?_
    obtain ⟨rfl, ascii⟩ := same
    exact .done (sameStop_where unit plain (bne (coarse_contains ascii) _))
  · rw [if_neg anyOf] at portable
    rw [if_neg anyOf, if_neg anyOf]
    cases found : value.test? with
    | some test =>
      rw [found] at portable
      exact .done (sameStop_where unit plain (bne portable.coarse _))
    | none =>
      rw [found] at portable
      refine (coerce_text unit portable).bind fun codes codes' same => ?_
      obtain ⟨sought, -, plain', rfl, rfl⟩ := same
      cases stopping.whileMatching with
      | true =>
        refine .done ⟨?_, afterRepeats?_encode unit plain' plain⟩
        intro offset found
        rw [← Text.length_codes]
        exact afterRepeats?_le found
      | false =>
        refine .done ⟨?_, find?_encode unit plain' plain⟩
        intro offset found
        rw [← Text.length_codes]
        exact find?_le found

/-- What is taken up to a stop, and what is left. -/
theorem takeTo_translated (unit : CharUnit) {stop stop' : Option Nat}
    (same : SameStop unit text stop stop') (orEmpty : Bool) :
    let spans := Content.takeTo text.codes stop orEmpty
    let spans' := Content.takeTo (unit.encode text) stop' orEmpty
    SameSpan unit text spans.1 spans'.1 ∧ SameSpan unit text spans.2 spans'.2 := by
  obtain ⟨inside, rfl⟩ := same
  have cut {offset : Nat} (within : offset ≤ text.length) :
      SameSpan unit text (Content.cutAt text.codes offset).1
          (Content.cutAt (unit.encode text) (unit.reach text offset)).1 ∧
        SameSpan unit text (Content.cutAt text.codes offset).2
          (Content.cutAt (unit.encode text) (unit.reach text offset)).2 :=
    ⟨sameSpan_between unit (Nat.zero_le _) within, sameSpan_from unit within⟩
  cases stop with
  | some offset => exact cut (inside offset rfl)
  | none =>
    cases orEmpty with
    | true =>
      exact ⟨sameSpan_between unit (Nat.zero_le _) (Nat.zero_le _), sameSpan_whole unit text⟩
    | false =>
      have all := cut (Nat.le_refl text.length)
      rw [CharUnit.reach_all unit (Nat.le_refl _), ← Text.length_codes] at all
      exact all

theorem isAnyOf_translated {code code' : Option Nat} (ascii : value.AsciiChars)
    (same : ∀ chars : List Nat, (∀ char ∈ chars, char < 0x80) →
      code'.map chars.contains = code.map chars.contains) :
    Agree (UnitFaults unit) (· = ·) (Content.isAnyOf .wide code value)
      (Content.isAnyOf unit code' value) := by
  cases code with
  | none =>
    cases code' with
    | none => exact .done rfl
    | some code' => cases same [] nofun
  | some code =>
    cases code' with
    | none => cases same [] nofun
    | some code' =>
      refine (coerce_charset unit ascii).bind fun chars chars' equal => ?_
      obtain ⟨rfl, small⟩ := equal
      exact .done (Option.some.inj (same chars small)).symm

theorem isEmpty_encode (unit : CharUnit) (plain : text.Plain) :
    (unit.encode text).isEmpty = text.codes.isEmpty := by
  rw [Bool.eq_iff_iff, List.isEmpty_iff, List.isEmpty_iff, CharUnit.encode_eq_nil plain,
    Text.codes_eq_nil]

theorem head?_encode (unit : CharUnit) (plain : text.Plain) {code : Nat} (small : code < 0x80) :
    (unit.encode text).head? = some code ↔ text.codes.head? = some code := by
  have ascii : ∀ char ∈ [code], char < 0x80 := by simpa using small
  have same := head?_contains unit plain ascii
  have told (first : Option Nat) :
      first = some code ↔ first.map [code].contains = some true := by
    cases first with
    | none => simp
    | some first => simp
  rw [told, told, same]

theorem reach_ascii (unit : CharUnit) {place code : Nat} (small : code < 0x80)
    (there : text.codes[place]? = some code) :
    place < text.length ∧ unit.reach text (place + 1) = unit.reach text place + 1 := by
  have inside := (List.getElem?_eq_some_iff.mp there).1
  rw [Text.length_codes] at inside
  refine ⟨inside, ?_⟩
  rw [Text.codes, List.getElem?_map, List.getElem?_eq_getElem inside, Option.map_some,
    Option.some_inj] at there
  rw [CharUnit.reach_add, List.drop_eq_getElem_cons inside, CharUnit.reach_succ,
    CharUnit.spell_ascii unit (there ▸ small)]
  rfl

theorem trimFront_le (content : List Nat) (test : Nat → Bool) :
    Content.trimFront content test ≤ content.length := by
  unfold Content.trimFront
  cases found : findWhere? (fun code => !test code) content with
  | none => exact Nat.le_refl _
  | some offset => exact Nat.le_of_lt (findWhere?_lt found)

/-- Between delimiters of one text, and behind them. -/
theorem delimited_translated (unit : CharUnit) {sought : Text} {size : Nat}
    (found : delimited? sought.codes text.codes = some size) :
    let inside := sought.codes.length
    let inside' := (unit.encode sought).length
    let size' := unit.reach (text.drop sought.length) size
    SameSpan unit text ⟨inside, inside + size⟩ ⟨inside', inside' + size'⟩ ∧
      SameSpan unit text ⟨inside + size + inside, text.codes.length⟩
        ⟨inside' + size' + inside', (unit.encode text).length⟩ := by
  have fits := delimited?_fits found
  rw [Text.length_codes, Text.length_codes] at fits
  unfold delimited? at found
  split at found
  · rename_i opens
    have opened := unit.reach_front (Text.codes_front.mp opens.2)
    rw [Text.length_codes, ← Text.codes_drop] at found
    have closes := reach_found unit found
    dsimp only
    rw [Text.length_codes, ← opened, Nat.add_assoc _ _ (unit.reach text sought.length), opened,
      closes, ← opened, ← CharUnit.reach_add, ← CharUnit.reach_add, ← Nat.add_assoc]
    exact ⟨sameSpan_between unit (Nat.le_add_right _ _) (by omega), sameSpan_from unit fits⟩
  · cases found

theorem enclosed_translated (unit : CharUnit) {chars : List Nat}
    (ascii : ∀ code ∈ chars, code < 0x80) {size : Nat}
    (found : enclosed? chars text.codes = some size) :
    let size' := unit.reach (text.drop 1) size
    SameSpan unit text ⟨1, 1 + size⟩ ⟨1, 1 + size'⟩ ∧
      SameSpan unit text ⟨1 + size + 1, text.codes.length⟩
        ⟨1 + size' + 1, (unit.encode text).length⟩ := by
  have fits := enclosed?_fits found
  rw [Text.length_codes] at fits
  unfold enclosed? at found
  split at found
  · cases found
  · rename_i opening rest codes
    split at found
    · rename_i member
      have small := ascii opening member
      have first : text.codes[0]? = some opening := by rw [codes]; rfl
      have last : text.codes[1 + size]? = some opening := by
        obtain ⟨reached, same, -⟩ := List.findIdx?_eq_some_iff_getElem.mp found
        rw [codes, Nat.add_comm, List.getElem?_cons_succ, List.getElem?_eq_getElem reached,
          beq_iff_eq.mp same]
      obtain ⟨-, one⟩ := reach_ascii unit small first
      obtain ⟨inside, next⟩ := reach_ascii unit small last
      rw [CharUnit.reach_zero, Nat.zero_add] at one
      have inner : 1 + unit.reach (text.drop 1) size = unit.reach text (1 + size) := by
        rw [CharUnit.reach_add, one]
      dsimp only
      rw [inner, ← next]
      have whole := sameSpan_between unit (Nat.le_add_right 1 size) (Nat.le_of_lt inside)
      rw [one] at whole
      exact ⟨whole, sameSpan_from unit inside⟩
    · cases found

/-- An operation answers the same about a text and about its units, and leaves the same. -/
theorem reply_translated (sequence sequence' : Sequence) (unit : CharUnit) (plain : text.Plain) {operation : Operation}
    (portable : operation.Portable environment) :
    Translated unit text (Content.reply sequence environment .wide text.codes operation)
      (Content.reply sequence' environment unit (unit.encode text) operation) := by
  cases operation with
  | isEmpty =>
    dsimp only [Content.reply]
    rw [isEmpty_encode unit plain]
    exact Translated.truth unit text _
  | truth =>
    dsimp only [Content.reply]
    rw [isEmpty_encode unit plain]
    exact Translated.truth unit text _
  | copy => exact .done (.window (sameSpan_whole unit text)) (sameSpan_whole unit text)
  | startsWith sought =>
    refine (coerce_text unit portable).bind fun codes codes' same => ?_
    obtain ⟨needle, -, plain', rfl, rfl⟩ := same
    rw [encode_isPrefixOf unit plain' plain]
    exact Translated.truth unit text _
  | endsWith sought =>
    refine (coerce_text unit portable).bind fun codes codes' same => ?_
    obtain ⟨needle, -, plain', rfl, rfl⟩ := same
    rw [encode_isSuffixOf unit plain' plain]
    exact Translated.truth unit text _
  | startsWithAny chars =>
    refine (isAnyOf_translated portable fun chars ascii => ?_).bind fun answer answer' same => ?_
    · exact head?_contains unit plain ascii
    · cases same
      exact Translated.truth unit text answer
  | endsWithAny chars =>
    refine (isAnyOf_translated portable fun chars ascii => ?_).bind fun answer answer' same => ?_
    · exact getLast?_contains unit plain ascii
    · cases same
      exact Translated.truth unit text answer
  | consume char =>
    refine (coerce_char unit portable).bind fun code code' same => ?_
    obtain ⟨rfl, small⟩ := same
    by_cases first : text.codes.head? = some code
    · rw [if_pos first, if_pos ((head?_encode unit plain small).mpr first)]
      rw [List.head?_eq_getElem?] at first
      obtain ⟨inside, one⟩ := reach_ascii unit small first
      have left := sameSpan_from unit inside
      rw [Nat.succ_eq_add_one, one, CharUnit.reach_zero] at left
      exact Translated.done (.truth true) left
    · rw [if_neg first, if_neg fun other => first ((head?_encode unit plain small).mp other)]
      exact Translated.truth unit text false
  | takeTo stopping target =>
    refine (stop?_translated unit plain portable).bind fun stop stop' same => ?_
    obtain ⟨taken, left⟩ := takeTo_translated unit same stopping.orEmpty
    exact Translated.done (.window taken) left
  | dropTo stopping target =>
    refine (stop?_translated unit plain portable).bind fun stop stop' same => ?_
    obtain ⟨-, left⟩ := takeTo_translated unit same stopping.orEmpty
    exact Translated.done .itself left
  | takeDelimited delimiter =>
    refine (coerce_text unit portable).bind fun codes codes' same => ?_
    obtain ⟨needle, -, plain', rfl, rfl⟩ := same
    rw [delimited?_encode unit plain' plain]
    cases found : delimited? needle.codes text.codes with
    | none => exact Translated.nothing unit text
    | some size =>
      obtain ⟨inside, left⟩ := delimited_translated unit found
      exact Translated.done (.window inside) left
  | takeDelimitedAny delimiters =>
    dsimp only [Content.reply]
    rw [isEmpty_encode unit plain]
    split
    · exact Translated.nothing unit text
    · refine (coerce_charset unit portable).bind fun chars chars' same => ?_
      obtain ⟨rfl, ascii⟩ := same
      rw [enclosed?_encode unit ascii plain]
      cases found : enclosed? chars text.codes with
      | none => exact Translated.nothing unit text
      | some size =>
        obtain ⟨inside, left⟩ := enclosed_translated unit ascii found
        exact Translated.done (.window inside) left
  | trim chars =>
    refine (coerce_charset unit portable).bind fun front front' same => ?_
    obtain ⟨rfl, ascii⟩ := same
    refine (coerce_charset unit (Value.AsciiChars.spent portable)).bind fun back back' same => ?_
    obtain ⟨rfl, ascii'⟩ := same
    rw [trimFront_encode unit (coarse_contains ascii) plain, CharUnit.encode_drop,
      trimBack_encode unit (coarse_contains ascii') (plain.drop _), ← CharUnit.reach_add,
      Text.codes_drop]
    have low := trimFront_le text.codes front.contains
    have high := trimBack_le (text.codes.drop (Content.trimFront text.codes front.contains))
      back.contains
    rw [List.length_drop] at high
    rw [Text.length_codes] at low high
    exact Translated.done .itself (sameSpan_between unit (Nat.le_add_right _ _) (by omega))
  | trimFront chars =>
    refine (coerce_charset unit portable).bind fun chars chars' same => ?_
    obtain ⟨rfl, ascii⟩ := same
    have low := trimFront_le text.codes chars.contains
    rw [Text.length_codes] at low
    rw [trimFront_encode unit (coarse_contains ascii) plain]
    exact Translated.done .itself (sameSpan_from unit low)
  | trimBack chars =>
    refine (coerce_charset unit portable).bind fun chars chars' same => ?_
    obtain ⟨rfl, ascii⟩ := same
    have high := trimBack_le text.codes chars.contains
    rw [Text.length_codes] at high
    rw [trimBack_encode unit (coarse_contains ascii) plain]
    exact Translated.done .itself (sameSpan_between unit (Nat.zero_le _) high)
  | lines separator =>
    obtain ⟨plain', full⟩ := portable
    refine (coerce_text unit plain').bind fun codes codes' same => ?_
    obtain ⟨sought, given, plain', rfl, rfl⟩ := same
    have nonempty : sought ≠ [] := by
      rintro rfl
      rw [given] at full
      cases full
    exact Translated.done (.lines plain' nonempty _ _) (sameSpan_whole unit text)
  | _ => exact portable.elim

end Replies

end TextScan
