import TextScan.Proofs.Independence
import TextScan.Proofs.Widths

namespace TextScan

open Scan

/-- Requests on arguments that mean the same in every unit. Streams are compared for equality
with a text. -/
def Request.Portable (environment : Environment) : Request → Prop
  | .perform operation => operation.Portable environment
  | .compare relation _ operand => (relation = .eq ∨ relation = .ne) ∧ operand.Plain
  | .part _ _ => False

section Spans

variable {unit : CharUnit} {text : Text} {span span' inner inner' : Span}

def Text.part (text : Text) (span : Span) : Text :=
  (text.drop span.low).take (span.high - span.low)

theorem CharUnit.reach_part (unit : CharUnit) (text : Text) {span : Span} {count : Nat}
    (inside : count ≤ span.high - span.low) :
    unit.reach text span.low + unit.reach (text.part span) count =
      unit.reach text (span.low + count) := by
  rw [reach_add, reach, reach, reach, Text.part, List.take_take, Nat.min_eq_left inside]

theorem Scan.SameSpan.encode_part (same : SameSpan unit text span span') :
    ((unit.encode text).drop span'.low).take (span'.high - span'.low) =
      unit.encode (text.part span) := by
  obtain ⟨size, high⟩ := Nat.exists_eq_add_of_le same.ordered
  rw [same.low, same.high, CharUnit.encode_drop, high, CharUnit.reach_add, Nat.add_sub_cancel_left,
    CharUnit.encode_take, Text.part, high, Nat.add_sub_cancel_left]

theorem Scan.SameSpan.within (same : SameSpan unit text span span')
    (part : SameSpan unit (text.part span) inner inner') :
    SameSpan unit text ⟨span.low + inner.low, span.low + inner.high⟩
      ⟨span'.low + inner'.low, span'.low + inner'.high⟩ := by
  have reach := part.inside
  have length : (text.part span).length = span.high - span.low := by
    have inside := same.inside
    rw [Text.part, List.length_take, List.length_drop]
    omega
  rw [length] at reach
  have ordered := part.ordered
  have whole := same.ordered
  have inside := same.inside
  refine ⟨Nat.add_le_add_left ordered _, ?_, ?_, ?_⟩
  · dsimp only
    omega
  · dsimp only
    rw [same.low, part.low, unit.reach_part text (Nat.le_trans ordered reach)]
  · dsimp only
    rw [same.low, part.high, unit.reach_part text reach]

end Spans

namespace Stream

/-- A window that shows a text in code points, and one that shows its units. -/
structure Spells (first second : Stream) (unit : CharUnit) (text : Text) : Prop where
  plain : text.Plain
  valid : first.Valid
  valid' : second.Valid
  wide : first.unit = .wide
  other : second.unit = unit
  codes : first.content = text.codes
  units : second.content = unit.encode text

/-- Two windows that end at the same code points of a text and of its units. -/
def Stands (first second : Stream) (unit : CharUnit) (text : Text)
    (window window' : Stream) : Prop :=
  ∃ span span', SameSpan unit text span span' ∧ first.On span window ∧ second.On span' window'

variable {unit : CharUnit} {text : Text} {first second window window' : Stream}

/-- The stream over a text, and the stream over its units in whatever holds them. -/
theorem spells_ofBuffer (plain : text.Plain) {buffer : Buffer} (kind : buffer.unit = unit)
    (units : buffer.units = unit.encode text) :
    (ofBuffer (.ofText text)).Spells (ofBuffer buffer) unit text :=
  ⟨plain, ofBuffer_valid _, ofBuffer_valid _, rfl, kind, content_ofBuffer _,
    (content_ofBuffer _).trans units⟩

theorem Spells.whole (spells : first.Spells second unit text) :
    first.Stands second unit text first second := by
  have on := spells.valid.on_whole
  have on' := spells.valid'.on_whole
  rw [spells.codes] at on
  rw [spells.units] at on'
  exact ⟨_, _, sameSpan_whole unit text, on, on'⟩

theorem Spells.on (spells : first.Spells second unit text) {span span' : Span}
    (same : SameSpan unit text span span') (on : first.On span window)
    (on' : second.On span' window') : window.Spells window' unit (text.part span) := by
  refine ⟨?_, on.valid spells.valid, on'.valid spells.valid', ?_, ?_, ?_, ?_⟩
  · exact Text.Plain.take (spells.plain.drop _) _
  · rw [Stream.unit, on.buffer]
    exact spells.wide
  · rw [Stream.unit, on'.buffer]
    exact spells.other
  · rw [on.content spells.valid, spells.codes, Text.part, Text.codes, Text.codes, List.map_take,
      List.map_drop]
  · rw [on'.content spells.valid', spells.units, same.encode_part]

theorem Spells.within (spells : first.Spells second unit text) {span span' : Span}
    (same : SameSpan unit text span span') (on : first.On span window)
    (on' : second.On span' window') {piece piece' : Stream}
    (stands : window.Stands window' unit (text.part span) piece piece') :
    first.Stands second unit text piece piece' := by
  obtain ⟨inner, inner', part, inside, inside'⟩ := stands
  exact ⟨_, _, same.within part, on.within spells.valid inside,
    on'.within spells.valid' inside'⟩

theorem Spells.lines (spells : first.Spells second unit text) {separator : Text}
    (plain : separator.Plain) (nonempty : separator ≠ []) (forms forms' : List NumberForm) :
    List.Forall₂ (first.Stands second unit text)
      (Lines.toList ⟨first, separator.codes, forms⟩)
      (Lines.toList ⟨second, unit.encode separator, forms'⟩) := by
  have own := spells.valid.lines_on separator.codes forms
  have other := spells.valid'.lines_on (unit.encode separator) forms'
  rw [spells.codes] at own
  rw [spells.units] at other
  exact on_pairs (lineSpans_encode unit plain nonempty spells.plain) own other

end Stream

/-- Outcomes of one request: one truth value or nothing, windows that stand alike, lines that
do, or the receivers themselves. -/
inductive SameSaying (alike : Stream → Stream → Prop) : Outcome → Outcome → Prop where
  | nothing : SameSaying alike (.value .null) (.value .null)
  | truth (answer : Bool) : SameSaying alike (.value (.bool answer)) (.value (.bool answer))
  | window {window window' : Stream} (same : alike window window') :
    SameSaying alike (.value (.stream window)) (.value (.stream window'))
  | lines {lines lines' : Lines} (whole : alike lines.stream lines'.stream)
      (pieces : List.Forall₂ alike lines.toList lines'.toList) :
    SameSaying alike (.value (.lines lines)) (.value (.lines lines'))
  | itself : SameSaying alike .itself .itself

/-- Reports of one request made on a text and on its units. -/
structure Translates (unit : CharUnit) (alike : Stream → Stream → Prop)
    (report report' : Report) : Prop where
  receivers : alike report.receiver report'.receiver
  halted : alike report.halted report'.halted
  results : Agree (UnitFaults unit)
    (fun answer answer' => SameSaying alike answer.1 answer'.1 ∧ alike answer.2 answer'.2)
    report.result report'.result

theorem Operation.Portable.hidden {environment : Environment} {operation : Operation}
    (portable : operation.Portable environment) : operation.exposes = false := by
  cases operation with
  | text => exact portable.elim
  | view => exact portable.elim
  | location file => exact portable.elim
  | plain => exact portable.elim
  | shown => exact portable.elim
  | buffer => exact portable.elim
  | _ => rfl

namespace Stream

variable {unit : CharUnit} {text : Text} {first second window window' : Stream}

/-- What two windows answer, from what is said of a text and of its units. -/
theorem Spells.answered (spells : first.Spells second unit text) {reply reply' : Reply}
    {outcome outcome' : Outcome} (same : SameReply unit text reply reply')
    (answered : Answered first reply outcome) (answered' : Answered second reply' outcome') :
    SameSaying (first.Stands second unit text) outcome outcome' := by
  cases same with
  | nothing =>
    cases answered
    cases answered'
    exact .nothing
  | truth answer =>
    cases answered
    cases answered'
    exact .truth answer
  | window span =>
    cases answered with
    | window on =>
      cases answered' with
      | window on' => exact .window ⟨_, _, span, on, on'⟩
  | lines plain nonempty forms forms' =>
    cases answered
    cases answered'
    exact .lines spells.whole (spells.lines plain nonempty forms forms')
  | itself =>
    cases answered
    cases answered'
    exact .itself

/-- A text equals a window in code points if it equals the one in units. -/
theorem Spells.equals_eq (spells : first.Spells second unit text) {given : Text}
    (plain : given.Plain) : first.equals (.text given) = second.equals (.text given) := by
  have stood (stream : Stream) (unit : CharUnit) (own : stream.unit = unit) :
      stream.operand? (.text given) = some (unit.encode given) := by
    unfold operand?
    dsimp only [Value.int?]
    rw [own, CharUnit.text_plain unit plain]
    rfl
  have alone (other : Stream) : Value.text given ≠ .stream other := by
    intro same
    cases same
  rw [spells.valid.equals_eq alone, spells.valid'.equals_eq alone, stood _ _ spells.wide,
    stood _ _ spells.other, Option.any_some, Option.any_some, decide_eq_decide, spells.codes,
    spells.units, ← CharUnit.encode_wide]
  constructor
  · intro same
    rw [CharUnit.encode_injective plain spells.plain same]
  · intro same
    rw [CharUnit.encode_injective plain spells.plain same]

theorem Spells.comparison_eq (spells : first.Spells second unit text) {given : Text}
    (plain : given.Plain) {relation : Relation} (equality : relation = .eq ∨ relation = .ne)
    (swapped : Bool) : ∃ answer, first.comparison relation swapped (.text given) = .ok answer ∧
      second.comparison relation swapped (.text given) = .ok answer := by
  have equal := spells.equals_eq plain
  have read (stream : Stream) : stream.checkRead (.text given) = .ok () := by
    refine checkRead_ok fun obstacle => ?_
    rw [CharUnit.text_plain _ plain]
    nofun
  have same (stream : Stream) :
      stream.comparison .eq swapped (.text given) = .ok (stream.equals (.text given)) := by
    cases swapped with
    | false => simp only [comparison, Value.compare, compare, read]; rfl
    | true => simp only [comparison, Value.compare, compareFrom, read]; rfl
  have other (stream : Stream) :
      stream.comparison .ne swapped (.text given) = .ok (!stream.equals (.text given)) := by
    cases swapped with
    | false => simp only [comparison, Value.compare, compare, read]; rfl
    | true => simp only [comparison, Value.compare, compareFrom, read]; rfl
  rcases equality with rfl | rfl
  · exact ⟨first.equals (.text given), same first, (same second).trans (by rw [equal])⟩
  · exact ⟨!first.equals (.text given), other first, (other second).trans (by rw [equal])⟩

/-- Two windows, one of a text and one of its units, answer every portable request alike. -/
theorem Spells.react (spells : first.Spells second unit text) {environment : Environment}
    {request : Request} (portable : request.Portable environment) :
    Agree (UnitFaults unit)
      (fun answer answer' => SameSaying (first.Stands second unit text) answer.1 answer'.1 ∧
        first.Stands second unit text answer.2 answer'.2)
      (first.react environment request) (second.react environment request) := by
  cases request with
  | part start stop => exact portable.elim
  | compare relation swapped operand =>
    obtain ⟨equality, plain⟩ := portable
    cases operand with
    | text given =>
      obtain ⟨answer, own, other⟩ := spells.comparison_eq plain equality swapped
      dsimp only [Stream.react]
      rw [own, other]
      exact .done ⟨.truth answer, spells.whole⟩
    | _ => exact plain.elim
  | perform operation =>
    have own := spells.valid.perform_agrees environment portable.hidden
    have other := spells.valid'.perform_agrees environment portable.hidden
    have same := reply_translated first.sequence second.sequence unit spells.plain portable
    rw [spells.wide, spells.codes] at own
    rw [spells.other, spells.units] at other
    refine (same.across own other ?_).imp fun answer answer' both => ?_
    · rintro fault fault' here there ⟨cause, rfl, rfl⟩ left right
      exact ⟨cause, left.symm, right.symm⟩
    · obtain ⟨said, said', ⟨reply, span⟩, ⟨answered, left⟩, answered', left'⟩ := both
      exact ⟨spells.answered reply answered answered', _, _, span, left, left'⟩

/-- A portable request that faults leaves both windows alike. -/
theorem Spells.halted (spells : first.Spells second unit text) {environment : Environment}
    {request : Request} (portable : request.Portable environment) :
    first.Stands second unit text (first.halted environment request)
      (second.halted environment request) := by
  cases request with
  | perform operation =>
    cases operation with
    | trim chars =>
      have trimmed : (Request.perform (.trimFront chars)).Portable environment := portable
      have front := spells.react trimmed
      dsimp only [Stream.react] at front
      dsimp only [Stream.halted]
      generalize first.perform environment (.trimFront chars) = result at front
      generalize second.perform environment (.trimFront chars) = result' at front
      cases front with
      | fault => exact spells.whole
      | done both => exact both.2
    | _ => exact spells.whole
  | _ => exact spells.whole

theorem Spells.report (spells : first.Spells second unit text) {environment : Environment}
    {request : Request} (portable : request.Portable environment) :
    Translates unit (first.Stands second unit text) (first.report environment request)
      (second.report environment request) :=
  ⟨spells.whole, spells.halted portable, spells.react portable⟩

end Stream

theorem SameSaying.windows {alike : Stream → Stream → Prop} {outcome outcome' : Outcome}
    (same : SameSaying alike outcome outcome') :
    List.Forall₂ alike outcome.windows outcome'.windows := by
  cases same with
  | nothing => exact .nil
  | truth answer => exact .nil
  | window same => exact .cons same .nil
  | lines whole pieces => exact pieces
  | itself => exact .nil

theorem Translates.keeps {unit : CharUnit} {alike : Stream → Stream → Prop}
    {report report' : Report} (same : Translates unit alike report report') :
    alike report.rest report'.rest ∧ List.Forall₂ alike report.windows report'.windows := by
  obtain ⟨receiver, result, halted⟩ := report
  obtain ⟨receiver', result', halted'⟩ := report'
  obtain ⟨receivers, left, results⟩ := same
  cases results with
  | fault => exact ⟨left, .nil⟩
  | done both =>
    obtain ⟨sayings, left⟩ := both
    exact ⟨left, sayings.windows⟩

namespace Stream

variable {unit : CharUnit} {text : Text} {first second window window' : Stream}

/-- Windows that stand alike answer alike, and all they answer stands alike in the whole. -/
theorem Spells.report_within (spells : first.Spells second unit text)
    (stands : first.Stands second unit text window window') {environment : Environment}
    {request : Request} (portable : request.Portable environment) :
    Translates unit (first.Stands second unit text) (window.report environment request)
      (window'.report environment request) := by
  obtain ⟨span, span', same, on, on'⟩ := stands
  have own := (spells.on same on on').report portable
  have outward {piece piece' : Stream}
      (inside : window.Stands window' unit (text.part span) piece piece') :
      first.Stands second unit text piece piece' := spells.within same on on' inside
  refine ⟨⟨span, span', same, on, on'⟩, outward own.halted, own.results.imp ?_⟩
  rintro ⟨outcome, rest⟩ ⟨outcome', rest'⟩ ⟨saying, left⟩
  refine ⟨?_, outward left⟩
  cases saying with
  | nothing => exact .nothing
  | truth answer => exact .truth answer
  | window inside => exact .window (outward inside)
  | lines whole pieces =>
    exact .lines (outward whole) (pieces.imp fun piece piece' => outward)
  | itself => exact .itself

end Stream

/-- Runs on a text and on its units go alike: the same calls on the family of a stream that
shows a text in code points, and on that of a stream that shows its units, give the same truth
values, and every window ends at the same code points in both. -/
theorem Family.run_translated {unit : CharUnit} {text : Text} {first second : Stream}
    (spells : first.Spells second unit text) {calls : List Call}
    (portable : ∀ call ∈ calls, call.request.Portable call.environment) :
    List.Forall₂ (Option.Rel (Translates unit (first.Stands second unit text)))
        (run [first] calls).1 (run [second] calls).1 ∧
      List.Forall₂ (first.Stands second unit text) (run [first] calls).2
        (run [second] calls).2 :=
  run_related (fun _ _ => Translates.keeps) (.cons spells.whole .nil)
    fun call member _ _ stands => spells.report_within stands (portable call member)

/-- A letter with an accent, a comma, and a character of four bytes. -/
def accented : Text := Text.ofCodes [0xE9, 0x2C, 0x1F600]

def accentedBytes : Buffer := .ofBytes [0xC3, 0xA9, 0x2C, 0xF0, 0x9F, 0x98, 0x80]

/-- Lines at the comma, the front up to the last character, the second line without letters at
its front, and whether the first line is the letter. -/
def accentedCalls : List Call :=
  let environment : Environment := ⟨.default, "linux"⟩
  [⟨0, environment, .perform (.lines (.text (Text.ofCodes [0x2C])))⟩,
    ⟨0, environment, .perform (.takeTo ⟨false, false, false⟩ (.text (Text.ofCodes [0x1F600])))⟩,
    ⟨2, environment, .perform (.dropTo ⟨true, false, true⟩ (.function (.inClass .letter)))⟩,
    ⟨1, environment, .compare .eq false (.text (Text.ofCodes [0xE9]))⟩]

theorem run_translated_accented :
    let first := Stream.ofBuffer (.ofText accented)
    let second := Stream.ofBuffer accentedBytes
    List.Forall₂ (Option.Rel (Translates .narrow (first.Stands second .narrow accented)))
        (Family.run [first] accentedCalls).1 (Family.run [second] accentedCalls).1 ∧
      List.Forall₂ (first.Stands second .narrow accented) (Family.run [first] accentedCalls).2
        (Family.run [second] accentedCalls).2 := by
  have plain (text : Text) (none : text.hasSurrogate = false) : text.Plain :=
    Text.plain_iff.mpr none
  have spells : (Stream.ofBuffer (.ofText accented)).Spells (Stream.ofBuffer accentedBytes)
      .narrow accented := Stream.spells_ofBuffer (plain accented rfl) rfl rfl
  apply Family.run_translated spells
  intro call member
  simp only [accentedCalls, List.mem_cons, List.not_mem_nil, or_false] at member
  rcases member with rfl | rfl | rfl | rfl
  · exact ⟨plain _ rfl, rfl⟩
  · exact plain _ rfl
  · trivial
  · exact ⟨.inl rfl, plain _ rfl⟩

end TextScan
