import TextScan.Proofs.Family
import TextScan.Proofs.Refusal

/-! What a stream answers depends on the content of its window and on the unit, and on
nothing else: not on where the window lies, on what lies around it, or on what holds it. -/

namespace TextScan

open Scan

/-- A stream that lies in its buffer; of other values nothing is asked. -/
def Value.Placed : Value → Prop
  | .stream window => window.Valid
  | _ => True

theorem Value.Placed.spent {value : Value} (placed : value.Placed) : value.spent.Placed := by
  cases value <;> exact placed

namespace Stream

/-- Windows that hold the same units of one kind. -/
structure Twins (first second : Stream) : Prop where
  valid : first.Valid
  valid' : second.Valid
  unit : first.unit = second.unit
  content : first.content = second.content

/-- Two windows on one span, each of its own stream. -/
def Aligned (first second window window' : Stream) : Prop :=
  ∃ span, first.On span window ∧ second.On span window'

variable {first second : Stream}

theorem Twins.aligned {window window' : Stream} (twins : first.Twins second)
    (aligned : first.Aligned second window window') : window.Twins window' := by
  obtain ⟨span, on, on'⟩ := aligned
  refine ⟨on.valid twins.valid, on'.valid twins.valid', ?_, ?_⟩
  · rw [Stream.unit, Stream.unit, on.buffer, on'.buffer]
    exact twins.unit
  · rw [on.content twins.valid, on'.content twins.valid', twins.content]

theorem Twins.aligned_whole (twins : first.Twins second) : first.Aligned second first second := by
  have on := twins.valid'.on_whole
  rw [← twins.content] at on
  exact ⟨_, twins.valid.on_whole, on⟩

section Comparison

variable {value : Value}

theorem checkRead_ok (clear : ∀ obstacle, first.unit.text value ≠ .error (.blocked obstacle)) :
    first.checkRead value = .ok () := by
  unfold checkRead
  split
  · rename_i obstacle refused
    exact absurd refused (clear obstacle)
  · rfl

theorem checkRead_stream (other : Stream) : first.checkRead (.stream other) = .ok () :=
  checkRead_ok fun _ blocked => nomatch CharUnit.obstacle_of_text blocked

theorem comparison_eq_stream (other : Stream) :
    first.comparison .eq false (.stream other) = .ok (first.equalsStream other) := by
  change first.compare .eq (.stream other) = _
  rw [compare, checkRead_stream]
  rfl

theorem comparison_ne_stream (other : Stream) :
    first.comparison .ne false (.stream other) = .ok (!first.equalsStream other) := by
  change first.compare .ne (.stream other) = _
  rw [compare, checkRead_stream]
  rfl

/-- A value that is no stream equals a stream if it stands for the content. -/
theorem Valid.equals_eq (valid : first.Valid) (alone : ∀ other, value ≠ .stream other) :
    first.equals value =
      (first.operand? value).any fun codes => decide (codes = first.content) := by
  unfold equals
  split
  · rename_i other
    exact absurd rfl (alone other)
  · cases first.operand? value with
    | none => rfl
    | some codes =>
      simp only [valid.startsWith_eq, Option.getD_some, Option.any_some, ← valid.length_content]
      rw [Bool.eq_iff_iff]
      simp only [Bool.and_eq_true, decide_eq_true_eq, List.isPrefixOf_iff_prefix]
      constructor
      · rintro ⟨length, starts⟩
        exact starts.eq_of_length length
      · rintro rfl
        exact ⟨rfl, List.prefix_rfl⟩

theorem Twins.operand?_eq (twins : first.Twins second) :
    first.operand? value = second.operand? value := by
  unfold operand?
  rw [twins.unit]

theorem Twins.equals_eq (twins : first.Twins second) (placed : value.Placed) :
    first.equals value = second.equals value := by
  by_cases alone : ∀ other, value ≠ .stream other
  · rw [twins.valid.equals_eq alone, twins.valid'.equals_eq alone, twins.operand?_eq,
      twins.content]
  · simp only [ne_eq, not_forall, not_not] at alone
    obtain ⟨other, rfl⟩ := alone
    simp only [equals]
    rw [twins.valid.equalsStream_eq placed, twins.valid'.equalsStream_eq placed, twins.unit,
      twins.content]

theorem Twins.holds?_eq (twins : first.Twins second) (relation : Relation)
    (placed : value.Placed) : first.holds? relation value = second.holds? relation value := by
  have equal := twins.equals_eq placed
  have equalSpent := twins.equals_eq placed.spent
  have before : first.precedes? value = second.precedes? value := by
    unfold precedes?
    rw [twins.operand?_eq, twins.content]
  cases relation <;> simp only [holds?, equal, equalSpent, before]

theorem Twins.compare_eq (twins : first.Twins second) (relation : Relation)
    (placed : value.Placed) : first.compare relation value = second.compare relation value := by
  unfold compare checkRead
  rw [twins.holds?_eq relation placed, twins.unit]

theorem Twins.compareFrom_eq (twins : first.Twins second) (relation : Relation)
    (placed : value.Placed) :
    first.compareFrom relation value = second.compareFrom relation value := by
  unfold compareFrom checkRead
  rw [twins.holds?_eq relation.converse placed, twins.unit]

theorem Twins.compare_other (twins : first.Twins second) {other : Stream} (valid : other.Valid)
    (relation : Relation) :
    other.compare relation (.stream first) = other.compare relation (.stream second) := by
  have equal : other.equals (.stream first) = other.equals (.stream second) := by
    simp only [equals]
    rw [valid.equalsStream_eq twins.valid, valid.equalsStream_eq twins.valid', twins.unit,
      twins.content]
  have before : other.precedes? (.stream first) = other.precedes? (.stream second) := by
    simp only [precedes?, operand?]
    rw [twins.unit, twins.content]
  have same : other.holds? relation (.stream first) = other.holds? relation (.stream second) := by
    cases relation <;> simp only [holds?, equal, before, Value.spent]
  unfold compare
  rw [same, checkRead_stream, checkRead_stream]
  rfl

theorem Twins.comparison_eq (twins : first.Twins second) (relation : Relation) (swapped : Bool)
    (placed : value.Placed) :
    first.comparison relation swapped value = second.comparison relation swapped value := by
  cases swapped with
  | false => exact twins.compare_eq relation placed
  | true =>
    cases value with
    | stream other => exact twins.compare_other placed relation
    | _ => exact twins.compareFrom_eq relation placed

end Comparison

end Stream

/-- A request that does not ask where a window lies or what holds it, and counts in whole
numbers. A stream that it compares with lies in its own buffer. -/
def Request.Discreet : Request → Prop
  | .perform operation => operation.exposes = false ∧ operation.isWhole = true
  | .compare _ _ operand => operand.Placed
  | .part start stop => start.isFraction = false ∧ stop.isFraction = false

/-- The same outcome for two streams: one value, windows on one span, or lines between
the same separators on the same spans. -/
inductive SameOutcome (first second : Stream) : Outcome → Outcome → Prop where
  | value {value : Value} (plain : value.streams = []) :
    SameOutcome first second (.value value) (.value value)
  | window {window window' : Stream} (aligned : first.Aligned second window window') :
    SameOutcome first second (.value (.stream window)) (.value (.stream window'))
  | lines {lines lines' : Lines} (separator : lines.separator = lines'.separator)
      (forms : lines.forms = lines'.forms)
      (aligned : first.Aligned second lines.stream lines'.stream)
      (pieces : List.Forall₂ (first.Aligned second) lines.toList lines'.toList) :
    SameOutcome first second (.value (.lines lines)) (.value (.lines lines'))
  | itself : SameOutcome first second .itself .itself

/-- The same report from twins: the same fault, or the same outcome, with both streams left
on one span either way. -/
structure SameReport (report report' : Report) : Prop where
  twins : report.receiver.Twins report'.receiver
  halted : report.receiver.Aligned report'.receiver report.halted report'.halted
  results : Agree Eq
    (fun answer answer' => SameOutcome report.receiver report'.receiver answer.1 answer'.1 ∧
      report.receiver.Aligned report'.receiver answer.2 answer'.2)
    report.result report'.result

namespace Stream

variable {first second : Stream}

theorem Twins.lines_aligned (twins : first.Twins second) (separator : List Nat)
    (forms : List NumberForm) :
    List.Forall₂ (first.Aligned second) (Lines.toList ⟨first, separator, forms⟩)
      (Lines.toList ⟨second, separator, forms⟩) := by
  have own := twins.valid.lines_on separator forms
  have other := twins.valid'.lines_on separator forms
  rw [← twins.content] at other
  have same : List.Forall₂ Eq (lineSpans separator first.content)
      (lineSpans separator first.content) := List.forall₂_same.mpr fun _ _ => rfl
  refine (on_pairs same own other).imp ?_
  rintro piece piece' ⟨span, _, rfl, on, on'⟩
  exact ⟨span, on, on'⟩

theorem Twins.answered (twins : first.Twins second) {reply : Reply} {outcome outcome' : Outcome}
    (answered : Answered first reply outcome) (answered' : Answered second reply outcome') :
    SameOutcome first second outcome outcome' := by
  cases answered with
  | value plain =>
    cases answered' with
    | value => exact .value plain
  | window on =>
    cases answered' with
    | window on' => exact .window ⟨_, on, on'⟩
  | lines separator forms =>
    cases answered' with
    | lines =>
      exact .lines rfl rfl twins.aligned_whole (twins.lines_aligned separator forms)
  | itself =>
    cases answered' with
    | itself => exact .itself

/-- Twins answer every discreet request alike. -/
theorem Twins.react_same (twins : first.Twins second) (environment : Environment)
    {request : Request} (discreet : request.Discreet) :
    Agree Eq
      (fun answer answer' => SameOutcome first second answer.1 answer'.1 ∧
        first.Aligned second answer.2 answer'.2)
      (first.react environment request) (second.react environment request) := by
  have joins (fault left right : Fault) (one : fault = left) (other : fault = right) :
      left = right := one.symm.trans other
  cases request with
  | perform operation =>
    obtain ⟨hidden, whole⟩ := discreet
    have own := twins.valid.perform_agrees environment hidden
    have other := twins.valid'.perform_agrees environment hidden
    rw [← twins.unit, ← twins.content,
      Content.reply_sequence second.sequence first.sequence whole] at other
    refine (own.meet other joins).imp fun answer answer' same => ?_
    obtain ⟨said, ⟨answered, left⟩, answered', left'⟩ := same
    exact ⟨twins.answered answered answered', _, left, left'⟩
  | compare relation swapped operand =>
    dsimp only [react]
    rw [twins.comparison_eq relation swapped discreet]
    exact .after Eq.refl fun answer => .done ⟨.value rfl, twins.aligned_whole⟩
  | part start stop =>
    have own := twins.valid.part_agrees start stop
    have other := twins.valid'.part_agrees start stop
    rw [← twins.content] at other
    refine (own.meet other joins).bind fun window window' same => ?_
    obtain ⟨span, on, on'⟩ := same
    exact .done ⟨.window ⟨span, on, on'⟩, twins.aligned_whole⟩

theorem Twins.halted_aligned (twins : first.Twins second) (environment : Environment)
    (request : Request) : first.Aligned second (first.halted environment request)
      (second.halted environment request) := by
  cases request with
  | perform operation =>
    cases operation with
    | trim chars =>
      have discreet : (Request.perform (.trimFront chars)).Discreet := ⟨rfl, rfl⟩
      have front := twins.react_same environment discreet
      dsimp only [react] at front
      dsimp only [halted]
      generalize first.perform environment (.trimFront chars) = result at front
      generalize second.perform environment (.trimFront chars) = result' at front
      cases front with
      | fault => exact twins.aligned_whole
      | done same => exact same.2
    | _ => exact twins.aligned_whole
  | _ => exact twins.aligned_whole

theorem Twins.report_same (twins : first.Twins second) (environment : Environment)
    {request : Request} (discreet : request.Discreet) :
    SameReport (first.report environment request) (second.report environment request) :=
  ⟨twins, twins.halted_aligned environment request, twins.react_same environment discreet⟩

end Stream

theorem SameOutcome.windows {first second : Stream} {outcome outcome' : Outcome}
    (same : SameOutcome first second outcome outcome') (twins : first.Twins second) :
    List.Forall₂ Stream.Twins outcome.windows outcome'.windows := by
  cases same with
  | @value value plain =>
    cases value with
    | stream => cases plain
    | lines => cases plain
    | _ => exact .nil
  | window aligned => exact .cons (twins.aligned aligned) .nil
  | lines separator forms aligned pieces =>
    exact pieces.imp fun piece piece' aligned => twins.aligned aligned
  | itself => exact .nil

/-- What twins answer leaves twins, and the windows it holds are twins in pairs. -/
theorem SameReport.keeps {report report' : Report} (same : SameReport report report') :
    report.rest.Twins report'.rest ∧
      List.Forall₂ Stream.Twins report.windows report'.windows := by
  obtain ⟨receiver, result, halted⟩ := report
  obtain ⟨receiver', result', halted'⟩ := report'
  obtain ⟨twins, left, results⟩ := same
  cases results with
  | fault => exact ⟨twins.aligned left, .nil⟩
  | done both =>
    obtain ⟨outcomes, left⟩ := both
    exact ⟨twins.aligned left, outcomes.windows twins⟩

/-- Only the content of a window and its unit matter: calls on the families of two twins are
answered alike, and leave the families twins in pairs. -/
theorem Family.run_same {first second : Stream} (twins : first.Twins second)
    {calls : List Call} (discreet : ∀ call ∈ calls, call.request.Discreet) :
    List.Forall₂ (Option.Rel SameReport) (run [first] calls).1 (run [second] calls).1 ∧
      List.Forall₂ Stream.Twins (run [first] calls).2 (run [second] calls).2 :=
  run_related (fun _ _ => SameReport.keeps) (.cons twins .nil)
    fun call member _ _ pair => pair.report_same call.environment (discreet call member)

/-- All of a byte string. -/
def byteTwin : Stream := .ofBuffer (.ofBytes [97, 44, 98])

/-- The middle of an array of bytes, which shows what the byte string holds. -/
def arrayTwin : Stream :=
  .ofBounds ⟨.array .byte .narrow ItemFormat.unit?_byte, [44, 97, 44, 98, 44], by decide⟩ 1 (some 4)

theorem byteTwin_twins : byteTwin.Twins arrayTwin :=
  ⟨⟨by decide, by decide⟩, ⟨by decide, by decide⟩, rfl, by decide⟩

/-- Lines at commas, the front up to a comma, and a comparison of the second line. -/
def twinCalls : List Call :=
  let environment : Environment := ⟨.default, "linux"⟩
  [⟨0, environment, .perform (.lines (.text (Text.ofCodes [44])))⟩,
    ⟨0, environment, .perform (.takeTo ⟨false, false, false⟩ (.text (Text.ofCodes [44])))⟩,
    ⟨2, environment, .compare .eq false (.bytes [98])⟩]

theorem run_same_across_backings :
    List.Forall₂ (Option.Rel SameReport) (Family.run [byteTwin] twinCalls).1
        (Family.run [arrayTwin] twinCalls).1 ∧
      List.Forall₂ Stream.Twins (Family.run [byteTwin] twinCalls).2
        (Family.run [arrayTwin] twinCalls).2 := by
  apply Family.run_same byteTwin_twins
  intro call member
  simp only [twinCalls, List.mem_cons, List.not_mem_nil, or_false] at member
  rcases member with rfl | rfl | rfl
  · exact ⟨rfl, rfl⟩
  · exact ⟨rfl, rfl⟩
  · trivial

end TextScan
