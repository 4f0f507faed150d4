import TextScan.Proofs.Family
import TextScan.Proofs.Refinement

namespace TextScan

open Scan

/-- Operations that remove units from the front, and move nothing else. -/
def Operation.takesFront : Operation → Bool
  | .drop _ => true
  | .take _ => true
  | .consume _ => true
  | .extract _ => true
  | .takeTo _ _ => true
  | .dropTo _ _ => true
  | _ => false

/-- The operation that answers what another one drops. -/
def Operation.taking? : Operation → Option Operation
  | .drop count => some (.take count)
  | .dropTo stopping target => some (.takeTo stopping target)
  | _ => none

/-- Whether a target is a set, a test or a text that the unit takes where one is asked for. -/
def Stopping.Accepts (stopping : Stopping) (unit : CharUnit) (target : Value) : Prop :=
  if stopping.anyOf then ∃ codes, unit.charset target = .ok codes
  else target.test?.isSome ∨ ∃ codes, unit.text target = .ok codes

/-- Whether the arguments of an operation on the front are of their kind. Counts are whole
numbers, and not negative where that is asserted. -/
def Operation.Accepted (environment : Environment) (unit : CharUnit) : Operation → Prop
  | .drop (.whole count) => environment.checksAssertions = true → 0 ≤ count
  | .take (.whole _) => True
  | .consume char => ∃ code, unit.char char = .ok code
  | .extract (.whole count) => environment.checksAssertions = true → 0 ≤ count
  | .takeTo stopping target => stopping.Accepts unit target
  | .dropTo stopping target => stopping.Accepts unit target
  | _ => False

theorem Operation.taking?_front {operation taking : Operation}
    (counterpart : operation.taking? = some taking) : taking.takesFront = true := by
  cases operation with
  | drop count =>
    cases counterpart
    rfl
  | dropTo stopping target =>
    cases counterpart
    rfl
  | _ => cases counterpart

/-- A window from one place of a stream's buffer to another. -/
structure Stream.Covers (stream : Stream) (span : Span) (window : Stream) : Prop where
  buffer : window.buffer = stream.buffer
  start : window.start = span.low
  stop : window.stop = span.high

namespace Report

/-- The places that a call removed from the front. -/
def removed (report : Report) : Span := ⟨report.receiver.start, report.rest.start⟩

def units (report : Report) : List Nat :=
  report.receiver.buffer.between report.removed.low report.removed.high

end Report

/-- What an operation hands over of what it removed: a view of exactly that, its units if
they are as many as were asked for, or whether it was one unit. -/
inductive Handed (report : Report) : Operation → Outcome → Prop where
  | take {count : Number} {view : Stream} (covers : report.receiver.Covers report.removed view) :
    Handed report (.take count) (.value (.stream view))
  | takeTo {stopping : Stopping} {target : Value} {view : Stream}
      (covers : report.receiver.Covers report.removed view) :
    Handed report (.takeTo stopping target) (.value (.stream view))
  | drop {count : Number} : Handed report (.drop count) .itself
  | dropTo {stopping : Stopping} {target : Value} :
    Handed report (.dropTo stopping target) .itself
  | extracted {count : Number} {units : List Nat} (same : units = report.units)
      (exactly : count = .whole units.length) :
    Handed report (.extract count) (.value (.tuple (units.map (.ofUnit report.receiver.unit))))
  | absent {count : Number} (nothing : report.rest = report.receiver) :
    Handed report (.extract count) (.value .null)
  | consumed {char : Value} (code : Nat) (one : report.units = [code]) :
    Handed report (.consume char) (.value (.bool true))
  | kept {char : Value} (nothing : report.rest = report.receiver) :
    Handed report (.consume char) (.value (.bool false))

/-- What a call that removes units from the front does: the stop stays, the start does not go
back, what was removed is handed over, and taking leaves what dropping leaves. With
arguments of their kind it does not fault. -/
structure Removes (environment : Environment) (operation : Operation) (report : Report) :
    Prop where
  buffer : report.rest.buffer = report.receiver.buffer
  stop : report.rest.stop = report.receiver.stop
  start : report.receiver.start ≤ report.rest.start
  valid : report.rest.Valid
  answers : operation.Accepted environment report.receiver.unit →
    ∃ answer, report.result = .ok answer
  handed : ∀ outcome rest, report.result = .ok (outcome, rest) → Handed report operation outcome
  counterpart : ∀ taking, operation.taking? = some taking →
    report.rest.Covers ⟨report.rest.start, report.rest.stop⟩
      (report.receiver.report environment (.perform taking)).rest

namespace Content

variable {content : List Nat}

theorem takeUpTo_cuts {count : Number} {spans : Span × Span}
    (said : takeUpTo content count = .ok spans) : ∃ low, spans = cutAt content low := by
  unfold takeUpTo at said
  split at said
  · cases said
    exact ⟨_, rfl⟩
  · cases said

theorem takeTo_cuts (content : List Nat) (stop : Option Nat) (orEmpty : Bool) :
    ∃ low, takeTo content stop orEmpty = cutAt content low := by
  cases stop with
  | some offset => exact ⟨offset, rfl⟩
  | none =>
    cases orEmpty with
    | true => exact ⟨0, rfl⟩
    | false => exact ⟨content.length, rfl⟩

theorem extractExactly_whole {count : Number} {offset : Nat}
    (said : extractExactly content count = .ok (some offset)) : count = .whole offset := by
  cases count with
  | whole count =>
    simp only [extractExactly, Except.ok.injEq, Option.ite_none_left_eq_some,
      Option.some.injEq] at said
    obtain ⟨fits, same⟩ := said
    congr 1
    omega
  | decimal mantissa places =>
    simp only [extractExactly] at said
    split at said
    · simp at said
    · simp at said

end Content

namespace Stream

variable {whole : Stream} {environment : Environment}

theorem Valid.units_eq (valid : whole.Valid) {outcome : Outcome} {rest halted : Stream}
    {low : Nat} (left : whole.On ⟨low, whole.content.length⟩ rest) :
    (Report.mk whole (.ok (outcome, rest)) halted).units = whole.content.take low := by
  have inside := left.ordered
  have bounds := valid.start_le_stop
  rw [valid.length_content, size] at inside
  unfold Report.units Report.removed Report.rest
  dsimp only at inside ⊢
  rw [left.start, content_eq_between, Buffer.take_between]
  congr 1
  dsimp only
  omega

theorem OnBoth.covers {low : Nat} {windows : Stream × Stream}
    (on : whole.OnBoth (Content.cutAt whole.content low) windows) :
    whole.Covers ⟨whole.start, windows.2.start⟩ windows.1 :=
  ⟨on.1.buffer, on.1.start, on.1.stop.trans on.2.start.symm⟩

theorem Valid.takeUpTo_front (valid : whole.Valid) {count : Number} {windows : Stream × Stream}
    (taken : whole.takeUpTo environment count = .ok windows) :
    ∃ low, whole.OnBoth (Content.cutAt whole.content low) windows := by
  have agrees := valid.takeUpTo_agrees environment count
  rw [taken] at agrees
  obtain ⟨spans, said, on⟩ := agrees.answered
  obtain ⟨low, rfl⟩ := Content.takeUpTo_cuts said
  exact ⟨low, on⟩

theorem Valid.takeTo_front (valid : whole.Valid) {stopping : Stopping} {target : Value}
    {stop : Option Nat} {windows : Stream × Stream} (found : whole.stop? stopping target = .ok stop)
    (taken : whole.takeTo environment stop stopping.orEmpty = .ok windows) :
    ∃ low, whole.OnBoth (Content.cutAt whole.content low) windows := by
  have agrees := valid.stop?_agrees stopping target
  rw [found] at agrees
  obtain ⟨offset, -, rfl, inside⟩ := agrees.answered
  obtain ⟨expected, same, on⟩ := valid.takeTo_agrees environment inside stopping.orEmpty
  rw [taken] at same
  cases same
  obtain ⟨low, cuts⟩ := Content.takeTo_cuts whole.content offset stopping.orEmpty
  exact ⟨low, cuts ▸ on⟩

/-- Where an operation on the front answers, it leaves all from an offset on, and hands over
what stood before it. -/
theorem Valid.perform_front (valid : whole.Valid) {operation : Operation}
    (front : operation.takesFront = true) {outcome : Outcome} {rest : Stream}
    (done : whole.perform environment operation = .ok (outcome, rest)) :
    (∃ low, whole.On ⟨low, whole.content.length⟩ rest) ∧
      Handed ⟨whole, .ok (outcome, rest), whole⟩ operation outcome := by
  cases operation with
  | drop count =>
    rw [perform] at done
    obtain ⟨_, -, done⟩ := bind_eq_ok.mp done
    obtain ⟨windows, taken, same⟩ := bind_eq_ok.mp done
    obtain ⟨low, on⟩ := valid.takeUpTo_front taken
    cases same
    exact ⟨⟨low, on.2⟩, .drop⟩
  | take count =>
    rw [perform] at done
    obtain ⟨windows, taken, same⟩ := bind_eq_ok.mp done
    obtain ⟨low, on⟩ := valid.takeUpTo_front taken
    cases same
    exact ⟨⟨low, on.2⟩, .take on.covers⟩
  | consume char =>
    rw [perform] at done
    obtain ⟨code, -, done⟩ := bind_eq_ok.mp done
    rw [consume?, valid.front?_eq] at done
    by_cases opens : whole.content.head? = some code
    · rw [if_pos opens] at done
      cases done
      obtain ⟨others, first⟩ := List.head?_eq_some_iff.mp opens
      have left := valid.on_onFrom (by simp [first] : 1 ≤ whole.content.length)
      refine ⟨⟨1, left⟩, .consumed code ?_⟩
      rw [valid.units_eq left, first]
      rfl
    · rw [if_neg opens] at done
      cases done
      exact ⟨⟨0, valid.on_whole⟩, .kept rfl⟩
  | extract count =>
    rw [perform] at done
    obtain ⟨_, -, done⟩ := bind_eq_ok.mp done
    obtain ⟨taken, given, same⟩ := bind_eq_ok.mp done
    have agrees := valid.extractExactly_agrees count
    rw [given] at agrees
    obtain ⟨offset, said, rfl, inside⟩ := agrees.answered
    cases offset with
    | none =>
      cases same
      exact ⟨⟨0, valid.on_whole⟩, .absent rfl⟩
    | some offset =>
      cases same
      have fits := inside offset rfl
      have left := valid.on_onFrom fits
      have length : (whole.content.take offset).length = offset := List.length_take_of_le fits
      refine ⟨⟨offset, left⟩, .extracted (valid.units_eq left).symm ?_⟩
      rw [length]
      exact Content.extractExactly_whole said
  | takeTo stopping target =>
    rw [perform] at done
    obtain ⟨stop, found, done⟩ := bind_eq_ok.mp done
    obtain ⟨windows, taken, same⟩ := bind_eq_ok.mp done
    obtain ⟨low, on⟩ := valid.takeTo_front found taken
    cases same
    exact ⟨⟨low, on.2⟩, .takeTo on.covers⟩
  | dropTo stopping target =>
    rw [perform] at done
    obtain ⟨stop, found, done⟩ := bind_eq_ok.mp done
    obtain ⟨windows, taken, same⟩ := bind_eq_ok.mp done
    obtain ⟨low, on⟩ := valid.takeTo_front found taken
    cases same
    exact ⟨⟨low, on.2⟩, .dropTo⟩
  | _ => cases front

theorem Covers.refl (stream : Stream) : stream.Covers ⟨stream.start, stream.stop⟩ stream :=
  ⟨rfl, rfl, rfl⟩

theorem Valid.takeUpTo_negative (valid : whole.Valid) (environment : Environment)
    {count : Number} (negative : count.precedes (.whole 0) = true) :
    whole.takeUpTo environment count = .ok (whole.upTo whole.start, whole.onFrom whole.start) := by
  unfold takeUpTo
  rw [Number.clamp_negative negative]
  exact valid.advanceTo_eq environment (Nat.zero_le _)

theorem Valid.drop_negative (valid : whole.Valid) (environment : Environment) {count : Number}
    (negative : count.precedes (.whole 0) = true) :
    whole.perform environment (.drop count) = .error (.assertion .dropCount) ∨
      whole.perform environment (.drop count) = .ok (.itself, whole.onFrom whole.start) := by
  rw [perform, valid.takeUpTo_negative environment negative]
  unfold checkCount check
  cases environment.checksAssertions with
  | true =>
    rw [negative]
    exact .inl rfl
  | false =>
    rw [negative]
    exact .inr rfl

theorem drop_counted {count : Number} (counted : count.precedes (.whole 0) = false) :
    whole.perform environment (.drop count) =
      (whole.takeUpTo environment count).map fun windows => (.itself, windows.2) := by
  rw [perform, checkCount, check, counted]
  cases whole.takeUpTo environment count with
  | error fault => rfl
  | ok windows => rfl

theorem Valid.taking_covers (valid : whole.Valid) (environment : Environment)
    {operation taking : Operation} (counterpart : operation.taking? = some taking)
    {report report' : Report}
    (dropped : report = ⟨whole, whole.perform environment operation, whole⟩)
    (taken : report' = ⟨whole, whole.perform environment taking, whole⟩) :
    report.rest.Covers ⟨report.rest.start, report.rest.stop⟩ report'.rest := by
  subst dropped taken
  cases operation with
  | drop count =>
    cases counterpart
    cases negative : count.precedes (.whole 0) with
    | true =>
      rcases valid.drop_negative environment negative with refused | done
      · rw [refused, perform, valid.takeUpTo_negative environment negative]
        exact ⟨rfl, rfl, rfl⟩
      · rw [done, perform, valid.takeUpTo_negative environment negative]
        exact .refl _
    | false =>
      rw [drop_counted negative, perform]
      cases whole.takeUpTo environment count with
      | error fault => exact .refl whole
      | ok windows => exact .refl windows.2
  | dropTo stopping target =>
    cases counterpart
    rw [perform, perform]
    cases whole.stop? stopping target with
    | error fault => exact .refl whole
    | ok stop =>
      cases taken : whole.takeTo environment stop stopping.orEmpty with
      | error fault =>
        simp only [bind, Except.bind, taken]
        exact .refl whole
      | ok windows =>
        simp only [bind, Except.bind, taken]
        exact .refl windows.2
  | _ => cases counterpart

theorem checkCount_ok {count : Int} {failure : Check}
    (allowed : environment.checksAssertions = true → 0 ≤ count) :
    checkCount environment (.whole count) failure = .ok () := by
  unfold checkCount check
  rw [Number.precedes_whole]
  cases checks : environment.checksAssertions with
  | true =>
    have counted := allowed checks
    rw [decide_eq_false (by omega)]
    rfl
  | false => simp

/-- The place that a count of units reaches in the window. -/
def reach (whole : Stream) (count : Int) : Nat := whole.start + min count.toNat whole.size

theorem Valid.takeUpTo_eq (valid : whole.Valid) (environment : Environment) (count : Int) :
    whole.takeUpTo environment (.whole count) =
      .ok (whole.upTo (whole.reach count), whole.onFrom (whole.reach count)) := by
  have offset : (min (count.toNat : Int) whole.size).toNat = min count.toNat whole.size := by omega
  have inside : min count.toNat whole.size ≤ whole.content.length := by
    rw [valid.length_content]
    exact Nat.min_le_right _ _
  unfold takeUpTo
  rw [Number.clamp_whole]
  dsimp only
  rw [offset]
  exact valid.advanceTo_eq environment inside

theorem Valid.stop?_ok (valid : whole.Valid) {stopping : Stopping} {target : Value}
    (accepted : stopping.Accepts whole.unit target) :
    ∃ stop, whole.stop? stopping target = .ok stop := by
  unfold Stopping.Accepts at accepted
  unfold stop?
  split
  · rename_i asSet
    rw [if_pos asSet] at accepted
    obtain ⟨codes, read⟩ := accepted
    rw [read, coerce]
    dsimp only [Except.mapError, bind, Except.bind]
    rw [valid.findWhere?_eq]
    exact ⟨_, rfl⟩
  · rename_i asText
    rw [if_neg asText] at accepted
    cases tested : target.test? with
    | some test =>
      dsimp only
      rw [valid.findWhere?_eq]
      exact ⟨_, rfl⟩
    | none =>
      rw [tested] at accepted
      obtain ⟨codes, read⟩ := accepted.resolve_left (by simp)
      rw [read, coerce]
      dsimp only [Except.mapError, bind, Except.bind]
      rw [valid.stopAfterRepeats?_eq, valid.findText?_eq codes valid.start_le_stop]
      split
      · exact ⟨_, rfl⟩
      · exact ⟨_, rfl⟩

theorem Valid.takeTo_ok (valid : whole.Valid) (environment : Environment) {stopping : Stopping}
    {target : Value} (accepted : stopping.Accepts whole.unit target) :
    ∃ stop windows, whole.stop? stopping target = .ok stop ∧
      whole.takeTo environment stop stopping.orEmpty = .ok windows := by
  obtain ⟨stop, found⟩ := valid.stop?_ok accepted
  have agrees := valid.stop?_agrees stopping target
  rw [found] at agrees
  obtain ⟨offset, -, rfl, inside⟩ := agrees.answered
  obtain ⟨windows, taken, -⟩ := valid.takeTo_agrees environment inside stopping.orEmpty
  exact ⟨_, windows, found, taken⟩

/-- Operations on the front do not fault on arguments of their kind. -/
theorem Valid.front_ok (valid : whole.Valid) {operation : Operation}
    (accepted : operation.Accepted environment whole.unit) :
    ∃ answer, whole.perform environment operation = .ok answer := by
  cases operation with
  | drop count =>
    cases count with
    | whole count =>
      rw [perform, checkCount_ok accepted, valid.takeUpTo_eq]
      exact ⟨_, rfl⟩
    | decimal => exact accepted.elim
  | take count =>
    cases count with
    | whole count =>
      rw [perform, valid.takeUpTo_eq]
      exact ⟨_, rfl⟩
    | decimal => exact accepted.elim
  | consume char =>
    obtain ⟨code, read⟩ := accepted
    have coerced : whole.coerce (whole.unit.char char) = .ok code := by rw [read]; rfl
    rw [perform, coerced]
    dsimp only [bind, Except.bind]
    cases whole.consume? code with
    | none => exact ⟨_, rfl⟩
    | some rest => exact ⟨_, rfl⟩
  | extract count =>
    cases count with
    | whole count =>
      rw [perform, checkCount_ok accepted, extractExactly]
      dsimp only [bind, Except.bind]
      cases whole.extract? count with
      | none => exact ⟨_, rfl⟩
      | some taken => exact ⟨_, rfl⟩
    | decimal => exact accepted.elim
  | takeTo stopping target =>
    obtain ⟨stop, windows, found, taken⟩ := valid.takeTo_ok environment accepted
    rw [perform, found]
    exact ⟨_, bind_eq_ok.mpr ⟨stop, rfl, bind_eq_ok.mpr ⟨windows, taken, rfl⟩⟩⟩
  | dropTo stopping target =>
    obtain ⟨stop, windows, found, taken⟩ := valid.takeTo_ok environment accepted
    rw [perform, found]
    exact ⟨_, bind_eq_ok.mpr ⟨stop, rfl, bind_eq_ok.mpr ⟨windows, taken, rfl⟩⟩⟩
  | _ => exact accepted.elim

theorem report_front (whole : Stream) (environment : Environment) {operation : Operation}
    (front : operation.takesFront = true) :
    whole.report environment (.perform operation) =
      ⟨whole, whole.perform environment operation, whole⟩ := by
  cases operation with
  | trim => cases front
  | _ => rfl

theorem Valid.perform_removes (valid : whole.Valid) (environment : Environment)
    {operation : Operation} (front : operation.takesFront = true) :
    Removes environment operation (whole.report environment (.perform operation)) := by
  rw [whole.report_front environment front]
  have counterpart (taking : Operation) (same : operation.taking? = some taking) :=
    valid.taking_covers environment same rfl
      (whole.report_front environment (Operation.taking?_front same))
  have answers (accepted : operation.Accepted environment whole.unit) := valid.front_ok accepted
  cases done : whole.perform environment operation with
  | error fault =>
    rw [done] at counterpart answers
    refine ⟨rfl, rfl, Nat.le_refl _, valid, answers, ?_, counterpart⟩
    intro outcome rest same
    cases same
  | ok answer =>
    obtain ⟨outcome, rest⟩ := answer
    obtain ⟨⟨low, left⟩, handed⟩ := valid.perform_front front done
    have all := valid.on_whole.stop
    rw [done] at counterpart answers
    refine ⟨left.buffer, left.stop.trans all.symm, ?_, left.valid valid, answers, ?_, counterpart⟩
    · exact left.start ▸ Nat.le_add_right _ _
    · intro outcome' rest' same
      cases same
      exact handed

/-- Whatever an operation does where it answers, it leaves a window inside the one it was asked
of, and gives windows inside it. -/
theorem Valid.react_on (valid : whole.Valid) {request : Request} {outcome : Outcome}
    {rest : Stream} (reacted : whole.react environment request = .ok (outcome, rest)) :
    (∃ span, whole.On span rest) ∧ ∀ view ∈ outcome.windows, ∃ span, whole.On span view := by
  have all : ∃ span, whole.On span whole := ⟨_, valid.on_whole⟩
  cases request with
  | perform operation =>
    obtain ⟨left, given⟩ := valid.perform_windows reacted
    refine ⟨left, ?_⟩
    cases outcome with
    | itself => exact List.forall_mem_nil _
    | value value =>
      rcases given value rfl with ⟨window, span, rfl, on⟩ | ⟨lines, rfl, rfl⟩ | plain
      · exact List.forall_mem_singleton.mpr ⟨span, on⟩
      · exact fun line member => valid.line_on member
      · cases value with
        | stream window => cases plain
        | lines lines => cases plain
        | _ => exact List.forall_mem_nil _
  | compare relation swapped operand =>
    obtain ⟨answer, -, same⟩ := bind_eq_ok.mp reacted
    cases same
    exact ⟨all, List.forall_mem_nil _⟩
  | part start stop =>
    obtain ⟨window, made, same⟩ := bind_eq_ok.mp reacted
    cases same
    have agrees := valid.part_agrees start stop
    rw [made] at agrees
    obtain ⟨span, -, on⟩ := agrees.answered
    exact ⟨all, List.forall_mem_singleton.mpr ⟨span, on⟩⟩

theorem Valid.halted_on (valid : whole.Valid) (environment : Environment) (request : Request) :
    ∃ span, whole.On span (whole.halted environment request) := by
  unfold halted
  split
  · split
    · rename_i trimmed
      exact (valid.perform_windows trimmed).1
    · exact ⟨_, valid.on_whole⟩
  · exact ⟨_, valid.on_whole⟩

/-- Whatever is asked of a window leaves a window inside it, and gives windows inside it. -/
theorem Valid.report_on (valid : whole.Valid) (environment : Environment) (request : Request) :
    let report := whole.report environment request
    ∀ window ∈ report.rest :: report.windows, ∃ span, whole.On span window := by
  have halted := valid.halted_on environment request
  have inside (outcome : Outcome) (rest : Stream)
      (reacted : whole.react environment request = .ok (outcome, rest)) :=
    valid.react_on reacted
  unfold report Report.rest Report.windows
  dsimp only
  cases reacted : whole.react environment request with
  | error fault => exact List.forall_mem_singleton.mpr halted
  | ok answer => exact List.forall_mem_cons.mpr (inside answer.1 answer.2 reacted)

/-- Makes calls in order, each on what the one before it left. -/
def drain : Stream → List (Environment × Operation) → List Report × Stream
  | stream, [] => ([], stream)
  | stream, (environment, operation) :: calls =>
    let report := stream.report environment (.perform operation)
    let (reports, last) := drain report.rest calls
    (report :: reports, last)

end Stream

/-- Spans that follow one another from a place to another one, without gap or overlap. -/
inductive Tiles : Nat → List Span → Nat → Prop where
  | nil {place : Nat} : Tiles place [] place
  | cons {low middle high : Nat} {spans : List Span} (ordered : low ≤ middle)
      (rest : Tiles middle spans high) : Tiles low (⟨low, middle⟩ :: spans) high

theorem Removes.units_append {environment : Environment} {operation : Operation}
    {report : Report} (removes : Removes environment operation report) :
    report.units ++ report.rest.content = report.receiver.content := by
  have ordered := removes.valid.start_le_stop
  rw [removes.stop] at ordered
  rw [Stream.content_eq_between, Stream.content_eq_between, removes.buffer, removes.stop]
  exact Buffer.between_append removes.start ordered

/-- Calls on the front of a stream remove spans that tile what lies between the first start
and the last. Each hands over what it removed, the stop stays where it was, and what was
removed is followed by what is left. -/
theorem Stream.Valid.drain_partition {stream : Stream} (valid : stream.Valid)
    {calls : List (Environment × Operation)}
    (front : ∀ call ∈ calls, call.2.takesFront = true) :
    List.Forall₂ (fun call report => Removes call.1 call.2 report) calls
        (stream.drain calls).1 ∧
      (stream.drain calls).2.buffer = stream.buffer ∧
      (stream.drain calls).2.stop = stream.stop ∧
      Tiles stream.start ((stream.drain calls).1.map Report.removed)
        (stream.drain calls).2.start ∧
      (stream.drain calls).1.flatMap Report.units ++ (stream.drain calls).2.content =
        stream.content := by
  induction calls generalizing stream with
  | nil => exact ⟨.nil, rfl, rfl, .nil, rfl⟩
  | cons call calls ih =>
    obtain ⟨environment, operation⟩ := call
    have removes := valid.perform_removes environment (front _ List.mem_cons_self)
    obtain ⟨each, buffer, stop, tiles, kept⟩ := ih removes.valid fun other member =>
      front other (List.mem_cons_of_mem _ member)
    unfold drain
    dsimp only
    refine ⟨.cons removes each, buffer.trans removes.buffer, stop.trans removes.stop,
      .cons removes.start tiles, ?_⟩
    rw [List.flatMap_cons, List.append_assoc, kept]
    exact removes.units_append

/-- A take, a drop at a comma, a unit consumed and two extracted, of which there is one. -/
def frontCalls : List (Environment × Operation) :=
  let environment : Environment := ⟨.default, "linux"⟩
  [(environment, .take (.whole 1)),
    (environment, .dropTo ⟨false, false, true⟩ (.text (Text.ofCodes [44]))),
    (environment, .consume (.text (Text.ofCodes [44]))),
    (environment, .extract (.whole 2))]

/-- Of `a-,b`, all but the last unit is removed. -/
theorem drain_partition_commas :
    let stream := Stream.ofBuffer (.ofText [97, 45, 44, 98])
    (stream.drain frontCalls).2.start = 3 ∧
      List.Forall₂ (fun call report => Removes call.1 call.2 report) frontCalls
        (stream.drain frontCalls).1 ∧
      (stream.drain frontCalls).2.buffer = stream.buffer ∧
      (stream.drain frontCalls).2.stop = stream.stop ∧
      Tiles stream.start ((stream.drain frontCalls).1.map Report.removed)
        (stream.drain frontCalls).2.start ∧
      (stream.drain frontCalls).1.flatMap Report.units ++ (stream.drain frontCalls).2.content =
        stream.content := by
  refine ⟨rfl, Stream.Valid.drain_partition ⟨by decide, by decide⟩ ?_⟩
  intro call member
  simp only [frontCalls, List.mem_cons, List.not_mem_nil, or_false] at member
  rcases member with rfl | rfl | rfl | rfl
  · rfl
  · rfl
  · rfl
  · rfl

end TextScan
