import TextScan.Proofs.Agreement
import TextScan.Proofs.Placement

/-! Operations on a window do to its places what they do to the offsets of its content: the
search of a buffer between two places is a scan of what lies between them. -/

namespace TextScan

open Scan

/-- What an operation answered, seen from the window it was asked of. -/
inductive Answered (whole : Stream) : Reply → Outcome → Prop where
  | value {value : Value} (plain : value.streams = []) :
    Answered whole (.value value) (.value value)
  | window {span : Span} {window : Stream} (on : whole.On span window) :
    Answered whole (.window span) (.value (.stream window))
  | lines (separator : List Nat) (forms : List NumberForm) :
    Answered whole (.lines separator forms) (.value (.lines ⟨whole, separator, forms⟩))
  | itself : Answered whole .itself .itself

/-- An operation on a window that does what is said of the content. -/
abbrev Performed (whole : Stream) :
    Except Fault (Reply × Span) → Except Fault (Outcome × Stream) → Prop :=
  Agree Eq fun said given =>
    Answered whole said.1 given.1 ∧ whole.On said.2 given.2

namespace Performed

variable {whole : Stream}

theorem done {reply : Reply} {span : Span} {outcome : Outcome} {rest : Stream}
    (answered : Answered whole reply outcome) (left : whole.On span rest) :
    Performed whole (.ok (reply, span)) (.ok (outcome, rest)) :=
  Agree.done ⟨answered, left⟩

theorem answer (valid : whole.Valid) {value : Value} (plain : value.streams = []) :
    Performed whole (.ok (.value value, Content.whole whole.content))
      (.ok (.value value, whole)) :=
  .done (.value plain) valid.on_whole

end Performed

namespace Stream

variable {whole window : Stream} {environment : Environment}

theorem coerce_ok (whole : Stream) {α : Type} {result : Except UnitFault α} {value : α}
    (read : result = .ok value) : whole.coerce result = .ok value := by
  rw [read]
  rfl

theorem Valid.advanceTo_eq {offset : Nat} (valid : whole.Valid) (environment : Environment)
    (inside : offset ≤ whole.content.length) :
    whole.advanceTo environment (whole.start + offset) =
      .ok (whole.upTo (whole.start + offset), whole.onFrom (whole.start + offset)) := by
  have bounds := valid.start_le_stop
  rw [valid.length_content, size] at inside
  have held : whole.start + offset ≤ whole.stop := by omega
  simp [advanceTo, check, held, cutAt, bind, Except.bind, pure, Except.pure]

theorem Valid.unitAt_agrees (valid : whole.Valid) (offset : Number) :
    Agree Eq (fun said given => said = given ∧ said.streams = [])
      (Content.unitAt whole.sequence whole.unit whole.content offset) (whole.unitAt offset) := by
  cases offset with
  | whole offset =>
    simp only [Content.unitAt, unitAt, valid.at?_eq]
    exact .done ⟨rfl, Content.streams_unitValue _ _⟩
  | decimal mantissa places =>
    simp only [Content.unitAt, unitAt, valid.length_content]
    split
    · exact .done ⟨rfl, rfl⟩
    · exact .fault rfl

theorem Valid.sliceBetween_agrees (valid : whole.Valid) (start stop : Option Number) :
    Agree Eq whole.On (Content.sliceBetween whole.content start stop)
      (whole.sliceBetween start stop) := by
  unfold Content.sliceBetween sliceBetween
  rw [valid.length_content]
  dsimp only
  generalize (start.getD (.whole 0)).clamp whole.size = low
  generalize (stop.getD (.whole whole.size)).clamp whole.size = given
  generalize (if given.precedes low then low else given) = high
  cases low with
  | decimal => exact .fault rfl
  | whole low =>
    cases high with
    | decimal => exact .fault rfl
    | whole high =>
      refine .done (on_between ?_ ?_)
      · split <;> omega
      · rw [valid.length_content]
        split <;> omega

theorem Valid.part_agrees (valid : whole.Valid) (start stop : Value) :
    Agree Eq whole.On (Content.part whole.content start stop) (whole.part start stop) := by
  unfold Content.part part
  rw [valid.length_content]
  refine .after Eq.refl fun bounds => ?_
  obtain ⟨⟨low, lowForm⟩, ⟨high, highForm⟩⟩ := bounds
  cases low with
  | decimal => exact .fault rfl
  | whole low =>
    cases high with
    | decimal => exact .fault rfl
    | whole high =>
      refine .done (on_between ?_ ?_)
      · omega
      · rw [valid.length_content]
        exact Nat.min_le_right _ _

theorem window_valid {buffer : Buffer} {start stop : Value}
    (made : buffer.window start stop = .ok window) : window.buffer = buffer ∧ window.Valid := by
  unfold Buffer.window at made
  obtain ⟨⟨⟨low, lowForm⟩, ⟨high, highForm⟩⟩, -, made⟩ := bind_eq_ok.mp made
  cases low with
  | decimal => cases made
  | whole low =>
    cases high with
    | decimal => cases made
    | whole high =>
      cases made
      refine ⟨rfl, ?_, ?_⟩
      · exact Nat.le_min.mpr ⟨Nat.le_max_right _ _, Nat.min_le_right _ _⟩
      · exact Nat.min_le_right _ _

theorem Valid.item_agrees (valid : whole.Valid) (key : Value) :
    Agree Eq (fun said given => Answered whole said (.value given))
      (Content.item whole.sequence whole.unit whole.content key) (whole.item key) := by
  unfold Content.item item
  cases key.slice? with
  | some bounds =>
    simp only
    split
    · refine .after Eq.refl fun low => .after Eq.refl fun high => ?_
      exact (valid.sliceBetween_agrees low high).bind fun span window on =>
        .done (.window on)
    · exact .fault rfl
  | none =>
    refine .after Eq.refl fun offset => ?_
    refine (valid.unitAt_agrees offset).map_left fun answer given same => ?_
    obtain ⟨rfl, plain⟩ := same
    exact .value plain

theorem Valid.takeUpTo_agrees (valid : whole.Valid) (environment : Environment) (count : Number) :
    Agree Eq whole.OnBoth (Content.takeUpTo whole.content count)
      (whole.takeUpTo environment count) := by
  unfold Content.takeUpTo takeUpTo
  rw [valid.length_content]
  cases clamped : count.clamp whole.size with
  | decimal => exact .fault rfl
  | whole count =>
    have bounds := Number.clamp_bounds clamped
    have inside : count.toNat ≤ whole.content.length := by
      rw [valid.length_content]
      omega
    simp only [valid.advanceTo_eq environment inside]
    exact .done (valid.onBoth_cutAt inside)

theorem Valid.takeTo_agrees (valid : whole.Valid) (environment : Environment) {stop : Option Nat}
    (inside : ∀ offset, stop = some offset → offset ≤ whole.content.length) (orEmpty : Bool) :
    ∃ windows, whole.takeTo environment (stop.map (whole.start + ·)) orEmpty = .ok windows ∧
      whole.OnBoth (Content.takeTo whole.content stop orEmpty) windows := by
  cases stop with
  | some offset =>
    have held := inside offset rfl
    exact ⟨_, valid.advanceTo_eq environment held, valid.onBoth_cutAt held⟩
  | none =>
    cases orEmpty with
    | true =>
      have empty : whole.On ⟨0, 0⟩ whole.atStart :=
        ⟨rfl, rfl, rfl, Nat.le_refl _, Nat.zero_le _⟩
      exact ⟨_, rfl, empty, valid.on_whole⟩
    | false =>
      have all := valid.on_whole.stop
      have cut := valid.advanceTo_eq environment (Nat.le_refl _)
      rw [show whole.start + whole.content.length = whole.stop from all.symm] at cut
      exact ⟨_, cut, all ▸ valid.onBoth_cutAt (Nat.le_refl _)⟩

/-- A stop found in the window is one found in the content, and no further than its end. -/
theorem Valid.stop?_agrees (valid : whole.Valid) (stopping : Stopping) (target : Value) :
    Agree Eq (fun said given => given = said.map (whole.start + ·) ∧
        ∀ offset, said = some offset → offset ≤ whole.content.length)
      (Content.stop? whole.unit whole.content stopping target)
      (whole.stop? stopping target) := by
  unfold Content.stop? stop?
  split
  · refine .after Eq.refl fun chars => ?_
    rw [valid.findWhere?_eq]
    exact .done ⟨rfl, fun offset found => Nat.le_of_lt (findWhere?_lt found)⟩
  · cases target.test? with
    | some test =>
      simp only [valid.findWhere?_eq]
      exact .done ⟨rfl, fun offset found => Nat.le_of_lt (findWhere?_lt found)⟩
    | none =>
      refine .after Eq.refl fun needle => ?_
      split
      · rw [valid.stopAfterRepeats?_eq]
        exact .done ⟨rfl, fun offset found => afterRepeats?_le found⟩
      · rw [valid.findText?_eq needle valid.start_le_stop]
        exact .done ⟨rfl, fun offset found => find?_le found⟩

theorem isAnyOf_eq (code : Option Nat) (chars : Value) :
    Content.isAnyOf whole.unit code chars = whole.isAnyOf code chars := by
  cases code with
  | none => rfl
  | some code => rfl

theorem Valid.extractExactly_agrees (valid : whole.Valid) (count : Number) :
    Agree Eq (fun said given => given = said.map (fun offset =>
          (whole.content.take offset, whole.onFrom (whole.start + offset))) ∧
        ∀ offset, said = some offset → offset ≤ whole.content.length)
      (Content.extractExactly whole.content count) (whole.extractExactly count) := by
  cases count with
  | whole count =>
    simp only [Content.extractExactly, extractExactly, valid.extract?_eq]
    split
    · exact .done ⟨rfl, by simp⟩
    · rename_i fits
      refine .done ⟨rfl, fun offset same => ?_⟩
      cases Option.some.inj same
      omega
  | decimal mantissa places =>
    simp only [Content.extractExactly, extractExactly, valid.length_content]
    split
    · exact .done ⟨rfl, by simp⟩
    · exact .fault rfl

/-- What is left in front of the back that is trimmed. -/
theorem Valid.trimFront_on (valid : whole.Valid) (test : Nat → Bool) :
    ∃ rest, whole.trimFront test = some rest ∧
      whole.On ⟨Content.trimFront whole.content test, whole.content.length⟩ rest := by
  refine ⟨_, valid.trimFront_eq test, ?_⟩
  unfold Content.trimFront
  cases found : Scan.findWhere? (fun code => !test code) whole.content with
  | some offset => exact valid.on_onFrom (Nat.le_of_lt (findWhere?_lt found))
  | none =>
    have all := valid.on_whole.stop
    exact ⟨rfl, all, all, Nat.le_refl _, Nat.le_refl _⟩

theorem Valid.trimBack_on (valid : whole.Valid) (test : Nat → Bool) :
    ∃ rest, whole.trimBack test = some rest ∧
      whole.On ⟨0, Content.trimBack whole.content test⟩ rest := by
  refine ⟨_, valid.trimBack_eq test, ?_⟩
  unfold Content.trimBack
  cases found : Scan.findLast? (fun code => !test code) whole.content with
  | some offset => exact on_upTo (findLast?_lt found)
  | none => exact ⟨rfl, rfl, rfl, Nat.le_refl _, Nat.zero_le _⟩

theorem Valid.consume_agrees (valid : whole.Valid) (char : Value) :
    Performed whole
      (Content.reply whole.sequence environment whole.unit whole.content (.consume char))
      (whole.perform environment (.consume char)) := by
  rw [Content.reply, perform]
  refine .after Eq.refl fun code => ?_
  rw [consume?, valid.front?_eq]
  by_cases opens : whole.content.head? = some code
  · have inside : 0 < whole.content.length := by
      obtain ⟨rest, front⟩ := List.head?_eq_some_iff.mp opens
      simp [front]
    rw [if_pos opens, if_pos opens]
    exact Performed.done (.value rfl) (valid.on_onFrom inside)
  · rw [if_neg opens, if_neg opens]
    exact Performed.answer valid rfl

theorem Valid.extract_agrees (valid : whole.Valid) (count : Number) :
    Performed whole
      (Content.reply whole.sequence environment whole.unit whole.content (.extract count))
      (whole.perform environment (.extract count)) := by
  rw [Content.reply, perform]
  refine .after Eq.refl fun _ => ?_
  refine (valid.extractExactly_agrees count).bind fun said given same => ?_
  obtain ⟨rfl, fits⟩ := same
  cases said with
  | none => exact Performed.answer valid rfl
  | some offset => exact Performed.done (.value rfl) (valid.on_onFrom (fits offset rfl))

theorem Valid.takeDelimited_agrees (valid : whole.Valid) (delimiter : Value) :
    Performed whole
      (Content.reply whole.sequence environment whole.unit whole.content (.takeDelimited delimiter))
      (whole.perform environment (.takeDelimited delimiter)) := by
  rw [Content.reply, perform]
  refine .after Eq.refl fun needle => ?_
  rw [valid.takeDelimited?_eq]
  cases closed : delimited? needle whole.content with
  | none => exact Performed.answer valid rfl
  | some size =>
    have fits := delimited?_fits closed
    refine Performed.done (.window ?_) ?_
    · rw [Nat.add_assoc]
      exact on_between (Nat.le_add_right _ _) (by omega)
    · rw [Nat.add_assoc whole.start, Nat.add_assoc whole.start]
      exact valid.on_onFrom fits

theorem Valid.takeDelimitedAny_agrees (valid : whole.Valid) (delimiters : Value) :
    Performed whole
      (Content.reply whole.sequence environment whole.unit whole.content
        (.takeDelimitedAny delimiters))
      (whole.perform environment (.takeDelimitedAny delimiters)) := by
  rw [Content.reply, perform, valid.isEmpty_content]
  split
  · exact Performed.answer valid rfl
  · refine .after Eq.refl fun chars => ?_
    rw [valid.takeDelimitedBy?_eq]
    cases closed : enclosed? chars whole.content with
    | none => exact Performed.answer valid rfl
    | some size =>
      have fits := enclosed?_fits closed
      refine Performed.done (.window ?_) ?_
      · rw [Nat.add_assoc]
        exact on_between (Nat.le_add_right _ _) (by omega)
      · rw [Nat.add_assoc whole.start, Nat.add_assoc whole.start]
        exact valid.on_onFrom (by omega)

theorem Valid.trim_agrees (valid : whole.Valid) (chars : Value) :
    Performed whole
      (Content.reply whole.sequence environment whole.unit whole.content (.trim chars))
      (whole.perform environment (.trim chars)) := by
  rw [Content.reply, perform]
  refine .after Eq.refl fun front => ?_
  obtain ⟨middle, found, on⟩ := valid.trimFront_on front.contains
  rw [found]
  refine .after Eq.refl fun back => ?_
  obtain ⟨rest, foundBack, onMiddle⟩ := (on.valid valid).trimBack_on back.contains
  rw [foundBack]
  have left := on.within valid onMiddle
  rw [on.content valid, List.take_of_length_le (by simp)] at left
  exact Performed.done .itself left

/-- What an operation does to a window in its buffer is what is said of its content, unless
it tells where the window lies or what holds it. -/
theorem Valid.perform_agrees (valid : whole.Valid) (environment : Environment)
    {operation : Operation} (hidden : operation.exposes = false) :
    Performed whole (Content.reply whole.sequence environment whole.unit whole.content operation)
      (whole.perform environment operation) := by
  cases operation with
  | isEmpty =>
    rw [Content.reply, perform, valid.isEmpty_content]
    exact Performed.answer valid rfl
  | size =>
    rw [Content.reply, perform, valid.length_content]
    exact Performed.answer valid rfl
  | byteSize =>
    rw [Content.reply, perform, valid.length_content]
    exact Performed.answer valid rfl
  | has count =>
    rw [Content.reply, perform, valid.length_content]
    exact Performed.answer valid rfl
  | front =>
    rw [Content.reply, perform, valid.front?_eq]
    exact Performed.answer valid (Content.streams_unitValue _ _)
  | back =>
    rw [Content.reply, perform, valid.back?_eq]
    exact Performed.answer valid (Content.streams_unitValue _ _)
  | «at» offset =>
    rw [Content.reply, perform]
    refine (valid.unitAt_agrees offset).bind fun said given same => ?_
    obtain ⟨rfl, plain⟩ := same
    exact Performed.answer valid plain
  | slice start stop =>
    rw [Content.reply, perform]
    refine (valid.sliceBetween_agrees start stop).bind fun span window on => ?_
    exact Performed.done (.window on) valid.on_whole
  | item key =>
    rw [Content.reply, perform]
    refine (valid.item_agrees key).bind fun said given answered => ?_
    exact Performed.done answered valid.on_whole
  | startsWith text =>
    rw [Content.reply, perform]
    refine .after Eq.refl fun needle => ?_
    rw [valid.startsWith_eq]
    exact Performed.answer valid rfl
  | startsWithAny chars =>
    rw [Content.reply, perform, valid.front?_eq, isAnyOf_eq]
    exact .after Eq.refl fun answer => Performed.answer valid rfl
  | endsWith text =>
    rw [Content.reply, perform]
    refine .after Eq.refl fun needle => ?_
    rw [valid.endsWith_eq]
    exact Performed.answer valid rfl
  | endsWithAny chars =>
    rw [Content.reply, perform, valid.back?_eq, isAnyOf_eq]
    exact .after Eq.refl fun answer => Performed.answer valid rfl
  | text => cases hidden
  | view => cases hidden
  | location file => cases hidden
  | copy => exact Performed.done (.window valid.on_whole) valid.on_whole
  | drop count =>
    rw [Content.reply, perform]
    refine .after Eq.refl fun _ => ?_
    exact (valid.takeUpTo_agrees environment count).bind fun spans windows on =>
      Performed.done .itself on.2
  | take count =>
    rw [Content.reply, perform]
    exact (valid.takeUpTo_agrees environment count).bind fun spans windows on =>
      Performed.done (.window on.1) on.2
  | consume char => exact valid.consume_agrees char
  | extract count => exact valid.extract_agrees count
  | takeTo stopping target =>
    rw [Content.reply, perform]
    refine (valid.stop?_agrees stopping target).bind fun said given same => ?_
    obtain ⟨rfl, inside⟩ := same
    obtain ⟨windows, taken, on⟩ :=
      valid.takeTo_agrees environment inside stopping.orEmpty
    rw [taken]
    exact Performed.done (.window on.1) on.2
  | dropTo stopping target =>
    rw [Content.reply, perform]
    refine (valid.stop?_agrees stopping target).bind fun said given same => ?_
    obtain ⟨rfl, inside⟩ := same
    obtain ⟨windows, taken, on⟩ :=
      valid.takeTo_agrees environment inside stopping.orEmpty
    rw [taken]
    exact Performed.done .itself on.2
  | takeDelimited delimiter => exact valid.takeDelimited_agrees delimiter
  | takeDelimitedAny delimiters => exact valid.takeDelimitedAny_agrees delimiters
  | trim chars => exact valid.trim_agrees chars
  | trimFront chars =>
    rw [Content.reply, perform]
    refine .after Eq.refl fun codes => ?_
    obtain ⟨rest, found, on⟩ := valid.trimFront_on codes.contains
    rw [found]
    exact Performed.done .itself on
  | trimBack chars =>
    rw [Content.reply, perform]
    refine .after Eq.refl fun codes => ?_
    obtain ⟨rest, found, on⟩ := valid.trimBack_on codes.contains
    rw [found]
    exact Performed.done .itself on
  | lines separator =>
    rw [Content.reply, perform]
    exact .after Eq.refl fun codes => Performed.done (.lines codes _) valid.on_whole
  | truth =>
    rw [Content.reply, perform, valid.isEmpty_content]
    exact Performed.answer valid rfl
  | toList => exact Performed.answer valid (Value.streams_ofUnits _ _)
  | plain => cases hidden
  | shown => cases hidden
  | hash => exact .fault rfl
  | buffer => cases hidden

theorem streams_ofBuffer (buffer : Buffer) : (Value.ofBuffer buffer).streams = [] := by
  obtain ⟨backing, units, bounded⟩ := buffer
  cases backing <;> rfl

theorem perform_exposed {operation : Operation} {outcome : Outcome} {rest : Stream}
    (exposes : operation.exposes = true)
    (done : whole.perform environment operation = .ok (outcome, rest)) :
    rest = whole ∧ ∃ value, outcome = .value value ∧ value.streams = [] := by
  cases operation with
  | text =>
    cases done
    exact ⟨rfl, _, rfl, streams_ofBuffer _⟩
  | view =>
    rw [perform] at done
    cases shown : whole.extract.memory? with
    | none => simp [shown] at done
    | some view =>
      simp only [shown, Except.ok.injEq, Prod.mk.injEq] at done
      obtain ⟨rfl, rfl⟩ := done
      exact ⟨rfl, _, rfl, rfl⟩
  | location file =>
    rw [perform] at done
    cases place : whole.location? with
    | none => simp [place, searched, bind, Except.bind] at done
    | some place' =>
      rw [place] at done
      cases done
      exact ⟨rfl, _, rfl, rfl⟩
  | plain =>
    cases done
    exact ⟨rfl, _, rfl, rfl⟩
  | shown =>
    cases done
    exact ⟨rfl, _, rfl, rfl⟩
  | buffer =>
    cases done
    exact ⟨rfl, _, rfl, streams_ofBuffer _⟩
  | _ => cases exposes

/-- Whatever an operation answers, it leaves a window inside the one it was asked of, and
what it answers is a window inside that one, its lines, or shows no stream. -/
theorem Valid.perform_windows (valid : whole.Valid) {operation : Operation} {outcome : Outcome}
    {rest : Stream} (done : whole.perform environment operation = .ok (outcome, rest)) :
    (∃ span, whole.On span rest) ∧ ∀ value, outcome = .value value →
      (∃ window span, value = .stream window ∧ whole.On span window) ∨
        (∃ lines, value = .lines lines ∧ lines.stream = whole) ∨ value.streams = [] := by
  cases exposes : operation.exposes with
  | true =>
    obtain ⟨rfl, value, rfl, plain⟩ := perform_exposed exposes done
    refine ⟨⟨_, valid.on_whole⟩, ?_⟩
    intro other same
    cases same
    exact .inr (.inr plain)
  | false =>
    have agrees := valid.perform_agrees environment exposes
    rw [done] at agrees
    obtain ⟨said, -, answered, left⟩ := agrees.answered
    refine ⟨⟨_, left⟩, ?_⟩
    rintro value rfl
    generalize said.1 = reply at answered
    cases answered with
    | value plain => exact .inr (.inr plain)
    | window on => exact .inl ⟨_, _, rfl, on⟩
    | lines separator forms => exact .inr (.inl ⟨_, rfl, rfl⟩)

end Stream

end TextScan
