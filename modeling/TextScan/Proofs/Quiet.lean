import TextScan.Proofs.Partition
import TextScan.Proofs.RefusedCalls

namespace TextScan

/-- The assertion that an operation fails, if it does while assertions are checked. -/
def Operation.failing? : Operation → Option Check
  | .drop count => if count.precedes (.whole 0) then some .dropCount else none
  | .extract count => if count.precedes (.whole 0) then some .extractCount else none
  | _ => none

/-- No operation fails the check of what is taken. -/
theorem Operation.failing?_counts (operation : Operation) :
    operation.failing? ≠ some .heldCount := by
  intro failing
  cases operation with
  | drop count => cases (Option.ite_none_right_eq_some.mp failing).2
  | extract count => cases (Option.ite_none_right_eq_some.mp failing).2
  | _ => cases failing

/-- A computation that fails no assertion. -/
def Quiet {α : Type} (result : Except Fault α) : Prop :=
  ∀ check, result ≠ .error (.assertion check)

namespace Quiet

variable {α β : Type} {result : Except Fault α}

theorem ok (answer : α) : Quiet (.ok answer) := nofun

theorem bind {next : α → Except Fault β} (first : Quiet result)
    (later : ∀ answer, result = .ok answer → Quiet (next answer)) : Quiet (result >>= next) := by
  cases result with
  | error fault =>
    intro check same
    cases same
    exact first check rfl
  | ok answer => exact later answer rfl

theorem map {change : α → β} (first : Quiet result) : Quiet (result.map change) := by
  cases result with
  | error fault =>
    intro check same
    cases same
    exact first check rfl
  | ok answer => nofun

theorem mapError (result : Except UnitFault α) (owner : Option CharUnit) :
    Quiet (result.mapError (.unit owner)) := by
  cases result with
  | error cause => nofun
  | ok answer => nofun

end Quiet

section Arguments

theorem numberLeft_quiet (relation : Relation) (value : Value) :
    Quiet (value.numberLeft relation) := by
  unfold Value.numberLeft
  split
  · nofun
  · nofun

theorem numberRight_quiet (relation : Relation) (value : Value) :
    Quiet (value.numberRight relation) := by
  unfold Value.numberRight
  split
  · nofun
  · nofun

theorem sliceBound?_quiet (value : Value) : Quiet value.sliceBound? := by
  unfold Value.sliceBound?
  split
  · nofun
  · exact (numberRight_quiet _ _).map

theorem windowBounds_quiet (size : Nat) (start stop : Value) :
    Quiet (Value.windowBounds size start stop) := by
  unfold Value.windowBounds
  split
  · dsimp only
    split
    · nofun
    · split
      · nofun
      · nofun
  · nofun

theorem admit_quiet (signature : Signature) (given : Nat) : Quiet ( signature.admit given) := by
  unfold Signature.admit
  dsimp only
  split
  · nofun
  · split
    · nofun
    · nofun

theorem bind_quiet (method : Method) (values : List Value) : Quiet (method.bind values) := by
  cases method with
  | has => exact .bind (admit_quiet _ _) fun _ _ => (numberRight_quiet _ _).map
  | «at» => exact .bind (admit_quiet _ _) fun _ _ => (numberRight_quiet _ _).map
  | slice =>
    refine .bind (admit_quiet _ _) fun _ _ => ?_
    exact .bind (sliceBound?_quiet _) fun _ _ => .bind (sliceBound?_quiet _) fun _ _ => .ok _
  | drop => exact .bind (admit_quiet _ _) fun _ _ => (numberLeft_quiet _ _).map
  | take => exact .bind (admit_quiet _ _) fun _ _ => (numberLeft_quiet _ _).map
  | extract => exact .bind (admit_quiet _ _) fun _ _ => (numberLeft_quiet _ _).map
  | item =>
    cases values with
    | nil => nofun
    | cons key rest => nofun
  | truth => nofun
  | toList => nofun
  | length => nofun
  | plain => nofun
  | shown => nofun
  | hash => nofun
  | duplicate => nofun
  | buffer => nofun
  | _ => exact .bind (admit_quiet _ _) fun _ _ => .ok _

/-- The method that an operation is one of. -/
def Operation.method : Operation → Method
  | .isEmpty => .isEmpty
  | .size => .size
  | .byteSize => .byteSize
  | .has _ => .has
  | .front => .front
  | .back => .back
  | .at _ => .at
  | .slice _ _ => .slice
  | .item _ => .item
  | .startsWith _ => .startsWith
  | .startsWithAny _ => .startsWithAny
  | .endsWith _ => .endsWith
  | .endsWithAny _ => .endsWithAny
  | .text => .text
  | .view => .view
  | .location _ => .location
  | .copy => .copy
  | .drop _ => .drop
  | .take _ => .take
  | .consume _ => .consume
  | .extract _ => .extract
  | .takeTo stopping _ => .takeTo stopping
  | .dropTo stopping _ => .dropTo stopping
  | .takeDelimited _ => .takeDelimited
  | .takeDelimitedAny _ => .takeDelimitedAny
  | .trim _ => .trim
  | .trimFront _ => .trimFront
  | .trimBack _ => .trimBack
  | .lines _ => .lines
  | .truth => .truth
  | .toList => .toList
  | .plain => .plain
  | .shown => .shown
  | .hash => .hash
  | .buffer => .buffer

/-- A method as the one that an operation is one of: two go by another name as well. -/
def Method.proper : Method → Method
  | .length => .size
  | .duplicate => .copy
  | method => method

theorem bind_method (method : Method) (values : List Value) (operation : Operation) :
    method.bind values = .ok operation → operation.method = method.proper := by
  revert operation
  have done {operation : Operation} (own : operation.method = method.proper) (other : Operation) :
      (.ok operation : Except Fault Operation) = .ok other → other.method = method.proper := by
    intro same
    cases same
    exact own
  have map {change : Number → Operation} (result : Except Fault Number)
      (own : ∀ count, (change count).method = method.proper) (operation : Operation) :
      result.map change = .ok operation → operation.method = method.proper := by
    cases result with
    | error fault => nofun
    | ok count => exact done (own count) operation
  have after {α : Type} {result : Except Fault α} {next : α → Except Fault Operation}
      (later : ∀ answer operation, next answer = .ok operation →
        operation.method = method.proper)
      (operation : Operation) :
      (result >>= next) = .ok operation → operation.method = method.proper := by
    intro same
    obtain ⟨answer, -, same⟩ := bind_eq_ok.mp same
    exact later answer operation same
  cases method with
  | has => exact after fun _ => map _ fun _ => rfl
  | «at» => exact after fun _ => map _ fun _ => rfl
  | drop => exact after fun _ => map _ fun _ => rfl
  | take => exact after fun _ => map _ fun _ => rfl
  | extract => exact after fun _ => map _ fun _ => rfl
  | slice => exact after fun _ => after fun _ => after fun _ => done rfl
  | item =>
    cases values with
    | nil => nofun
    | cons key rest => exact done rfl
  | truth => exact done rfl
  | toList => exact done rfl
  | length => exact done rfl
  | plain => exact done rfl
  | shown => exact done rfl
  | hash => exact done rfl
  | duplicate => exact done rfl
  | buffer => exact done rfl
  | _ => exact after fun _ => done rfl

end Arguments

namespace Content

open Scan

variable (sequence : Sequence) (environment : Environment) (unit : CharUnit) (content : List Nat)

theorem coerce_quiet {α : Type} (result : Except UnitFault α) : Quiet (coerce unit result) :=
  .mapError result (some unit)

theorem unitAt_quiet (offset : Number) : Quiet (unitAt sequence unit content offset) := by
  cases offset with
  | whole offset => nofun
  | decimal mantissa places =>
    unfold unitAt
    dsimp only
    split
    · nofun
    · nofun

theorem sliceBetween_quiet (start stop : Option Number) :
    Quiet (sliceBetween content start stop) := by
  unfold sliceBetween
  dsimp only
  split
  · nofun
  · nofun

theorem item_quiet (key : Value) : Quiet (item sequence unit content key) := by
  unfold item
  split
  · split
    · refine .bind (sliceBound?_quiet _) fun start _ => .bind (sliceBound?_quiet _) fun stop _ => ?_
      exact .bind (sliceBetween_quiet content start stop) fun span _ => .ok _
    · nofun
  · exact .bind (numberRight_quiet _ _) fun offset _ => (unitAt_quiet sequence unit content offset).map

theorem isAnyOf_quiet (code : Option Nat) (chars : Value) : Quiet (isAnyOf unit code chars) := by
  cases code with
  | none => nofun
  | some code => exact .bind (coerce_quiet unit _) fun chars _ => .ok _

theorem takeUpTo_quiet (count : Number) : Quiet (takeUpTo content count) := by
  unfold takeUpTo
  split
  · nofun
  · nofun

theorem extractExactly_quiet (count : Number) : Quiet (extractExactly content count) := by
  cases count with
  | whole count => nofun
  | decimal mantissa places =>
    unfold extractExactly
    dsimp only
    split
    · nofun
    · nofun

theorem stop?_quiet (stopping : Stopping) (target : Value) :
    Quiet (stop? unit content stopping target) := by
  unfold stop?
  split
  · exact .bind (coerce_quiet unit _) fun chars _ => .ok _
  · split
    · exact .ok _
    · exact .bind (coerce_quiet unit _) fun needle _ => .ok _

/-- A count that is not negative passes its check, and every count does unless it is checked. -/
theorem checkCount_quiet {count : Number} {failure other : Check}
    (passing : environment.checksAssertions = true →
      (if count.precedes (.whole 0) then some other else none) = none) :
    Quiet (Stream.checkCount environment count failure) := by
  cases checks : environment.checksAssertions with
  | false =>
    rw [Stream.checkCount, Stream.check, checks, Bool.not_false, Bool.or_true]
    exact .ok ()
  | true =>
    have whole : count.precedes (.whole 0) = false := by
      simpa using passing checks
    rw [Stream.checkCount, whole]
    exact .ok ()

/-- What is said of an operation on some content is no failed assertion, unless a count is
negative. -/
theorem reply_quiet {operation : Operation}
    (passing : environment.checksAssertions = true → operation.failing? = none) :
    Quiet (reply sequence environment unit content operation) := by
  cases operation with
  | «at» offset => exact .bind (unitAt_quiet sequence unit content offset) fun _ _ => .ok _
  | slice start stop => exact .bind (sliceBetween_quiet content start stop) fun _ _ => .ok _
  | item key => exact .bind (item_quiet sequence unit content key) fun _ _ => .ok _
  | startsWith text => exact .bind (coerce_quiet unit _) fun _ _ => .ok _
  | startsWithAny chars => exact .bind (isAnyOf_quiet unit _ chars) fun _ _ => .ok _
  | endsWith text => exact .bind (coerce_quiet unit _) fun _ _ => .ok _
  | endsWithAny chars => exact .bind (isAnyOf_quiet unit _ chars) fun _ _ => .ok _
  | drop count =>
    refine .bind (checkCount_quiet environment passing) fun _ _ => ?_
    exact .bind (takeUpTo_quiet content count) fun _ _ => .ok _
  | take count => exact .bind (takeUpTo_quiet content count) fun _ _ => .ok _
  | consume char => exact .bind (coerce_quiet unit _) fun _ _ => .ok _
  | extract count =>
    refine .bind (checkCount_quiet environment passing) fun _ _ => ?_
    refine .bind (extractExactly_quiet content count) fun held _ => ?_
    cases held with
    | none => exact .ok _
    | some count => exact .ok _
  | takeTo stopping target => exact .bind (stop?_quiet unit content _ _) fun _ _ => .ok _
  | dropTo stopping target => exact .bind (stop?_quiet unit content _ _) fun _ _ => .ok _
  | takeDelimited delimiter =>
    refine .bind (coerce_quiet unit _) fun needle _ => ?_
    split
    · exact .ok _
    · exact .ok _
  | takeDelimitedAny delimiters =>
    rw [reply]
    split
    · exact .ok _
    · refine .bind (coerce_quiet unit _) fun chars _ => ?_
      split
      · exact .ok _
      · exact .ok _
  | trim chars =>
    exact .bind (coerce_quiet unit _) fun _ _ => .bind (coerce_quiet unit _) fun _ _ => .ok _
  | trimFront chars => exact .bind (coerce_quiet unit _) fun _ _ => .ok _
  | trimBack chars => exact .bind (coerce_quiet unit _) fun _ _ => .ok _
  | lines separator => exact .bind (coerce_quiet unit _) fun _ _ => .ok _
  | hash =>
    intro check failed
    cases failed
  | _ => exact .ok _

end Content

namespace Stream

variable {whole : Stream} {environment : Environment} {operation : Operation} {count : Number}

theorem searched_quiet {α : Type} (answer : Option α) : Quiet (whole.searched answer) := by
  cases answer with
  | none => nofun
  | some answer => nofun

/-- Operations that tell where a window lies look at no count. -/
theorem exposed_quiet (exposes : operation.exposes = true) :
    Quiet (whole.perform environment operation) := by
  cases operation with
  | view =>
    rw [perform]
    split
    · exact .ok _
    · intro check failed
      cases failed
  | location file => exact .bind (searched_quiet _) fun _ _ => .ok _
  | text => exact .ok _
  | plain => exact .ok _
  | shown => exact .ok _
  | buffer => exact .ok _
  | _ => cases exposes

/-- An operation whose count is not negative fails no assertion, in any window: what a search
finds is in the window, so what is taken is held by it. -/
theorem Valid.perform_quiet (valid : whole.Valid)
    (passing : environment.checksAssertions = true → operation.failing? = none) :
    Quiet (whole.perform environment operation) := by
  cases exposes : operation.exposes with
  | true => exact exposed_quiet exposes
  | false =>
    intro check failed
    have agrees := valid.perform_agrees environment exposes
    rw [failed] at agrees
    cases said : Content.reply whole.sequence environment whole.unit whole.content operation with
    | ok answer =>
      rw [said] at agrees
      cases agrees
    | error fault =>
      rw [said] at agrees
      cases agrees with
      | fault same =>
        have quiet :=
          Content.reply_quiet whole.sequence environment whole.unit whole.content passing
        exact quiet check (said.trans (congrArg _ same))

theorem perform_failing {check : Check} (checks : environment.checksAssertions = true)
    (failing : operation.failing? = some check) :
    whole.perform environment operation = .error (.assertion check) := by
  have failed {count : Number} {failure : Check} (negative : count.precedes (.whole 0) = true) :
      checkCount environment count failure = .error (.assertion failure) := by
    simp [checkCount, Stream.check, checks, negative]
  cases operation with
  | drop count =>
    obtain ⟨negative, same⟩ := Option.ite_none_right_eq_some.mp failing
    cases same
    rw [perform, failed negative]
    rfl
  | extract count =>
    obtain ⟨negative, same⟩ := Option.ite_none_right_eq_some.mp failing
    cases same
    rw [perform, failed negative]
    rfl
  | _ => cases failing

theorem Valid.perform_ignored (valid : whole.Valid) {check : Check}
    (unchecked : environment.checksAssertions = false)
    (failing : operation.failing? = some check) :
    (check = .dropCount ∧ whole.perform environment operation =
        .ok (.itself, whole.onFrom whole.start)) ∨
      (check = .extractCount ∧ whole.perform environment operation =
        .ok (.value .null, whole)) := by
  have passed (count : Number) (failure : Check) :
      checkCount environment count failure = .ok () := by
    simp [checkCount, Stream.check, unchecked]
  cases operation with
  | drop count =>
    obtain ⟨negative, same⟩ := Option.ite_none_right_eq_some.mp failing
    cases same
    refine .inl ⟨rfl, ?_⟩
    rw [perform, passed, valid.takeUpTo_negative environment negative]
    rfl
  | extract count =>
    obtain ⟨negative, same⟩ := Option.ite_none_right_eq_some.mp failing
    cases same
    have none : whole.extractExactly count = .ok none := by
      cases count with
      | whole count =>
        rw [Number.precedes_whole, decide_eq_true_eq] at negative
        rw [extractExactly, extract?, if_pos (.inl negative)]
      | decimal mantissa places =>
        unfold extractExactly
        dsimp only
        rw [negative, Bool.true_or, if_pos rfl]
    refine .inr ⟨rfl, ?_⟩
    rw [perform, passed, none]
    rfl
  | _ => cases failing

end Stream

end TextScan
