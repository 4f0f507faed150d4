import TextScan.Proofs.Independence
import TextScan.Proofs.Refusal

namespace TextScan

namespace Value

def Precedes (first second : Value) : Prop := first.precedes? second = some true

/-- One list of values before another, by the first place where they differ. A list comes
after those it continues. -/
inductive Before : List Value → List Value → Prop where
  | ended (second : Value) (rest' : List Value) : Before [] (second :: rest')
  | here {first second : Value} (precedes : first.Precedes second) (rest rest' : List Value) :
    Before (first :: rest) (second :: rest')
  | later {first second : Value} {rest rest' : List Value} (same : first.equal second = true)
    (before : Before rest rest') : Before (first :: rest) (second :: rest')

/-- Lists of values that are equal place by place. -/
def Same (first second : List Value) : Prop :=
  List.Forall₂ (fun value value' => value.equal value' = true) first second

end Value

namespace Relation

/-- What a relation says of two lists of values. -/
def HoldsOf (relation : Relation) (first second : List Value) : Prop :=
  match relation with
  | eq => Value.Same first second
  | ne => ¬ Value.Same first second
  | lt => Value.Before first second
  | le => Value.Before first second ∨ Value.Same first second
  | gt => Value.Before second first
  | ge => Value.Before second first ∨ Value.Same first second

/-- What a relation says of two lists of codes. -/
def orders (relation : Relation) (first second : List Nat) : Bool :=
  match relation with
  | eq => decide (first = second)
  | ne => decide (first ≠ second)
  | lt => decide (first < second)
  | le => decide (¬ second < first)
  | gt => decide (second < first)
  | ge => decide (¬ first < second)

theorem not_lt_iff {first second : List Nat} :
    ¬ first < second ↔ second < first ∨ second = first :=
  List.not_lt.trans List.le_iff_lt_or_eq

section Carried

variable {first second first' second' : List Nat}

theorem lt_iff_of_lt (same : first' = second' ↔ first = second)
    (less : first < second → first' < second') (more : second < first → second' < first') :
    first' < second' ↔ first < second := by
  refine ⟨?_, less⟩
  intro less'
  by_contra apart
  rcases not_lt_iff.mp apart with after | equal
  · exact List.lt_asymm less' (more after)
  · exact List.lt_irrefl _ (same.mpr equal.symm ▸ less')

/-- Relations are carried on to lists that are one where the first are, and in order where they
are. -/
theorem orders_of_lt (same : first' = second' ↔ first = second)
    (less : first < second → first' < second') (more : second < first → second' < first')
    (relation : Relation) : relation.orders first' second' = relation.orders first second := by
  have before : first' < second' ↔ first < second := lt_iff_of_lt same less more
  have after : second' < first' ↔ second < first :=
    lt_iff_of_lt (eq_comm.trans (same.trans eq_comm)) more less
  cases relation with
  | eq => exact decide_eq_decide.mpr same
  | ne => exact decide_eq_decide.mpr (not_congr same)
  | lt => exact decide_eq_decide.mpr before
  | le => exact decide_eq_decide.mpr (not_congr after)
  | gt => exact decide_eq_decide.mpr after
  | ge => exact decide_eq_decide.mpr (not_congr before)

end Carried

/-- The relations that are made of two others read their operand twice. -/
def readsTwice : Relation → Bool
  | le => true
  | gt => true
  | _ => false

theorem orders_converse (relation : Relation) (first second : List Nat) :
    relation.converse.orders first second = relation.orders second first := by
  cases relation with
  | eq => simp only [converse, orders, eq_comm]
  | ne => simp only [converse, orders, ne_comm]
  | _ => rfl

theorem converse_ne {relation other : Relation} (different : relation ≠ other) :
    relation.converse ≠ other.converse := by
  intro same
  apply different
  rw [← relation.converse_converse, same, converse_converse]

end Relation

namespace Value

variable {unit : CharUnit} {first second : List Nat}

theorem number?_of_int? {value : Value} {amount : Int} (counted : value.int? = some amount) :
    value.number? = some (.whole amount) := by
  cases value with
  | int _ => exact congrArg (Option.map Number.whole) counted
  | bool _ => exact congrArg (Option.map Number.whole) counted
  | _ => cases counted

/-- Codes that a text has, where the unit is text. -/
def Written (unit : CharUnit) (codes : List Nat) : Prop :=
  unit.isText = true → ∀ code ∈ codes, code < 0x110000

theorem Written.head {code : Nat} {rest : List Nat} (written : Written unit (code :: rest)) :
    unit.isText = true → code < 0x110000 := fun text => written text code List.mem_cons_self

theorem Written.tail {code : Nat} {rest : List Nat} (written : Written unit (code :: rest)) :
    Written unit rest := fun text other member =>
  written text other (List.mem_cons_of_mem _ member)

theorem equal_ofUnit {unit' : CharUnit} {code code' : Nat}
    (inRange : unit.isText = true → code < 0x110000)
    (inRange' : unit'.isText = true → code' < 0x110000) :
    (ofUnit unit code).equal (ofUnit unit' code') = true ↔
      unit.isText = unit'.isText ∧ code = code' := by
  unfold ofUnit
  cases text : unit.isText <;> cases text' : unit'.isText
  · have same : ((code : Int) = (code' : Int)) ↔ code = code' := Int.ofNat_inj
    simp [equal, sameNumber, sameHolding, number?, int?, Number.sameAmount, Number.mantissa,
      Number.scale, same]
  · simp [equal, sameNumber, sameHolding, number?, int?]
  · simp [equal, sameNumber, sameHolding, number?, int?]
  · have apart : CodePoint.ofNat code = CodePoint.ofNat code' ↔ code = code' := by
      rw [Fin.ext_iff, CodePoint.val_ofNat (inRange text), CodePoint.val_ofNat (inRange' text')]
    simp [equal, apart]

theorem precedes_ofUnit {code code' : Nat}
    (inRange : unit.isText = true → code < 0x110000)
    (inRange' : unit.isText = true → code' < 0x110000) :
    (ofUnit unit code).Precedes (ofUnit unit code') ↔ code < code' := by
  unfold ofUnit Precedes
  cases text : unit.isText
  · simp [precedes?, number?, int?, Number.precedes_whole]
  · simp [precedes?, number?, int?, Text.codes, CodePoint.val_ofNat (inRange text),
      CodePoint.val_ofNat (inRange' text), List.cons_lt_cons_iff]

theorem same_ofUnit {unit' : CharUnit} (written : Written unit first)
    (written' : Written unit' second) :
    Same (first.map (ofUnit unit)) (second.map (ofUnit unit')) ↔
      first = second ∧ (unit.isText = unit'.isText ∨ first = []) := by
  induction first generalizing second with
  | nil =>
    cases second with
    | nil => simp [Same]
    | cons => simp [Same]
  | cons code rest ih =>
    cases second with
    | nil => simp [Same]
    | cons code' rest' =>
      have heads := equal_ofUnit written.head written'.head
      have tails := ih written.tail written'.tail
      unfold Same at tails ⊢
      rw [List.map_cons, List.map_cons, List.forall₂_cons, heads, tails, List.cons.injEq]
      constructor
      · rintro ⟨⟨kind, rfl⟩, rfl, -⟩
        exact ⟨⟨rfl, rfl⟩, .inl kind⟩
      · rintro ⟨⟨rfl, rfl⟩, kind⟩
        have same := kind.resolve_right (List.cons_ne_nil _ _)
        exact ⟨⟨same, rfl⟩, rfl, .inl same⟩

theorem before_ofUnit (written : Written unit first) (written' : Written unit second) :
    Before (first.map (ofUnit unit)) (second.map (ofUnit unit)) ↔ first < second := by
  induction first generalizing second with
  | nil =>
    cases second with
    | nil => exact ⟨nofun, fun less => absurd less (List.lt_irrefl [])⟩
    | cons code' rest' => exact ⟨fun _ => List.nil_lt_cons _ _, fun _ => .ended _ _⟩
  | cons code rest ih =>
    cases second with
    | nil => exact ⟨nofun, fun less => absurd less (List.not_lt_nil _)⟩
    | cons code' rest' =>
      have heads := precedes_ofUnit written.head written'.head
      have equal := equal_ofUnit written.head written'.head
      have tails := ih written.tail written'.tail
      rw [List.cons_lt_cons_iff]
      constructor
      · intro before
        cases before with
        | here precedes => exact .inl (heads.mp precedes)
        | later same before => exact .inr ⟨(equal.mp same).2, tails.mp before⟩
      · rintro (less | ⟨rfl, less⟩)
        · exact .here (heads.mpr less) _ _
        · exact .later (equal.mpr ⟨rfl, rfl⟩) (tails.mpr less)

/-- What a unit reads as a text it can show as values. -/
theorem written_of_text {value : Value} {codes : List Nat} (read : unit.text value = .ok codes) :
    Written unit codes := by
  intro text
  cases CharUnit.isText_iff.mp text
  cases value with
  | text given =>
    cases read
    rw [CharUnit.encode_wide]
    exact Text.codes_lt given
  | _ => cases read

theorem ofUnit_kind {unit' : CharUnit} (kind : unit.isText = unit'.isText) :
    ofUnit unit = ofUnit unit' := by
  funext code
  unfold ofUnit
  rw [kind]

/-- A relation holds of units as it does of their codes. -/
theorem holdsOf_ofUnit (relation : Relation) (written : Written unit first)
    (written' : Written unit second) :
    relation.HoldsOf (first.map (ofUnit unit)) (second.map (ofUnit unit)) ↔
      relation.orders first second = true := by
  have same : Same (first.map (ofUnit unit)) (second.map (ofUnit unit)) ↔ first = second := by
    rw [same_ofUnit written written']
    exact and_iff_left (.inl rfl)
  have before := before_ofUnit written written'
  have after := before_ofUnit written' written
  cases relation with
  | eq => exact same.trans decide_eq_true_iff.symm
  | ne => exact (not_congr same).trans decide_eq_true_iff.symm
  | lt => exact before.trans decide_eq_true_iff.symm
  | gt => exact after.trans decide_eq_true_iff.symm
  | le =>
    refine (or_congr before same).trans ?_
    rw [← Relation.not_lt_iff]
    exact decide_eq_true_iff.symm
  | ge =>
    refine (or_congr after (same.trans eq_comm)).trans ?_
    rw [← Relation.not_lt_iff]
    exact decide_eq_true_iff.symm

end Value

theorem Buffer.inRange (buffer : Buffer) {code : Nat} (held : code ∈ buffer.units)
    (text : buffer.unit.isText = true) : code < 0x110000 := by
  have bounded := buffer.bounded code held
  have wide : buffer.backing.unit = .wide := CharUnit.isText_iff.mp text
  rw [wide] at bounded
  exact Nat.lt_succ_of_le bounded

namespace Stream

variable {stream : Stream} {value : Value} {codes : List Nat}

/-- The units of a stream as values, in order. -/
def elements (stream : Stream) : List Value := stream.content.map (.ofUnit stream.unit)

theorem content_written (stream : Stream) : Value.Written stream.unit stream.content :=
  fun text _ member =>
    stream.buffer.inRange (List.mem_of_mem_drop (List.mem_of_mem_take member)) text

/-- Where a value stands for codes, each relation is the one between them and the content. -/
theorem holds?_eq (relation : Relation) (stands : stream.operand? value = some codes)
    (equal : stream.equals value = decide (stream.content = codes))
    (again : relation.readsTwice = true → stream.equals value.spent = stream.equals value) :
    stream.holds? relation value = some (relation.orders stream.content codes) := by
  have before : stream.precedes? value = some (decide (stream.content < codes)) := by
    rw [precedes?, stands]
    rfl
  cases relation with
  | eq => exact congrArg some equal
  | ne =>
    rw [holds?, equal, ← decide_not]
    rfl
  | lt => exact before
  | le =>
    rw [holds?, before, again rfl, equal]
    refine congrArg some ?_
    dsimp only [Relation.orders]
    rw [← Bool.decide_or]
    exact decide_eq_decide.mpr Relation.not_lt_iff.symm
  | gt =>
    rw [holds?, before, again rfl, equal]
    refine congrArg some ?_
    dsimp only [Relation.orders]
    rw [← decide_not, ← decide_not, ← Bool.decide_and]
    refine decide_eq_decide.mpr ⟨?_, ?_⟩
    · rintro ⟨notBefore, different⟩
      exact (Relation.not_lt_iff.mp notBefore).resolve_right (Ne.symm different)
    · intro after
      exact ⟨List.lt_asymm after, fun same => List.lt_irrefl codes (same ▸ after)⟩
  | ge =>
    rw [holds?, before]
    refine congrArg some ?_
    exact decide_not.symm

theorem ne_stream (alone : value.stream? = none) (other : Stream) : value ≠ .stream other := by
  rintro rfl
  cases alone

theorem comparison_swapped (relation : Relation) (alone : value.stream? = none) :
    stream.comparison relation true value = stream.compareFrom relation value := by
  cases value with
  | stream other => cases alone
  | _ => rfl

theorem operand?_eq (alone : value.stream? = none) (counted : value.int? = none) :
    stream.operand? value = (stream.unit.text value).toOption := by
  unfold operand?
  split
  · cases alone
  · rw [counted]

/-- Two streams of one kind compare as their contents do. -/
theorem Valid.compare_stream {other : Stream} (valid : stream.Valid) (valid' : other.Valid)
    (kind : stream.unit.isText = other.unit.isText) (relation : Relation) :
    stream.compare relation (.stream other) =
      .ok (relation.orders stream.content other.content) := by
  have stands : stream.operand? (.stream other) = some other.content := by
    rw [operand?]
    exact if_pos kind
  have equal : stream.equals (.stream other) = decide (stream.content = other.content) := by
    rw [equals, valid.equalsStream_eq valid']
    simp only [kind, true_or, and_true]
  rw [compare, checkRead_stream, holds?_eq relation stands equal fun _ => rfl]
  rfl

/-- A value that is read as a text compares as its units do, on either side. -/
theorem Valid.comparison_text (valid : stream.Valid) (alone : value.stream? = none)
    (counted : value.int? = none) (read : stream.unit.text value = .ok codes)
    (relation : Relation) (swapped : Bool)
    (once : (if swapped then relation.converse else relation).readsTwice = false ∨
      value.isWalk = false) :
    stream.comparison relation swapped value =
      .ok (if swapped then relation.orders codes stream.content
        else relation.orders stream.content codes) := by
  have stands : stream.operand? value = some codes := by
    rw [operand?_eq alone counted, read]
    rfl
  have equal : stream.equals value = decide (stream.content = codes) := by
    rw [valid.equals_eq (ne_stream alone), stands, Option.any_some]
    exact decide_eq_decide.mpr eq_comm
  have clear (obstacle : Obstacle) : stream.unit.text value ≠ .error (.blocked obstacle) := by
    rw [read]
    nofun
  have again (asked : Relation) (once : asked.readsTwice = false ∨ value.isWalk = false)
      (twice : asked.readsTwice = true) : stream.equals value.spent = stream.equals value := by
    have still := once.resolve_left (Bool.not_eq_false _ ▸ twice)
    rw [Value.spent_of_isWalk still]
  cases swapped with
  | false =>
    change stream.compare relation value = _
    rw [compare, checkRead_ok clear, holds?_eq relation stands equal (again relation once)]
    rfl
  | true =>
    rw [comparison_swapped relation alone, compareFrom, checkRead_ok clear,
      holds?_eq relation.converse stands equal (again relation.converse once),
      Relation.orders_converse]
    rfl

/-- A comparison answers, and says whether something holds. -/
def Decides (stream : Stream) (relation : Relation) (swapped : Bool) (value : Value)
    (holds : Prop) : Prop :=
  ∃ answer, stream.comparison relation swapped value = .ok answer ∧ (answer = true ↔ holds)

/-- A relation holds between two streams. -/
def Holds (first : Stream) (relation : Relation) (second : Stream) : Prop :=
  first.comparison relation false (.stream second) = .ok true

/-- Three streams in one order: each relation is the one between lists of their units, just
one of three cases holds, and the order is carried on. -/
structure Ordered (first second third : Stream) : Prop where
  related : ∀ relation, first.Decides relation false (.stream second)
    (relation.HoldsOf first.elements second.elements)
  one : (first.Holds .lt second ∧ ¬ first.Holds .eq second ∧ ¬ second.Holds .lt first) ∨
    (¬ first.Holds .lt second ∧ first.Holds .eq second ∧ ¬ second.Holds .lt first) ∨
    (¬ first.Holds .lt second ∧ ¬ first.Holds .eq second ∧ second.Holds .lt first)
  transitive : first.Holds .lt second → second.Holds .lt third → first.Holds .lt third

/-- Equality of streams is equality place by place, and an equivalence. -/
structure Equated (first second third : Stream) : Prop where
  related : ∀ relation, relation = .eq ∨ relation = .ne →
    first.Decides relation false (.stream second)
      (relation.HoldsOf first.elements second.elements)
  reflexive : first.Holds .eq first
  symmetric : first.Holds .eq second → second.Holds .eq first
  transitive : first.Holds .eq second → second.Holds .eq third → first.Holds .eq third

/-- A value that is not equal to a stream and has no order with it. -/
structure Apart (stream : Stream) (value : Value) : Prop where
  equal : ∀ swapped, stream.comparison .eq swapped value = .ok false
  different : ∀ swapped, stream.comparison .ne swapped value = .ok true
  unordered : ∀ relation swapped, relation ≠ .eq → relation ≠ .ne →
    ∃ fault, stream.comparison relation swapped value = .error fault ∧ fault.kind = .type

theorem Valid.apart (valid : stream.Valid) (alone : value.stream? = none)
    (clear : ∀ obstacle, stream.unit.text value ≠ .error (.blocked obstacle))
    (nothing : stream.operand? value = none) : stream.Apart value := by
  have different : stream.equals value = false := by
    rw [valid.equals_eq (ne_stream alone), nothing]
    rfl
  have before : stream.precedes? value = none := by
    rw [precedes?, nothing]
    rfl
  have own (relation : Relation) : stream.comparison relation false value =
      (stream.holds? relation value).elim
        (.error (.incomparable relation "Stream" value.fullTypeName)) .ok := by
    change stream.compare relation value = _
    rw [compare, checkRead_ok clear]
    cases stream.holds? relation value <;> rfl
  have other (relation : Relation) : stream.comparison relation true value =
      (stream.holds? relation.converse value).elim
        (.error (.incomparable relation value.fullTypeName "Stream")) .ok := by
    rw [comparison_swapped relation alone, compareFrom, checkRead_ok clear]
    cases stream.holds? relation.converse value <;> rfl
  have none (relation : Relation) (notEq : relation ≠ .eq) (notNe : relation ≠ .ne) :
      stream.holds? relation value = none := by
    cases relation with
    | eq => exact absurd rfl notEq
    | ne => exact absurd rfl notNe
    | _ => simp only [holds?, before, Option.map_none]
  refine ⟨?_, ?_, ?_⟩
  · intro swapped
    cases swapped with
    | false => rw [own, holds?, different, Option.elim_some]
    | true => rw [other, Relation.converse, holds?, different, Option.elim_some]
  · intro swapped
    cases swapped with
    | false => rw [own, holds?, different, Option.elim_some, Bool.not_false]
    | true => rw [other, Relation.converse, holds?, different, Option.elim_some, Bool.not_false]
  · intro relation swapped notEq notNe
    cases swapped with
    | false =>
      rw [own, none relation notEq notNe]
      exact ⟨_, rfl, rfl⟩
    | true =>
      rw [other, none relation.converse (Relation.converse_ne notEq) (Relation.converse_ne notNe)]
      exact ⟨_, rfl, rfl⟩

variable {first second third : Stream}

theorem Valid.holds_iff (valid : first.Valid) (valid' : second.Valid)
    (kind : first.unit.isText = second.unit.isText) (relation : Relation) :
    first.Holds relation second ↔ relation.orders first.content second.content = true := by
  change first.compare relation (.stream second) = _ ↔ _
  rw [valid.compare_stream valid' kind, Except.ok.injEq]

theorem Valid.ordered (valid : first.Valid) (valid' : second.Valid) (valid'' : third.Valid)
    (kind : first.unit.isText = second.unit.isText)
    (kind' : second.unit.isText = third.unit.isText) : first.Ordered second third := by
  have less := valid.holds_iff valid' kind .lt
  have same := valid.holds_iff valid' kind .eq
  have more := valid'.holds_iff valid kind.symm .lt
  have onward := valid'.holds_iff valid'' kind' .lt
  have through := valid.holds_iff valid'' (kind.trans kind') .lt
  simp only [Relation.orders, decide_eq_true_eq] at less same more onward through
  refine ⟨?_, ?_, ?_⟩
  · intro relation
    refine ⟨_, valid.compare_stream valid' kind relation, ?_⟩
    have written : Value.Written first.unit second.content := fun text =>
      second.content_written (kind ▸ text)
    rw [elements, elements, ← Value.ofUnit_kind kind]
    exact (Value.holdsOf_ofUnit relation first.content_written written).symm
  · rw [less, same, more]
    by_cases equal : first.content = second.content
    · rw [equal]
      exact .inr (.inl ⟨List.lt_irrefl _, rfl, List.lt_irrefl _⟩)
    · by_cases before : first.content < second.content
      · exact .inl ⟨before, equal, List.lt_asymm before⟩
      · have after := Relation.not_lt_iff.mp before
        exact .inr (.inr ⟨before, equal, after.resolve_right (Ne.symm equal)⟩)
  · rw [less, onward, through]
    exact List.lt_trans

theorem Valid.holds_eq_iff (valid : first.Valid) (valid' : second.Valid) :
    first.Holds .eq second ↔ first.content = second.content ∧
      (first.unit.isText = second.unit.isText ∨ first.content = []) := by
  rw [Holds, comparison_eq_stream, valid.equalsStream_eq valid', Except.ok.injEq, decide_eq_true_eq]

theorem Valid.equated (valid : first.Valid) (valid' : second.Valid) (valid'' : third.Valid) :
    first.Equated second third := by
  have same : first.equalsStream second = true ↔ Value.Same first.elements second.elements := by
    rw [valid.equalsStream_eq valid', decide_eq_true_eq]
    exact (Value.same_ofUnit first.content_written second.content_written).symm
  have equal := valid.holds_eq_iff valid'
  have onward := valid'.holds_eq_iff valid''
  refine ⟨?_, ?_, ?_, ?_⟩
  · rintro relation (rfl | rfl)
    · exact ⟨_, comparison_eq_stream second, same⟩
    · refine ⟨_, comparison_ne_stream second, ?_⟩
      rw [Bool.not_eq_true', ← Bool.not_eq_true]
      exact not_congr same
  · exact (valid.holds_eq_iff valid).mpr ⟨rfl, .inl rfl⟩
  · intro holds
    obtain ⟨content, kind⟩ := equal.mp holds
    refine (valid'.holds_eq_iff valid).mpr ⟨content.symm, ?_⟩
    exact kind.imp Eq.symm fun empty => content ▸ empty
  · intro holds holds'
    obtain ⟨content, kind⟩ := equal.mp holds
    obtain ⟨content', kind'⟩ := onward.mp holds'
    refine (valid.holds_eq_iff valid'').mpr ⟨content.trans content', ?_⟩
    rcases kind with kind | empty
    · exact kind'.imp kind.trans fun empty => content.trans empty
    · exact .inr empty

/-- Comparisons are one order on content: of streams of one kind, whatever holds them; of a
stream and any value but a number that its unit reads as a text; and of no other values. A
relation that reads twice cannot be asked of a walk. -/
theorem Valid.content_order (valid : first.Valid) (valid' : second.Valid)
    (valid'' : third.Valid) :
    (first.unit.isText = second.unit.isText → second.unit.isText = third.unit.isText →
      first.Ordered second third) ∧
    first.Equated second third ∧
    (∀ value, value.stream? = none → value.int? = none → ∀ codes,
      first.unit.text value = .ok codes → ∀ relation swapped,
        (if swapped then relation.converse else relation).readsTwice = false ∨
          value.isWalk = false →
        let units := codes.map (.ofUnit first.unit)
        first.Decides relation swapped value
          (if swapped then relation.HoldsOf units first.elements
            else relation.HoldsOf first.elements units)) ∧
    ∀ value, value.stream? = none →
      (value.int? ≠ none ∨ ∃ cause, first.unit.text value = .error cause) →
      (∀ obstacle, first.unit.text value ≠ .error (.blocked obstacle)) → first.Apart value := by
  refine ⟨valid.ordered valid' valid'', valid.equated valid' valid'', ?_, ?_⟩
  · intro value alone counted codes read relation swapped once
    have written := Value.written_of_text read
    refine ⟨_, valid.comparison_text alone counted read relation swapped once, ?_⟩
    cases swapped with
    | false => exact (Value.holdsOf_ofUnit relation first.content_written written).symm
    | true => exact (Value.holdsOf_ofUnit relation written first.content_written).symm
  · intro value alone excluded clear
    refine valid.apart alone clear ?_
    unfold operand?
    split
    · cases alone
    · split
      · rfl
      · rename_i counted
        obtain ⟨cause, refused⟩ := excluded.resolve_left (not_not_intro counted)
        rw [refused]
        rfl

/-- A byte of a string, and an array of two 16-bit units that begins with the same number. -/
def shortBytes : Stream := .ofBuffer (.ofBytes [97])

def longUnits : Stream :=
  .ofBuffer ⟨.array .short .utf16 ItemFormat.unit?_short, [97, 98], by decide⟩

theorem content_order_prefix :
    shortBytes.Decides .lt false (.stream longUnits) (Value.Before [.int 97] [.int 97, .int 98]) ∧
      shortBytes.Decides .ge true (.list [.int 97]) (Relation.HoldsOf .ge [.int 97] [.int 97]) ∧
      shortBytes.Apart (.int 97) := by
  have valid : longUnits.Valid := ofBuffer_valid _
  obtain ⟨ordered, -, beside, apart⟩ := (ofBuffer_valid (.ofBytes [97])).content_order valid valid
  refine ⟨(ordered rfl rfl).related .lt, ?_, ?_⟩
  · exact beside (.list [.int 97]) rfl rfl [97] rfl .ge true (.inr rfl)
  · exact apart (.int 97) rfl (.inl nofun) nofun

/-- A walk is at its end when a relation made of two reads it again, and a range of too many
numbers has no comparison at all. -/
theorem walk_read_again :
    let walk : Value := .generator 0 [.int 97]
    (shortBytes.unit.text walk = .ok [97] ∧ shortBytes.comparison .le false walk = .ok false ∧
      Relation.HoldsOf .le shortBytes.elements [.int 97]) ∧
    ∃ fault, shortBytes.comparison .eq false (.range 0 0x8000000000000000) = .error fault ∧
      fault.kind ≠ .type := by
  refine ⟨⟨rfl, by decide, .inr ?_⟩, .unit (some .narrow) (.blocked .uncounted), rfl, by decide⟩
  exact .cons rfl .nil

end Stream

end TextScan
