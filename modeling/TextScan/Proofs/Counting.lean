import TextScan.Proofs.Partition
import TextScan.Proofs.SessionRun

namespace TextScan

/-- What a call answered, if it did not fault. -/
def Report.outcome? (report : Report) : Option Outcome := report.result.toOption.map Prod.fst

namespace Stream

/-- Taking a count of units answers a view and leaves the rest. -/
def TakesCount (whole : Stream) (count : Int) (view rest : Stream) : Prop :=
  ∀ environment, whole.perform environment (.take (.whole count)) =
    .ok (.value (.stream view), rest)

/-- Dropping a count of units leaves the rest, if the count is none that an assertion refuses. -/
def DropsCount (whole : Stream) (count : Int) (rest : Stream) : Prop :=
  ∀ environment : Environment, (environment.checksAssertions = true → 0 ≤ count) →
    whole.perform environment (.drop (.whole count)) = .ok (.itself, rest)

/-- Extracting a count of units answers a value and leaves the rest, if the count is none that an
assertion refuses. -/
def ExtractsCount (whole : Stream) (count : Int) (answer : Value) (rest : Stream) : Prop :=
  ∀ environment : Environment, (environment.checksAssertions = true → 0 ≤ count) →
    whole.perform environment (.extract (.whole count)) = .ok (.value answer, rest)

/-- A window is made up of one in front and one behind it. -/
structure Joins (both front back : Stream) : Prop where
  before : both.Covers ⟨both.start, back.start⟩ front
  behind : both.Covers ⟨front.stop, both.stop⟩ back
  units : both.content = front.content ++ back.content

/-- Units that are extracted together are those that are taken, extracted one by one or looked up
at their offsets, and what is left is what taking and dropping leave. -/
structure Extracted (whole : Stream) (count : Nat) (units : List Value) (rest : Stream) :
    Prop where
  extracts : whole.ExtractsCount count (.tuple units) rest
  drops : whole.DropsCount count rest
  takes : ∃ view, whole.TakesCount count view rest ∧ ∀ environment,
    view.perform environment .toList = .ok (.value (.list units), view)
  singly : ∀ environments : List Environment, environments.length = count →
    let drained := whole.drain (environments.map fun environment =>
      (environment, .extract (.whole 1)))
    drained.1.map Report.outcome? = units.map (fun unit => some (.value (.tuple [unit]))) ∧
      rest.Covers ⟨rest.start, rest.stop⟩ drained.2
  counted : units.length = count
  offsets : ∀ (offset : Nat) (unit : Value), units[offset]? = some unit → ∀ environment,
    whole.perform environment (.at (.whole offset)) = .ok (.value unit, whole)

/-- Whatever is asked of a stream, alone or among others in a session, leaves it empty. -/
structure StaysEmpty (stream : Stream) : Prop where
  alone : ∀ calls, (stream.drain calls).2.isEmpty = true
  within : ∀ (session : Session) (id : Nat), session.Sound →
    session.streamOf? id = some stream → ∀ steps, ∃ later,
      (session.run steps).1.streamOf? id = some later ∧ later.isEmpty = true

variable {whole : Stream}

theorem Valid.takesCount (valid : whole.Valid) (count : Int) :
    whole.TakesCount count (whole.upTo (whole.reach count)) (whole.onFrom (whole.reach count)) := by
  intro environment
  rw [perform, valid.takeUpTo_eq]
  rfl

theorem Valid.dropsCount (valid : whole.Valid) (count : Int) :
    whole.DropsCount count (whole.onFrom (whole.reach count)) := by
  intro environment allowed
  rw [perform, checkCount_ok allowed, valid.takeUpTo_eq]
  rfl

theorem Valid.extractsCount (valid : whole.Valid) {count : Nat} (fits : count ≤ whole.size) :
    whole.ExtractsCount count (.tuple ((whole.content.take count).map (.ofUnit whole.unit)))
      (whole.onFrom (whole.start + count)) := by
  intro environment allowed
  have inside : ¬((count : Int) < 0 ∨ (whole.content.length : Int) < count) := by
    rw [valid.length_content]
    omega
  rw [perform, checkCount_ok allowed, extractExactly, valid.extract?_eq, if_neg inside]
  rfl

theorem Valid.extracts_null (valid : whole.Valid) {count : Int}
    (outside : ¬(0 ≤ count ∧ count ≤ whole.size)) : whole.ExtractsCount count .null whole := by
  intro environment allowed
  have misfit : count < 0 ∨ (whole.content.length : Int) < count := by
    rw [valid.length_content]
    omega
  rw [perform, checkCount_ok allowed, extractExactly, valid.extract?_eq, if_pos misfit]
  rfl

/-- A tuple is answered for just those counts that the window has units for. -/
theorem Valid.extracts_iff (valid : whole.Valid) (environment : Environment) {count : Int} :
    (∃ units rest, whole.perform environment (.extract (.whole count)) =
      .ok (.value (.tuple units), rest)) ↔ 0 ≤ count ∧ count ≤ whole.size := by
  constructor
  · rintro ⟨units, rest, done⟩
    by_contra outside
    rw [perform] at done
    obtain ⟨_, -, done⟩ := bind_eq_ok.mp done
    rw [extractExactly, valid.extract?_eq, valid.length_content, if_pos (by omega)] at done
    cases done
  · rintro ⟨counted, fits⟩
    obtain ⟨count, rfl⟩ := Int.eq_ofNat_of_zero_le counted
    exact ⟨_, _, valid.extractsCount (Int.ofNat_le.mp fits) environment fun _ => counted⟩

theorem reach_ofNat {count : Nat} (fits : count ≤ whole.size) :
    whole.reach count = whole.start + count := by
  rw [reach, Int.toNat_natCast, Nat.min_eq_left fits]

theorem reach_negative {count : Int} (negative : count < 0) : whole.reach count = whole.start := by
  rw [reach, Int.toNat_of_nonpos (Int.le_of_lt negative), Nat.zero_min, Nat.add_zero]

theorem Valid.reach_beyond (valid : whole.Valid) {count : Int} (beyond : whole.size ≤ count) :
    whole.reach count = whole.stop := by
  have ordered := valid.start_le_stop
  rw [reach, size] at *
  omega

theorem Valid.reach_le (valid : whole.Valid) (count : Int) : whole.reach count ≤ whole.stop := by
  have ordered := valid.start_le_stop
  rw [reach, size]
  omega

theorem reach_onFrom (first second : Nat) :
    (whole.onFrom (whole.reach first)).reach second = whole.reach (first + second : Nat) := by
  simp only [reach, onFrom, size, Int.toNat_natCast]
  omega

theorem reach_mono {first second : Int} (ordered : first ≤ second) :
    whole.reach first ≤ whole.reach second := by
  simp only [reach]
  omega

theorem Valid.rest (valid : whole.Valid) (count : Int) :
    (whole.onFrom (whole.reach count)).Valid :=
  ⟨valid.reach_le count, valid.stop_le_size⟩

/-- What is taken by one count and then by another is what is taken by both together. -/
theorem joins (first second : Nat) :
    (whole.upTo (whole.reach (first + second : Nat))).Joins (whole.upTo (whole.reach first))
      ((whole.onFrom (whole.reach first)).upTo (whole.reach (first + second : Nat))) where
  before := ⟨rfl, rfl, rfl⟩
  behind := ⟨rfl, rfl, rfl⟩
  units := (Buffer.between_append (Nat.le_add_right _ _) (reach_mono (by omega))).symm

/-- Extracting units one by one answers each on its own, and moves on by as many. -/
theorem Valid.drain_extracts (valid : whole.Valid) {environments : List Environment}
    (fits : environments.length ≤ whole.size) :
    let drained := whole.drain (environments.map fun environment =>
      (environment, .extract (.whole 1)))
    drained.1.map Report.outcome? = (whole.content.take environments.length).map (fun code =>
        some (.value (.tuple [.ofUnit whole.unit code]))) ∧
      whole.Covers ⟨whole.start + environments.length, whole.stop⟩ drained.2 := by
  induction environments generalizing whole with
  | nil => exact ⟨rfl, rfl, rfl, rfl⟩
  | cons environment environments later =>
    rw [List.length_cons] at fits
    have some : 1 ≤ whole.size := by omega
    have inside : 1 ≤ whole.content.length := valid.length_content ▸ some
    have left := valid.on_onFrom inside
    obtain ⟨code, more, units⟩ := List.exists_cons_of_length_pos inside
    have rest : (whole.onFrom (whole.start + 1)).content = more := by
      rw [left.content valid, units]
      simp
    have one : whole.perform environment (.extract (.whole 1)) = .ok
        (.value (.tuple [.ofUnit whole.unit code]), whole.onFrom (whole.start + 1)) := by
      have extracts := valid.extractsCount some environment fun _ => by decide
      rw [units] at extracts
      exact extracts
    have front : (Operation.extract (.whole 1)).takesFront = true := rfl
    have reported := whole.report_front environment front
    rw [one] at reported
    have shorter : (whole.onFrom (whole.start + 1)).size + 1 = whole.size := by
      rw [← (left.valid valid).length_content, ← valid.length_content, rest, units,
        List.length_cons]
    obtain ⟨each, covers⟩ := later (left.valid valid) (by omega)
    rw [rest] at each
    dsimp only at each covers ⊢
    rw [List.map_cons, drain, reported]
    dsimp only [Report.rest]
    rw [units, List.length_cons, List.take_succ_cons, List.map_cons, List.map_cons, each]
    refine ⟨rfl, covers.buffer, ?_, covers.stop⟩
    rw [covers.start]
    change whole.start + 1 + environments.length = whole.start + (environments.length + 1)
    omega

theorem Valid.extracted (valid : whole.Valid) {count : Nat} (fits : count ≤ whole.size) :
    whole.Extracted count ((whole.content.take count).map (.ofUnit whole.unit))
      (whole.onFrom (whole.start + count)) := by
  have place := reach_ofNat fits
  have inside : count ≤ whole.content.length := valid.length_content ▸ fits
  have length : (whole.content.take count).length = count := List.length_take_of_le inside
  have drops := valid.dropsCount count
  have takes := valid.takesCount count
  rw [place] at drops takes
  refine ⟨valid.extractsCount fits, drops, ⟨_, takes, fun environment => ?_⟩, ?_, ?_, ?_⟩
  · have units : (whole.upTo (whole.start + count)).content = whole.content.take count := by
      have on := on_upTo inside
      rw [on.content valid, List.drop_zero, Nat.sub_zero]
    rw [perform, units]
    rfl
  · intro environments same
    subst same
    obtain ⟨each, covers⟩ := valid.drain_extracts fits
    dsimp only at each covers ⊢
    rw [each, List.map_map]
    exact ⟨rfl, covers.buffer, covers.start, covers.stop⟩
  · rw [List.length_map, length]
  · intro offset unit found environment
    obtain ⟨code, held, rfl⟩ := Option.map_eq_some_iff.mp (List.getElem?_map ▸ found)
    have before : offset < count := length ▸ (List.getElem?_eq_some_iff.mp held).1
    have there : whole.at? offset = some code := by
      rw [valid.at?_eq, if_neg (by omega), Int.toNat_natCast]
      exact (List.getElem?_take_of_lt before).symm.trans held
    rw [perform, unitAt, there]
    rfl

section Empty

theorem On.empty {span : Scan.Span} {window : Stream} (on : whole.On span window)
    (valid : whole.Valid) (empty : whole.isEmpty = true) : window.isEmpty = true := by
  have inside := on.inside
  have ordered := on.ordered
  rw [← valid.isEmpty_content, List.isEmpty_iff] at empty
  rw [empty, List.length_nil] at inside
  rw [isEmpty, beq_iff_eq, on.start, on.stop]
  omega

theorem Valid.drain_empty (valid : whole.Valid) (empty : whole.isEmpty = true)
    (calls : List (Environment × Operation)) : (whole.drain calls).2.isEmpty = true := by
  induction calls generalizing whole with
  | nil => exact empty
  | cons call calls later =>
    obtain ⟨environment, operation⟩ := call
    obtain ⟨span, on⟩ := valid.report_on environment (.perform operation) _ List.mem_cons_self
    exact later (on.valid valid) (on.empty valid empty)

theorem run_empty {session : Session} (sound : session.Sound) {id : Nat}
    (held : session.streamOf? id = some whole) (empty : whole.isEmpty = true)
    (steps : List Session.Step) :
    ∃ later, (session.run steps).1.streamOf? id = some later ∧ later.isEmpty = true := by
  obtain ⟨cursor, there, rfl⟩ := Option.map_eq_some_iff.mp held
  obtain ⟨moved, found, inside⟩ := (Session.run_lawful sound steps).2.2.cursors id cursor there
  refine ⟨_, congrArg (Option.map _) found, ?_⟩
  have low := inside.start
  have ordered := inside.ordered
  have high := inside.stop
  have closed : cursor.start = cursor.stop := beq_iff_eq.mp empty
  refine beq_iff_eq.mpr ?_
  change moved.start = moved.stop
  omega

theorem Valid.staysEmpty (valid : whole.Valid) (empty : whole.isEmpty = true) :
    whole.StaysEmpty :=
  ⟨valid.drain_empty empty, fun _ _ sound held => run_empty sound held empty⟩

end Empty

/-- Counts of units that are taken, dropped or extracted. -/
theorem Valid.counts_agree (valid : whole.Valid) :
    (∀ first second : Nat, ∃ front back both rest last,
      whole.TakesCount first front rest ∧ rest.TakesCount second back last ∧
        whole.TakesCount (first + second : Nat) both last ∧ both.Joins front back ∧
      whole.DropsCount first rest ∧ rest.DropsCount second last ∧
        whole.DropsCount (first + second : Nat) last) ∧
    (∀ count : Nat, count ≤ whole.size → ∃ units rest, whole.Extracted count units rest) ∧
    (∀ count : Int, ¬(0 ≤ count ∧ count ≤ whole.size) → whole.ExtractsCount count .null whole) ∧
    (∀ environment, ∀ count : Int, (∃ units rest, whole.perform environment
      (.extract (.whole count)) = .ok (.value (.tuple units), rest)) ↔
        0 ≤ count ∧ count ≤ whole.size) ∧
    (∀ count : Int, count < 0 → ∃ view rest, whole.TakesCount count view rest ∧
      whole.DropsCount count rest ∧ view.isEmpty = true ∧
        whole.Covers ⟨whole.start, whole.stop⟩ rest) ∧
    ∀ count : Int, whole.size ≤ count → ∃ view rest, whole.TakesCount count view rest ∧
      whole.DropsCount count rest ∧ view.content = whole.content ∧ rest.isEmpty = true ∧
        rest.StaysEmpty := by
  refine ⟨?_, ?_, ?_, ?_, ?_, ?_⟩
  · intro first second
    have takes := (valid.rest first).takesCount second
    have drops := (valid.rest first).dropsCount second
    rw [reach_onFrom] at takes drops
    exact ⟨_, _, _, _, _, valid.takesCount first, takes, valid.takesCount _, joins first second,
      valid.dropsCount first, drops, valid.dropsCount _⟩
  · exact fun count fits => ⟨_, _, valid.extracted fits⟩
  · exact fun count outside => valid.extracts_null outside
  · exact fun environment count => valid.extracts_iff environment
  · intro count negative
    have takes := valid.takesCount count
    have drops := valid.dropsCount count
    rw [reach_negative negative] at takes drops
    exact ⟨_, _, takes, drops, beq_self_eq_true whole.start, ⟨rfl, rfl, rfl⟩⟩
  · intro count beyond
    have takes := valid.takesCount count
    have drops := valid.dropsCount count
    have left := valid.rest count
    rw [valid.reach_beyond beyond] at takes drops left
    have empty : (whole.onFrom whole.stop).isEmpty = true := beq_self_eq_true whole.stop
    exact ⟨_, _, takes, drops, rfl, empty, left.staysEmpty empty⟩

/-- Four units, of which three are extracted, five are not, and nine are taken by clearing them. -/
theorem counts_agree_text :
    let stream := ofBuffer (.ofText [97, 45, 44, 98])
    stream.Valid ∧ (∃ units rest, stream.Extracted 3 units rest) ∧
      stream.ExtractsCount 5 .null stream ∧
      ∃ view rest, stream.TakesCount 9 view rest ∧ rest.isEmpty = true ∧ rest.StaysEmpty := by
  have valid : (ofBuffer (.ofText [97, 45, 44, 98])).Valid := ofBuffer_valid _
  obtain ⟨-, extracted, misfit, -, -, cleared⟩ := valid.counts_agree
  obtain ⟨view, rest, takes, -, -, empty, stays⟩ := cleared 9 (by decide)
  exact ⟨valid, extracted 3 (by decide), misfit 5 (by decide), view, rest, takes, empty, stays⟩

end Stream

end TextScan
