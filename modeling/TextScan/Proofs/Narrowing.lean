import TextScan.Proofs.Readback

namespace TextScan

namespace Number

theorem larger_whole (first second : Int) :
    (whole first).larger (.whole second) = .whole (max first second) := by
  simp only [larger, precedes_whole, decide_eq_true_eq]
  split <;> congr 1 <;> omega

theorem smaller_whole (first second : Int) :
    (whole first).smaller (.whole second) = .whole (min first second) := by
  simp only [smaller, precedes_whole, decide_eq_true_eq]
  split <;> congr 1 <;> omega

end Number

namespace Bound

@[simp] theorem number_larger (first second : Bound) :
    (first.larger second).number = first.number.larger second.number :=
  apply_ite number _ _ _

@[simp] theorem number_smaller (first second : Bound) :
    (first.smaller second).number = first.number.smaller second.number :=
  apply_ite number _ _ _

end Bound

namespace Value

variable {value : Value} {bound : Option Int} {given : List Value} {low high : Option Int}

/-- Arguments that say from where to where: at most two, of which each is a whole number, or else
nothing, which stands for the end. -/
structure Bounds (given : List Value) (low high : Option Int) : Prop where
  few : given.length ≤ 2
  low : (given[0]?.getD Value.null).wholeBound? = .ok low
  high : (given[1]?.getD Value.null).wholeBound? = .ok high

def IsUnitStep (step : Value) : Prop :=
  step.wholeBound? = .ok none ∨ step.wholeBound? = .ok (some 1)

theorem wholeBound?_none (read : value.wholeBound? = .ok none) : value = .null := by
  cases value with
  | null => rfl
  | _ => cases read

theorem wholeBound?_some {amount : Int} (read : value.wholeBound? = .ok (some amount)) :
    value.int? = some amount := by
  cases value with
  | int _ => exact congrArg some (Option.some.inj (Except.ok.inj read))
  | bool _ => exact congrArg some (Option.some.inj (Except.ok.inj read))
  | _ => cases read

theorem bound?_of_wholeBound? {amount : Int} (read : value.wholeBound? = .ok (some amount)) :
    value.bound? = some ⟨.whole amount, value.form⟩ := by
  rw [bound?, number?_of_int? (wholeBound?_some read), Option.map_some]

theorem sliceBound?_of_wholeBound? (read : value.wholeBound? = .ok bound) :
    value.sliceBound? = .ok (bound.map .whole) := by
  cases bound with
  | none =>
    cases wholeBound?_none read
    rfl
  | some amount =>
    have counted := number?_of_int? (wholeBound?_some read)
    cases value with
    | null => cases counted
    | _ => simp only [sliceBound?, numberRight, counted, Except.map, Option.map_some]

theorem IsUnitStep.equal {step : Value} (unit : step.IsUnitStep) :
    (step.equal .null || step.equal (.int 1)) = true := by
  rcases unit with absent | single
  · cases wholeBound?_none absent
    rfl
  · have counted := wholeBound?_some single
    cases step with
    | int _ =>
      cases counted
      rfl
    | bool value =>
      cases value with
      | true => rfl
      | false => cases counted
    | _ => cases counted

theorem Bounds.start (bounds : Bounds given low high) (told : given.head? ≠ some .null) :
    (given[0]?.getD (Value.int 0)).wholeBound? = .ok (some (low.getD 0)) := by
  have read := bounds.low
  cases given with
  | nil =>
    cases read
    rfl
  | cons first rest =>
    cases low with
    | none => exact absurd (congrArg some (wholeBound?_none read)) told
    | some amount => exact read

theorem windowBounds_whole (size : Nat) {start stop : Value} {first : Int} {last : Option Int}
    (read : start.wholeBound? = .ok (some first)) (read' : stop.wholeBound? = .ok last) :
    ∃ low high, windowBounds size start stop = .ok (low, high) ∧
      low.number = .whole (min first.toNat size) ∧
      high.number =
        .whole (max (min (last.getD size).toNat size) (min first.toNat size)) := by
  have moved : (((Bound.mk (.whole first) start.form).larger (.ofInt 0)).smaller
      (.ofInt size)).number = .whole (min first.toNat size) := by
    simp only [Bound.number_smaller, Bound.number_larger, Bound.ofInt, Number.larger_whole,
      Number.smaller_whole]
    congr 1
    omega
  rw [windowBounds, bound?_of_wholeBound? read]
  cases last with
  | none =>
    cases wholeBound?_none read'
    refine ⟨_, _, rfl, moved, congrArg Number.whole ?_⟩
    rw [Option.getD_none]
    omega
  | some amount =>
    have given := bound?_of_wholeBound? read'
    cases stop with
    | null => cases given
    | _ =>
      simp only [given, Option.getD_some]
      refine ⟨_, _, rfl, moved, ?_⟩
      rw [Bound.number_smaller, Bound.number_larger, moved, Bound.ofInt, Number.larger_whole,
        Number.smaller_whole]
      congr 1
      omega

end Value

namespace Stream

variable {stream : Stream} {start stop : Value} {first : Int} {low high : Option Int}

/-- Where a slice starts and stops: both offsets are moved inside the window, and of two that cross
the lower one counts. -/
theorem slice_eq (stream : Stream) (low high : Option Int) :
    stream.slice low high = stream.between
      (stream.start + min (low.getD 0).toNat stream.size)
      (stream.start + max (min (high.getD stream.size).toNat stream.size)
        (min (low.getD 0).toNat stream.size)) := by
  unfold slice
  cases low <;> cases high <;>
    · simp only [Option.getD_none, Option.getD_some]
      split <;> congr 1 <;> omega

/-- A bound that is left out is the respective end. -/
theorem slice_ends (stream : Stream) (low high : Option Int) :
    stream.slice low high = stream.slice (some (low.getD 0)) (some (high.getD stream.size)) := by
  rw [slice_eq, slice_eq, Option.getD_some, Option.getD_some]

theorem slice_start (stream : Stream) (low high : Option Int) :
    stream.slice (some (low.getD 0)) high = stream.slice low high := by
  rw [slice_ends, slice_ends _ low, Option.getD_some]

theorem narrow_eq_slice (stream : Stream) (first : Int) (high : Option Int) :
    stream.narrow first high = stream.slice (some first) high := by
  rw [slice_eq]
  unfold narrow
  cases high <;>
    · simp only [Option.getD_none, Option.getD_some]
      congr 1
      omega

theorem ofBounds_eq_slice (buffer : Buffer) (first : Int) (high : Option Int) :
    ofBounds buffer first high = (ofBuffer buffer).slice (some first) high := by
  rw [← narrow_eq_slice]
  exact congrArg₂ (fun start stop => Stream.mk buffer start stop .number .number)
    (Nat.zero_add _).symm (Nat.zero_add _).symm

theorem slice_moved (stream : Stream) (low high : Option Int) :
    stream.slice (some (min (low.getD 0).toNat stream.size))
        (some (max (min (high.getD stream.size).toNat stream.size)
          (min (low.getD 0).toNat stream.size))) =
      stream.slice low high := by
  rw [slice_eq, slice_eq stream low high, Option.getD_some, Option.getD_some]
  congr 1 <;> omega

theorem part_eq_slice (stream : Stream) (read : start.wholeBound? = .ok (some first))
    (read' : stop.wholeBound? = .ok high) :
    stream.part start stop = .ok (stream.slice (some first) high) := by
  obtain ⟨lower, upper, bounds, lower_eq, upper_eq⟩ :=
    Value.windowBounds_whole stream.size read read'
  have moved := stream.slice_moved (some first) high
  rw [Option.getD_some] at moved
  rw [part, bounds]
  simp only [bind, Except.bind, pure, Except.pure, lower_eq, upper_eq]
  rw [narrow_eq_slice, moved]

theorem sliceBetween_eq_slice (stream : Stream) (low high : Option Int) :
    stream.sliceBetween (low.map .whole) (high.map .whole) = .ok (stream.slice low high) := by
  have lower : (low.map Number.whole).getD (.whole 0) = .whole (low.getD 0) :=
    Option.getD_map _ _ _
  have upper : (high.map Number.whole).getD (.whole stream.size) = .whole (high.getD stream.size) :=
    Option.getD_map _ _ _
  have chosen := Number.larger_whole (min (high.getD stream.size).toNat stream.size)
    (min (low.getD 0).toNat stream.size)
  rw [Number.larger] at chosen
  simp only [sliceBetween, lower, upper, Number.clamp_whole]
  rw [chosen]
  exact congrArg Except.ok (stream.slice_moved low high)

/-- A slice of the whole window is a slice of the window. -/
theorem slice_whole (stream : Stream) (low high : Option Int) :
    (stream.slice (some 0) none).slice low high = stream.slice low high := by
  have whole : stream.slice (some 0) none =
      stream.between stream.start (stream.start + stream.size) := by
    rw [slice_eq, Option.getD_some, Option.getD_none]
    congr 1
    omega
  have size : (stream.between stream.start (stream.start + stream.size)).size = stream.size :=
    Nat.add_sub_cancel_left _ _
  rw [whole, slice_eq, size, slice_eq stream]
  rfl

theorem item_eq_slice (stream : Stream) {step : Value} (unit : step.IsUnitStep)
    (read : start.wholeBound? = .ok low) (read' : stop.wholeBound? = .ok high) :
    stream.item (.slice start stop step) = .ok (.stream (stream.slice low high)) := by
  simp only [item, Value.slice?, unit.equal, if_true, Value.sliceBound?_of_wholeBound? read,
    Value.sliceBound?_of_wholeBound? read', sliceBetween_eq_slice, bind, Except.bind, pure,
    Except.pure]

theorem content_slice (stream : Stream) (low high : Int) :
    (stream.slice (some low) (some high)).content =
      (stream.content.take high.toNat).drop low.toNat := by
  have outer : stream.content.take high.toNat =
      (stream.buffer.units.drop stream.start).take (min high.toNat stream.size) :=
    List.take_take
  rw [outer, List.drop_take, slice_eq, Option.getD_some, Option.getD_some]
  change ((stream.buffer.units.drop (stream.start + min low.toNat stream.size)).take
    (stream.start + _ - (stream.start + _))) = _
  rw [Nat.add_sub_add_left, ← List.drop_drop]
  rcases Nat.le_total low.toNat stream.size with inside | past
  · rw [Nat.min_eq_left inside]
    congr 1
    omega
  · have none_left : max (min high.toNat stream.size) (min low.toNat stream.size) -
        min low.toNat stream.size = 0 := by omega
    have none_right : min high.toNat stream.size - low.toNat = 0 := by omega
    rw [none_left, none_right, List.take_zero, List.take_zero]

theorem elements_slice (stream : Stream) (low high : Int) :
    (stream.slice (some low) (some high)).elements =
      (stream.elements.take high.toNat).drop low.toNat := by
  have same : (stream.slice (some low) (some high)).unit = stream.unit := rfl
  rw [elements, content_slice, elements, same, List.map_drop, List.map_take]

theorem slice_isEmpty (stream : Stream) {low high : Int}
    (crossed : high ≤ low ∨ high ≤ 0 ∨ stream.size ≤ low) :
    (stream.slice (some low) (some high)).isEmpty = true := by
  rw [slice_eq, Option.getD_some, Option.getD_some]
  refine beq_iff_eq.mpr (congrArg (stream.start + ·) ?_)
  omega

/-- A slice of what stands between two offsets of a window is a slice of the window, its own offsets
being counted on from the first and moved no further than to the second. -/
theorem slice_between (stream : Stream) {lo hi : Nat} (ordered : lo ≤ hi)
    (inside : hi ≤ stream.size) (first last : Int) :
    (stream.between (stream.start + lo) (stream.start + hi)).slice (some first) (some last) =
      stream.slice (some (min (lo + max first 0) hi)) (some (min (lo + max last 0) hi)) := by
  have size : (stream.between (stream.start + lo) (stream.start + hi)).size = hi - lo :=
    Nat.add_sub_add_left _ _ _
  have moved (offset : Int) : min (min (lo + max offset 0) hi).toNat stream.size =
      lo + min offset.toNat (hi - lo) := by omega
  have later (offset offset' : Nat) : max (lo + offset) (lo + offset') =
      lo + max offset offset' := by omega
  rw [slice_eq, slice_eq, size]
  simp only [Option.getD_some]
  rw [moved, moved, later, ← Nat.add_assoc, ← Nat.add_assoc]
  rfl

theorem slice_slice (stream : Stream) (low high : Option Int) :
    ∃ lo hi : Nat, lo ≤ hi ∧ hi ≤ stream.size ∧
      stream.slice low high = stream.between (stream.start + lo) (stream.start + hi) ∧
      ∀ first last : Int, (stream.slice low high).slice (some first) (some last) =
        stream.slice (some (min (lo + max first 0) hi)) (some (min (lo + max last 0) hi)) := by
  have window := stream.slice_eq low high
  have ordered := Nat.le_max_right (min (high.getD stream.size).toNat stream.size)
    (min (low.getD 0).toNat stream.size)
  have inside := Nat.max_le.mpr ⟨Nat.min_le_right (high.getD stream.size).toNat stream.size,
    Nat.min_le_right (low.getD 0).toNat stream.size⟩
  refine ⟨_, _, ordered, inside, window, fun first last => ?_⟩
  rw [window]
  exact stream.slice_between ordered inside first last

end Stream

namespace Buffer

/-- A new window on a buffer is a slice of the whole of it, the forms of its bounds apart. -/
theorem window_eq_slice (buffer : Buffer) {start stop : Value} {first : Int} {high : Option Int}
    (read : start.wholeBound? = .ok (some first)) (read' : stop.wholeBound? = .ok high) :
    ∃ form form', buffer.window start stop =
      .ok (((Stream.ofBuffer buffer).slice (some first) high).written form form') := by
  obtain ⟨lower, upper, bounds, lower_eq, upper_eq⟩ :=
    Value.windowBounds_whole buffer.size read read'
  have moved := (Stream.ofBuffer buffer).slice_moved (some first) high
  rw [Option.getD_some] at moved
  refine ⟨lower.form, upper.form, ?_⟩
  rw [window, bounds]
  simp only [bind, Except.bind, pure, Except.pure, lower_eq, upper_eq]
  rw [Stream.ofBounds_eq_slice]
  exact congrArg (fun slice => Except.ok (slice.written lower.form upper.form)) moved

end Buffer

theorem Signature.admit_ok {signature : Signature} {count : Nat}
    (enough : signature.required.length ≤ count)
    (few : count ≤ signature.required.length + signature.optional) :
    signature.admit count = .ok () := by
  unfold Signature.admit
  rw [if_neg (Nat.not_lt.mpr few), if_neg (Nat.not_lt.mpr enough)]

theorem Method.bind_slice {given : List Value} {low high : Option Int}
    (bounds : Value.Bounds given low high) :
    Method.bind .slice given = .ok (.slice (low.map .whole) (high.map .whole)) := by
  have admitted : Signature.admit ⟨"Stream.slice", [], 2⟩ given.length = .ok () :=
    Signature.admit_ok (Nat.zero_le _) bounds.few
  have first : given.headD .null = given[0]?.getD .null := by
    cases given with
    | _ => rfl
  have lower := Value.sliceBound?_of_wholeBound? bounds.low
  have upper := Value.sliceBound?_of_wholeBound? bounds.high
  rw [← first] at lower
  change Signature.admit ⟨"Stream.slice", [], 2⟩ given.length >>= _ = _
  rw [admitted]
  simp only [Bind.bind, Except.bind, pure, Except.pure, lower, upper]

namespace Session

variable {session : Session} {on : String} {id : Nat} {cursor : Cursor} {arguments : List Term}
  {given : List Value} {low high : Option Int}

/-- A new cursor on a slice of the window of a cursor, and its stream. -/
def narrowed (session : Session) (cursor : Cursor) (low high : Option Int) : Effect :=
  session.answerStream
    (.ofStream cursor.buffer cursor.pinned ((session.store.stream cursor).slice low high))

theorem setCursor_same (known : session.store.cursors[id]? = some cursor) :
    { session with
      store := session.store.setCursor id
        (.ofStream cursor.buffer cursor.pinned (session.store.stream cursor)) } = session := by
  obtain ⟨bound, same⟩ := List.getElem?_eq_some_iff.mp known
  have put : session.store.cursors.set id cursor = session.store.cursors := by
    rw [← same]
    exact List.set_getElem_self bound
  exact congrArg (fun cursors => { session with
    store := { session.store with cursors } }) put

/-- What a method gives that leaves the stream as it is and gives a slice of it. -/
theorem call_narrowed {method : Method} {operation : Operation}
    (held : session.lookup on = .ok (.stream id))
    (known : session.store.cursors[id]? = some cursor)
    (read : session.evalMany arguments = .ok given) (bound : method.bind given = .ok operation)
    (performed : (session.store.stream cursor).perform session.environment operation =
      .ok (.value (.stream ((session.store.stream cursor).slice low high)),
        session.store.stream cursor)) :
    session.effect (.call on method arguments) = .ok (session.narrowed cursor low high) := by
  have put := setCursor_same known
  simp only [effect, call, held, read, known, bound, performed, bind, Except.bind, pure,
    Except.pure]
  rw [put]
  rfl

/-- An effect that gives a slice of the stream that another one gives: both put a new cursor on one
buffer into one session. The bounds of the slice are written in forms of their own. -/
def Effect.SliceOf (part whole : Effect) (low high : Option Int) : Prop :=
  ∃ (session : Session) (cursor : Cursor) (form form' : NumberForm),
    whole = session.answerStream cursor ∧
      part = session.answerStream (.ofStream cursor.buffer cursor.pinned
        (((session.store.stream cursor).slice low high).written form form'))

/-- A new stream on a buffer with bounds is a slice of the one without. -/
theorem window_sliceOf (session : Session) {buffer : Buffer} (pinned : Bool)
    {start stop : Value} (own : session.store.buffer id = buffer)
    (read : start.wholeBound? = .ok (some (low.getD 0))) (read' : stop.wholeBound? = .ok high) :
    ∃ window, buffer.window start stop = .ok window ∧
      Effect.SliceOf (session.answerStream (.ofStream id pinned window))
        (session.answerStream (.ofStream id pinned (.ofBuffer buffer))) low high := by
  obtain ⟨form, form', window⟩ := buffer.window_eq_slice read read'
  have shown : session.store.stream (.ofStream id pinned (.ofBuffer buffer)) = .ofBuffer buffer :=
    congrArg (fun own => Stream.mk own 0 buffer.size .number .number) own
  refine ⟨_, window, session, .ofStream id pinned (.ofBuffer buffer), form, form', rfl, ?_⟩
  rw [shown, Stream.slice_start]
  rfl

/-- A new stream with bounds is a slice of the one without. -/
theorem createOver_sliceOf {object : Object} {value : Value} {whole : Effect}
    (bounds : Value.Bounds given low high) (told : given.head? ≠ some .null)
    (made : session.createOver object [value] = .ok whole) :
    ∃ part, session.createOver object (value :: given) = .ok part ∧
      part.SliceOf whole low high := by
  have start := bounds.start told
  -- a buffer that the store does not have is put into it before
  have added (made : session.createOver (.value value) [value] = .ok whole) :
      ∃ part, session.createOver (.value value) (value :: given) = .ok part ∧
        part.SliceOf whole low high := by
    obtain ⟨buffer, read, made⟩ := bind_eq_ok.mp made
    obtain ⟨window, opened, sliced⟩ := window_sliceOf
      { session with store := (session.store.addBuffer ⟨buffer, none⟩).1 }
      (session.pins buffer) (session.store.addBuffer_known ⟨buffer, none⟩).2 start bounds.high
    obtain ⟨_, first, made⟩ := bind_eq_ok.mp made
    cases buffer.window_whole.symm.trans first
    cases made
    exact ⟨_, bind_eq_ok.mpr ⟨buffer, read, bind_eq_ok.mpr ⟨window, opened, rfl⟩⟩, sliced⟩
  cases object with
  | stream id =>
    unfold createOver at made ⊢
    dsimp only at made ⊢
    split at made
    · rename_i cursor known
      obtain ⟨_, first, made⟩ := bind_eq_ok.mp made
      cases ((session.store.stream cursor).part_eq_slice rfl rfl).symm.trans first
      cases made
      have second := (session.store.stream cursor).part_eq_slice start bounds.high
      rw [Stream.slice_start, ← Stream.slice_whole] at second
      exact ⟨_, bind_eq_ok.mpr ⟨_, second, rfl⟩, session, .ofStream cursor.buffer cursor.pinned
        ((session.store.stream cursor).slice (some 0) none), .number, .number, rfl, rfl⟩
    · cases made
  | buffer id =>
    have own : session.store.buffer id = session.store.buffer id := rfl
    obtain ⟨window, opened, sliced⟩ := session.window_sliceOf
      (session.pins (session.store.buffer id)) own start bounds.high
    obtain ⟨_, first, made⟩ := bind_eq_ok.mp made
    cases (session.store.buffer id).window_whole.symm.trans first
    cases made
    exact ⟨_, bind_eq_ok.mpr ⟨window, opened, rfl⟩, sliced⟩
  | _ => exact added made

theorem create_eq {source : Term} {value : Value} {object : Object}
    (read : session.eval source = .ok value) (read' : session.evalMany arguments = .ok given)
    (few : given.length ≤ 2) (held : session.hold source = .ok object) :
    session.effect (.create (source :: arguments)) =
      session.createOver object (value :: given) := by
  have values : session.evalMany (source :: arguments) = .ok (value :: given) :=
    bind_eq_ok.mpr ⟨value, read, bind_eq_ok.mpr ⟨given, read', rfl⟩⟩
  have admitted : creation.admit (value :: given).length = .ok () :=
    Signature.admit_ok (Nat.zero_le _) (Nat.succ_le_succ few)
  have source : session.sourceOf (source :: arguments) = .ok object := held
  rw [effect, create, values]
  change creation.admit _ >>= _ = _
  rw [admitted]
  change session.sourceOf _ >>= _ = _
  rw [source]
  rfl

theorem create_narrowed (held : session.lookup on = .ok (.stream id))
    (known : session.store.cursors[id]? = some cursor)
    (read : session.evalMany arguments = .ok given) (bounds : Value.Bounds given low high)
    (told : given.head? ≠ some .null) :
    session.effect (.create (.register on :: arguments)) =
      .ok (session.narrowed cursor low high) := by
  have own : session.eval (.register on) = .ok (session.valueOf (.stream id)) := by
    change (session.lookup on).map session.valueOf = _
    rw [held]
    rfl
  have part := (session.store.stream cursor).part_eq_slice (bounds.start told) bounds.high
  rw [Stream.slice_start] at part
  rw [create_eq own read bounds.few held, createOver]
  simp only [known]
  exact bind_eq_ok.mpr ⟨_, part, rfl⟩

/-- All ways of narrowing agree. The method of a stream, a new stream over it and its subscript give
one and the same slice of it, and a new stream over any source is a slice of the one over all of
the source. A bound that is left out is the respective end; a slice holds what stands between its
offsets in the list of all units, and slices of slices are slices. -/
theorem narrowings_agree (session : Session) {arguments : List Term} {given : List Value}
    {low high : Option Int} (read : session.evalMany arguments = .ok given)
    (bounds : Value.Bounds given low high) :
    (∀ on id cursor, session.lookup on = .ok (.stream id) →
      session.store.cursors[id]? = some cursor →
        session.effect (.call on .slice arguments) = .ok (session.narrowed cursor low high) ∧
        (given.head? ≠ some .null → session.effect (.create (.register on :: arguments)) =
          .ok (session.narrowed cursor low high)) ∧
        ∀ key step, step.IsUnitStep →
          session.eval key = .ok (.slice (given[0]?.getD .null) (given[1]?.getD .null) step) →
            session.effect (.call on .item [key]) = .ok (session.narrowed cursor low high)) ∧
    (∀ source whole, given.head? ≠ some .null → session.effect (.create [source]) = .ok whole →
      ∃ part, session.effect (.create (source :: arguments)) = .ok part ∧
        part.SliceOf whole low high) ∧
    ∀ stream : Stream,
      stream.slice low high =
        stream.slice (some (low.getD 0)) (some (high.getD stream.size)) ∧
      (∀ (first last : Int) (environment : Environment) (members : List Value),
        stream.perform environment .toList = .ok (.value (.list members), stream) →
          let window := stream.slice (some first) (some last)
          window.perform environment .toList = .ok (.value (.list
            ((members.take (max last 0).toNat).drop (max first 0).toNat)), window) ∧
          (last ≤ first ∨ last ≤ 0 ∨ stream.size ≤ first → window.isEmpty = true)) ∧
      ∃ lo hi : Nat, lo ≤ hi ∧ hi ≤ stream.size ∧
        stream.slice low high = stream.between (stream.start + lo) (stream.start + hi) ∧
        ∀ first last : Int, (stream.slice low high).slice (some first) (some last) =
          stream.slice (some (min (lo + max first 0) hi)) (some (min (lo + max last 0) hi)) := by
  refine ⟨?_, ?_, fun stream => ⟨stream.slice_ends low high, ?_, stream.slice_slice low high⟩⟩
  · intro on id cursor held known
    have sliced := (session.store.stream cursor).sliceBetween_eq_slice low high
    refine ⟨?_, create_narrowed held known read bounds, ?_⟩
    · exact call_narrowed held known read (Method.bind_slice bounds)
        (bind_eq_ok.mpr ⟨_, sliced, rfl⟩)
    · intro key step unit evaluated
      have read' : session.evalMany [key] = .ok [.slice _ _ step] :=
        bind_eq_ok.mpr ⟨_, evaluated, rfl⟩
      have item := (session.store.stream cursor).item_eq_slice unit bounds.low bounds.high
      exact call_narrowed held known read' rfl (bind_eq_ok.mpr ⟨_, item, rfl⟩)
  · intro source whole told made
    obtain ⟨values, evaluated, made'⟩ := bind_eq_ok.mp made
    obtain ⟨value, own, -⟩ := bind_eq_ok.mp evaluated
    obtain ⟨-, -, made'⟩ := bind_eq_ok.mp made'
    obtain ⟨object, held, -⟩ := bind_eq_ok.mp made'
    rw [create_eq own rfl (Nat.zero_le _) held] at made
    rw [create_eq own read bounds.few held]
    exact createOver_sliceOf bounds told made
  · intro first last environment members listed
    cases listed
    refine ⟨?_, stream.slice_isEmpty⟩
    have natural (bound : Int) : (max bound 0).toNat = bound.toNat := by omega
    rw [natural, natural, ← Stream.elements, ← stream.elements_slice]
    rfl

/-- In a text of six characters, from before the start and with the fourth character as the last,
all ways give the window from 0 to 4, and what stands from 2 on in it is the window from 2 to 4. A
byte string is narrowed alike when it is made. -/
theorem narrowings_agree_text :
    let session := ((Session.start "linux").act
      (.create [.value (.text (Text.ofString "abcdef"))]) (some "s")).1
    let bounds : List Term := [.value (.int (-2)), .value (.int 4)]
    let cursor : Cursor := ⟨0, 0, 6, false, .number, .number⟩
    let stream := session.store.stream cursor
    session.effect (.call "s" .slice bounds) =
        .ok (session.narrowed cursor (some (-2)) (some 4)) ∧
      session.effect (.create (.register "s" :: bounds)) =
        .ok (session.narrowed cursor (some (-2)) (some 4)) ∧
      session.effect (.call "s" .item [.value (.slice (.int (-2)) (.int 4) .null)]) =
        .ok (session.narrowed cursor (some (-2)) (some 4)) ∧
      (∃ whole part, session.effect (.create [.value (.bytes [97, 98, 99])]) = .ok whole ∧
        session.effect (.create (.value (.bytes [97, 98, 99]) :: bounds)) = .ok part ∧
        part.SliceOf whole (some (-2)) (some 4)) ∧
      stream.slice (some (-2)) (some 4) = stream.between 0 4 ∧
      (stream.slice (some (-2)) (some 4)).slice (some 2) (some 9) =
        stream.slice (some 2) (some 4) := by
  intro session bounds cursor stream
  have read : session.evalMany bounds = .ok [.int (-2), .int 4] := rfl
  obtain ⟨streams, sources, slices⟩ := session.narrowings_agree read ⟨Nat.le_refl 2, rfl, rfl⟩
  have told : [Value.int (-2), .int 4].head? ≠ some .null := fun same => nomatch same
  obtain ⟨called, made, item⟩ := streams "s" 0 cursor rfl rfl
  obtain ⟨part, opened, sliced⟩ := sources (.value (.bytes [97, 98, 99])) _ told rfl
  obtain ⟨-, -, lo, hi, -, -, window, nested⟩ := slices stream
  have window' : stream.slice (some (-2)) (some 4) = stream.between 0 4 := by decide
  rw [window'] at window
  have lo_eq : 0 = stream.start + lo := congrArg Stream.start window
  have hi_eq : 4 = stream.start + hi := congrArg Stream.stop window
  have start_eq : stream.start = 0 := rfl
  obtain ⟨rfl, rfl⟩ : lo = 0 ∧ hi = 4 := by omega
  exact ⟨called, made told, item _ .null (.inl rfl) rfl, ⟨_, part, rfl, opened, sliced⟩,
    window', nested 2 9⟩

end Session

end TextScan
