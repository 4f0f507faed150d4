import TextScan.Proofs.Mirror

namespace TextScan.Session

def Command.names (command : Command) : List String :=
  (receiver? command).toList ++ namesAmong command.terms

/-- A command that is an operation of a cursor: it is asked of that cursor or makes a new stream
over it, and appends nothing. -/
def OperatesOn (session : Session) (own : Nat) : Command → Prop
  | .create (.register on :: _) => session.registers.lookup on = some (.stream own)
  | .append _ _ => False
  | command => session.receiving? command = some (.stream own)

def Result.rename (names : Nat → Nat) : Result → Result
  | .value answer => .value (answer.rename names)
  | result => result

def Answer.rename (names : Nat → Nat) : Answer → Answer
  | .act result window log => .act (result.map (Result.rename names)) window log
  | answer => answer

/-- An answer in which there are no walks but some. -/
def Answer.Within (walks : Set Nat) (answer : Answer) : Prop :=
  ∀ names : Equiv.Perm Nat, Fixes walks names → answer.rename names = answer

/-- Effects that a party cannot tell apart: what they answer and what a register may keep of them
are twins, and they leave the party's cursor alike. -/
structure Effect.Twins (base : Store) (other : Nat) (mine : Set Nat) (names : Equiv.Perm Nat)
    (own : Nat) (done done' : Effect) : Prop where
  result : done'.result = done.result.rename names
  within : ∀ names, Fixes mine names → done.result.rename names = done.result
  kept : Twin base other mine names done.session.store done'.session.store done.kept done'.kept
  cursor : done'.session.store.cursors[own]? = done.session.store.cursors[own]?

/-- Two stores that have what there was in one before, the buffers as they were. -/
structure Store.Shares (base here there : Store) : Prop where
  cursors : base.cursors.length ≤ here.cursors.length
  cursors' : base.cursors.length ≤ there.cursors.length
  holdings : base.holdings.length ≤ here.holdings.length
  holdings' : base.holdings.length ≤ there.holdings.length
  buffers : ∀ id < base.holdings.length, there.buffer id = here.buffer id

section Answers

variable {base : Store} {here there : Session} {other own : Nat} {mine : Set Nat}
  {names : Equiv.Perm Nat}

theorem Store.Mirrors.shares {here there : Store} (mirrors : base.Mirrors other mine names here there) :
    base.Shares here there := by
  refine ⟨mirrors.came.onward.cursor_count, mirrors.came'.onward.cursor_count,
    mirrors.came.keeps.count, mirrors.came'.keeps.count, fun id known => ?_⟩
  rw [mirrors.came.keeps.buffers id known, mirrors.came'.keeps.buffers id known]

theorem Store.Shares.setCursor {here there : Store} (shares : base.Shares here there) (id : Nat)
    (cursor cursor' : Cursor) : base.Shares (here.setCursor id cursor) (there.setCursor id cursor') := by
  refine ⟨?_, ?_, shares.holdings, shares.holdings', shares.buffers⟩
  · rw [Store.setCursor, List.length_set]
    exact shares.cursors
  · rw [Store.setCursor, List.length_set]
    exact shares.cursors'

variable (shares : base.Shares here.store there.store) (known : own < base.cursors.length)
  (same : there.store.cursors[own]? = here.store.cursors[own]?)

include same in
theorem answer_twins {value : Value} (within : value.Within mine) :
    Effect.Twins base other mine names own (here.answer value)
      (there.answer (value.rename names)) :=
  ⟨rfl, fun names fixes => congrArg Result.value (within names fixes), .value rfl rfl within, same⟩

include shares known same in
theorem answerStream_twins {cursor : Cursor} (held : cursor.buffer < base.holdings.length) :
    Effect.Twins base other mine names own (here.answerStream cursor)
      (there.answerStream cursor) := by
  have shown : there.store.stream cursor = here.store.stream cursor := by
    unfold Store.stream
    rw [shares.buffers _ held]
  refine ⟨congrArg (Result.value ∘ Value.stream) shown, fun _ _ => rfl, ?_, ?_⟩
  · exact .fresh shares.cursors shares.cursors' List.getElem?_concat_length
      List.getElem?_concat_length held
  · refine (List.getElem?_append_left (Nat.lt_of_lt_of_le known shares.cursors')).trans ?_
    exact same.trans (List.getElem?_append_left (Nat.lt_of_lt_of_le known shares.cursors)).symm

include shares same in
theorem holdContent_twins {id : Nat} (held : id < base.holdings.length) (content : Buffer) :
    Twin base other mine names (here.holdContent id content).1.store
        (there.holdContent id content).1.store (here.holdContent id content).2
        (there.holdContent id content).2 ∧
      (there.holdContent id content).1.store.cursors[own]? =
        (here.holdContent id content).1.store.cursors[own]? := by
  have buffer := shares.buffers id held
  unfold holdContent
  dsimp only
  rw [buffer]
  split
  · refine ⟨.buffer ?_ ?_ buffer, same⟩
    · exact Nat.lt_of_lt_of_le held shares.holdings
    · exact Nat.lt_of_lt_of_le held shares.holdings'
  · obtain ⟨known, put⟩ := here.store.addBuffer_known ⟨content, _⟩
    obtain ⟨known', put'⟩ := there.store.addBuffer_known ⟨content, _⟩
    refine ⟨.buffer known known' (put'.trans put.symm), ?_⟩
    rw [(Store.addBuffer_cursors _).1, (Store.addBuffer_cursors _).1]
    exact same

include shares same in
theorem answerContent_twins {id : Nat} (held : id < base.holdings.length) {value : Value}
    (within : value.Within mine) :
    Effect.Twins base other mine names own (here.answerContent id value)
      (there.answerContent id (value.rename names)) := by
  have read : (value.rename names).buffer = value.buffer := by
    cases value with
    | _ => rfl
  unfold answerContent
  rw [read]
  cases value.buffer with
  | error fault => exact answer_twins same within
  | ok content =>
    obtain ⟨kept, cursor⟩ : Twin base other mine names _ _ _ _ ∧ _ = _ :=
      holdContent_twins shares same held content
    exact ⟨rfl, fun names fixes => congrArg Result.value (within names fixes), kept, cursor⟩

theorem ofValue_value? (value : Value) (parts : List Part) :
    (Object.ofValue value parts).value? = some value := by
  unfold Object.ofValue
  split
  · rfl
  · rfl

include shares known same in
theorem answerFrom_twins {cursor : Cursor} (held : cursor.buffer < base.holdings.length)
    (method : Method) (arguments : List Term) {value : Value} (within : value.Within mine) :
    Effect.Twins base other mine names own (here.answerFrom cursor method arguments value)
      (there.answerFrom cursor method arguments (value.rename names)) := by
  let plain (session : Session) (value : Value) : Effect :=
    if method = .buffer then ⟨session, .value value, .buffer cursor.buffer⟩
    else if method = .text ∨ method = .view then session.answerContent cursor.buffer value
    else if method = .location then ⟨session, .value value, session.made value arguments⟩
    else session.answer value
  have answered {value : Value} (within : value.Within mine) :
      ∀ names, Fixes mine names → (Result.value value).rename names = .value value :=
    fun names fixes => congrArg Result.value (within names fixes)
  have other {value : Value} (within : value.Within mine)
      (is : here.answerFrom cursor method arguments value = plain here value)
      (is' : there.answerFrom cursor method arguments (value.rename names) =
        plain there (value.rename names)) :
      Effect.Twins base other mine names own (here.answerFrom cursor method arguments value)
        (there.answerFrom cursor method arguments (value.rename names)) := by
    rw [is, is']
    dsimp only [plain]
    split
    · refine ⟨rfl, answered within, .buffer ?_ ?_ (shares.buffers _ held), same⟩
      · exact Nat.lt_of_lt_of_le held shares.holdings
      · exact Nat.lt_of_lt_of_le held shares.holdings'
    · split
      · exact answerContent_twins shares same held within
      · split
        · exact ⟨rfl, answered within, .value (ofValue_value? _ _) (ofValue_value? _ _) within, same⟩
        · exact answer_twins same within
  cases value with
  | stream stream => exact answerStream_twins shares known same held
  | lines lines => exact ⟨rfl, fun _ _ => rfl, .lines held, same⟩
  | _ => exact other within rfl rfl

end Answers

section Calls

variable {base here there : Session} {other own : Nat} {mine : Set Nat} {names : Equiv.Perm Nat}
  {used : Set String} (sound : base.store.Sound)
  (mirrors : base.Mirrors other mine names used here there)
  (known : own < base.store.cursors.length) (apart : own ≠ other)

theorem lookup_of_held {session : Session} {on : String} {object : Object}
    (held : session.registers.lookup on = some object) : session.lookup on = .ok object := by
  rw [Session.lookup, held]

theorem operation_within {values : List Value} {method : Method} {operation : Operation}
    (within : ∀ value ∈ values, value.Within mine) (bound : method.bind values = .ok operation)
    (names : Equiv.Perm Nat) (fixes : Fixes mine names) : operation.rename names = operation := by
  have same := bind_rename names method values
  rw [Value.map_within within fixes, bound] at same
  exact (Except.ok.inj same).symm

theorem values_within {terms : List Term} {values : List Value}
    (fixed : ∀ names, Fixes mine names →
      (here.evalMany terms).map (List.map (Value.rename names)) = here.evalMany terms)
    (evaluated : here.evalMany terms = .ok values) : ∀ value ∈ values, value.Within mine := by
  intro value member names fixes
  have all := fixed names fixes
  rw [evaluated] at all
  exact List.map_inj_left.mp ((Except.ok.inj all).trans (List.map_id _).symm) value member

include sound mirrors known apart in
theorem call_twins {on : String} {method : Method} {arguments : List Term}
    (held : here.registers.lookup on = some (.stream own))
    (held' : there.registers.lookup on = some (.stream own))
    (names_used : ∀ on ∈ namesAmong arguments, on ∈ used)
    (plain : ∀ value ∈ literalsAmong arguments, value.Within ∅) :
    Agree Eq (Effect.Twins base.store other mine names own) (here.call on method arguments)
      (there.call on method arguments) := by
  obtain ⟨read, fixed⟩ := mirrors.evalMany sound names_used plain
  obtain ⟨configured, settled⟩ := mirrors.environment sound
  have same := mirrors.store.cursors own known apart
  unfold call
  rw [lookup_of_held held, lookup_of_held held', read]
  cases evaluated : here.evalMany arguments with
  | error fault => exact .fault rfl
  | ok values =>
    have within := values_within fixed evaluated
    dsimp only [bind, Except.bind, Except.map]
    rw [same]
    cases found : here.store.cursors[own]? with
    | none => exact .fault rfl
    | some cursor =>
      have held := mirrors.store.cursor_known sound known found
      rw [bind_rename]
      cases bound : method.bind values with
      | error fault => exact .fault rfl
      | ok operation =>
        dsimp only [Except.map]
        rw [mirrors.store.stream_same held, configured, Stream.perform_rename]
        cases performed : (here.store.stream cursor).perform here.environment operation with
        | error fault => exact .fault rfl
        | ok done =>
          obtain ⟨outcome, rest⟩ := done
          have shares := mirrors.store.shares
          have moved (cursor : Cursor) : (there.store.setCursor own cursor).cursors[own]? =
              (here.store.setCursor own cursor).cursors[own]? := by
            refine (List.getElem?_set_self (Nat.lt_of_lt_of_le known shares.cursors')).trans ?_
            exact (List.getElem?_set_self (Nat.lt_of_lt_of_le known shares.cursors)).symm
          cases outcome with
          | itself =>
            exact .done ⟨rfl, fun _ _ => rfl, .stream known apart, moved _⟩
          | value value =>
            have unread : value.Within mine := by
              intro names fixes
              have same := Stream.perform_rename names (here.store.stream cursor) here.environment operation
              rw [settled names fixes, operation_within within bound names fixes, performed] at same
              have outcome := congrArg Prod.fst (Except.ok.inj same)
              exact (Outcome.value.inj outcome).symm
            refine .done ?_
            exact answerFrom_twins (shares.setCursor own _ _) known (moved _) held method arguments
              unread

include sound mirrors known apart in
theorem own_same : there.streamOf? own = here.streamOf? own ∧
    there.valueOf (.stream own) = here.valueOf (.stream own) := by
  have same : there.streamOf? own = here.streamOf? own := by
    unfold streamOf?
    rw [mirrors.store.cursors own known apart]
    cases found : here.store.cursors[own]? with
    | none => rfl
    | some cursor =>
      exact congrArg some (mirrors.store.stream_same (mirrors.store.cursor_known sound known found))
  exact ⟨same, congrArg (fun found => (found.map Value.stream).getD .null) same⟩

theorem getD_rename {names : Nat → Nat} (values : List Value) (place : Nat) {default : Value}
    (same : default.rename names = default) :
    (values.map (Value.rename names))[place]?.getD default =
      (values[place]?.getD default).rename names := by
  rw [List.getElem?_map]
  cases values[place]? with
  | none => exact same.symm
  | some value => rfl

include sound mirrors known apart in
theorem create_twins {on : String} {rest : List Term}
    (held : here.registers.lookup on = some (.stream own))
    (held' : there.registers.lookup on = some (.stream own))
    (names_used : ∀ name ∈ namesAmong (.register on :: rest), name ∈ used)
    (plain : ∀ value ∈ literalsAmong (.register on :: rest), value.Within ∅) :
    Agree Eq (Effect.Twins base.store other mine names own) (here.create (.register on :: rest))
      (there.create (.register on :: rest)) := by
  obtain ⟨read, -⟩ := mirrors.evalMany sound names_used plain
  have same := mirrors.store.cursors own known apart
  have source (session : Session) (held : session.registers.lookup on = some (.stream own)) :
      session.sourceOf (.register on :: rest) = .ok (.stream own) := lookup_of_held held
  unfold create
  rw [read, source here held, source there held']
  cases here.evalMany (.register on :: rest) with
  | error fault => exact .fault rfl
  | ok values =>
    dsimp only [bind, Except.bind, Except.map]
    rw [List.length_map]
    cases creation.admit values.length with
    | error fault => exact .fault rfl
    | ok _ =>
      unfold createOver
      dsimp only
      rw [getD_rename values 1 rfl, getD_rename values 2 rfl, same]
      cases found : here.store.cursors[own]? with
      | none => exact .fault rfl
      | some cursor =>
        have held := mirrors.store.cursor_known sound known found
        dsimp only
        rw [mirrors.store.stream_same held, Stream.part, Stream.part, Value.windowBounds_rename]
        refine .after (fun _ => rfl) fun window => ?_
        exact .done (answerStream_twins mirrors.store.shares known same held)

end Calls

end TextScan.Session
