import TextScan.Proofs.TwinAnswers

namespace TextScan.Session

variable {base here there : Session} {other own : Nat} {mine : Set Nat} {names : Equiv.Perm Nat}
  {used : Set String} (sound : base.store.Sound)
  (mirrors : base.Mirrors other mine names used here there)
  (known : own < base.store.cursors.length) (apart : own ≠ other)

include sound mirrors in
/-- Twins are like cursors, or no cursors. -/
theorem Twin.cursors {object object' : Object}
    (twin : Twin base.store other mine names here.store there.store object object') :
    (∃ id id', object.cursor? = some id ∧ object'.cursor? = some id' ∧
        there.store.cursors[id']? = here.store.cursors[id]? ∧
        (∀ cursor, here.store.cursors[id]? = some cursor →
          cursor.buffer < base.store.holdings.length) ∧
        ∀ own < base.store.cursors.length, (own == id') = (own == id)) ∨
      object.cursor? = none ∧ object'.cursor? = none := by
  have valued {object : Object} {value : Value} (is : object.value? = some value) :
      object.cursor? = none := by
    cases object with
    | stream id => cases is
    | _ => rfl
  cases twin with
  | @stream id known apart =>
    exact .inl ⟨id, id, rfl, rfl, mirrors.store.cursors id known apart,
      fun cursor found => mirrors.store.cursor_known sound known found, fun _ _ => rfl⟩
  | @fresh id id' cursor new new' found found' known =>
    refine .inl ⟨id, id', rfl, rfl, found'.trans found.symm, fun cursor' there => ?_, ?_⟩
    · cases found.symm.trans there
      exact known
    · intro own old
      have apart {id : Nat} (new : base.store.cursors.length ≤ id) : (own == id) = false :=
        beq_eq_false_iff_ne.mpr (by omega)
      rw [apart new, apart new']
  | value is is' within => exact .inr ⟨valued is, valued is'⟩
  | _ => exact .inr ⟨rfl, rfl⟩

theorem cursorIn_lookup (session : Session) (name member : String) :
    session.cursorIn name member = (do
      let object ← session.lookup name
      match object.cursor? with
      | some id =>
        match session.store.cursors[id]? with
        | some cursor => pure (id, cursor)
        | none => throw .badValue
      | none => throw (.missing (session.valueOf object).fullTypeName member)) := by
  unfold cursorIn
  cases session.lookup name with
  | error fault => rfl
  | ok object =>
    cases object with
    | _ => rfl

include sound mirrors in
theorem cursorIn_twins {name : String} (named : name ∈ used) (member : String) :
    Agree Eq (fun found found' => found.2 = found'.2 ∧ found.2.buffer < base.store.holdings.length)
      (here.cursorIn name member) (there.cursorIn name member) := by
  rw [cursorIn_lookup, cursorIn_lookup]
  refine .bind (mirrors.lookup named) fun object object' twin => ?_
  rcases twin.cursors sound mirrors with ⟨id, id', is, is', same, held, -⟩ | ⟨is, is'⟩
  · rw [is, is']
    dsimp only
    rw [same]
    cases found : here.store.cursors[id]? with
    | none => exact .fault rfl
    | some cursor => exact .done ⟨rfl, held cursor found⟩
  · rw [is, is', (twin.valueOf sound mirrors.store).1, Value.fullTypeName_rename]
    exact .fault rfl

include sound mirrors in
theorem hold_twins {term : Term} (names_used : ∀ on ∈ term.names, on ∈ used)
    (plain : ∀ value ∈ term.literals, value.Within ∅) :
    Agree Eq (Twin base.store other mine names here.store there.store) (here.hold term)
      (there.hold term) := by
  obtain ⟨read, fixed⟩ := mirrors.eval sound names_used plain
  have made (written : ∀ name, term ≠ .register name) :
      Agree Eq (Twin base.store other mine names here.store there.store)
        ((here.eval term).map fun value => here.made value [term])
        ((there.eval term).map fun value => there.made value [term]) := by
    rw [read]
    cases evaluated : here.eval term with
    | error fault => exact .fault rfl
    | ok value =>
      rw [evaluated] at fixed
      exact .done (.value (ofValue_value? _ _) (ofValue_value? _ _) fun names fixes =>
        Except.ok.inj (fixed names fixes))
  cases term with
  | register name => exact mirrors.lookup (names_used name (.head _))
  | _ => exact made nofun

include mirrors known in
theorem held_twin {on : String} (named : on ∈ used)
    (held : there.registers.lookup on = some (.stream own)) :
    here.registers.lookup on = some (.stream own) := by
  have twins := mirrors.registers on named
  rw [held] at twins
  generalize here.registers.lookup on = found at twins ⊢
  cases twins with
  | some twin =>
    cases twin with
    | stream known apart => rfl
    | fresh new new' found found' held => exact absurd known (Nat.not_lt.mpr new')
    | value is is' within => cases is'

include mirrors known in
theorem own_stream : ∃ window, here.valueOf (.stream own) = .stream window := by
  have reach := Nat.lt_of_lt_of_le known mirrors.store.shares.cursors
  refine ⟨here.store.stream here.store.cursors[own], ?_⟩
  unfold valueOf streamOf?
  dsimp only
  rw [List.getElem?_eq_getElem reach]
  rfl

theorem compared_rename (names : Nat → Nat) (relation : Relation) (swapped : Bool)
    (window : Stream) (value : Value) :
    compared false relation swapped (.stream window) (value.rename names) =
      compared false relation swapped (.stream window) value := by
  cases swapped with
  | true => exact Value.compare_stream_rename names relation window value
  | false => exact Stream.compare_rename names window relation value

theorem compare_held {session : Session} {on : String}
    (held : session.registers.lookup on = some (.stream own)) (relation : Relation)
    (swapped : Bool) (operand : Term) :
    session.compare on relation swapped operand = (do
      let value ← session.eval operand
      let answer ← compared false relation swapped (session.valueOf (.stream own)) value
      pure (session.answer (.bool answer))) := by
  unfold Session.compare
  rw [lookup_of_held held]
  cases operand with
  | _ => rfl

/-- A stream is the same as what goes by the same name or is the same cursor. -/
theorem same_held {session : Session} {on : String}
    (held : session.registers.lookup on = some (.stream own)) {window : Stream}
    (reads : session.valueOf (.stream own) = .stream window) (other : Term) :
    session.same on other = (session.hold other).map fun second =>
      session.answer (.bool (match second.cursor? with
        | some id => own == id
        | none => match other with
          | .register name => on == name
          | _ => false)) := by
  unfold Session.same
  rw [lookup_of_held held]
  cases session.hold other with
  | error fault => rfl
  | ok second =>
    dsimp only [bind, Except.bind, Except.map]
    rw [reads]
    cases second with
    | stream id => rfl
    | _ =>
      refine congrArg (fun answer => Except.ok (session.answer (.bool answer))) ?_
      exact Bool.or_false _

include sound mirrors known apart in
theorem same_twins {on : String} {operand : Term}
    (held : here.registers.lookup on = some (.stream own))
    (held' : there.registers.lookup on = some (.stream own))
    (names_used : ∀ name ∈ operand.names, name ∈ used)
    (plain : ∀ value ∈ operand.literals, value.Within ∅) :
    Agree Eq (Effect.Twins base.store other mine names own) (here.same on operand)
      (there.same on operand) := by
  obtain ⟨-, shown⟩ := own_same sound mirrors known apart
  obtain ⟨window, reads⟩ := own_stream mirrors known
  have answered (answer : Bool) : Effect.Twins base.store other mine names own
      (here.answer (.bool answer)) (there.answer (.bool answer)) :=
    ⟨rfl, fun _ _ => rfl, .value rfl rfl fun _ _ => rfl, mirrors.store.cursors own known apart⟩
  rw [same_held held reads, same_held held' (shown.trans reads)]
  refine .map (hold_twins sound mirrors names_used plain) fun object object' twin => ?_
  rcases twin.cursors sound mirrors with ⟨id, id', is, is', -, -, alike⟩ | ⟨is, is'⟩
  · rw [is, is']
    dsimp only
    rw [alike own known]
    exact answered _
  · rw [is, is']
    exact answered _

theorem reading_alone {term : Term} (names_used : ∀ name ∈ namesAmong [term], name ∈ used)
    (plain : ∀ value ∈ literalsAmong [term], value.Within ∅) :
    (∀ name ∈ term.names, name ∈ used) ∧ ∀ value ∈ term.literals, value.Within ∅ := by
  simp only [namesAmong, literalsAmong, List.append_nil] at names_used plain
  exact ⟨names_used, plain⟩

include sound mirrors known apart in
theorem effect_twins {command : Command} (asks : there.OperatesOn own command)
    (names_used : ∀ on ∈ command.names, on ∈ used)
    (plain : ∀ value ∈ literalsAmong command.terms, value.Within ∅)
    (still : ∀ on, command ≠ .walk on) :
    Agree Eq (Effect.Twins base.store other mine names own) (here.effect command)
      (there.effect command) := by
  obtain ⟨-, shown⟩ := own_same sound mirrors known apart
  obtain ⟨window, reads⟩ := own_stream mirrors known
  have same := mirrors.store.cursors own known apart
  have answered (value : Value) (free : ∀ names, value.rename names = value) :
      Effect.Twins base.store other mine names own (here.answer value) (there.answer value) := by
    have twins : Effect.Twins base.store other mine names own (here.answer value)
        (there.answer (value.rename names)) :=
      answer_twins same (Value.within_of_same fun names => free names)
    rwa [free] at twins
  cases command with
  | create arguments =>
    cases arguments with
    | nil => cases asks
    | cons term rest =>
      cases term with
      | register on =>
        have held : there.registers.lookup on = some (.stream own) := asks
        exact create_twins sound mirrors known apart
          (held_twin mirrors known (names_used on (.head _)) held) held names_used plain
      | _ => cases asks
  | call on method arguments =>
    have held : there.registers.lookup on = some (.stream own) := asks
    exact call_twins sound mirrors known apart
      (held_twin mirrors known (names_used on (.head _)) held) held
      (fun name member => names_used name (.tail _ member)) plain
  | compare on relation swapped operand =>
    have held : there.registers.lookup on = some (.stream own) := asks
    have held' := held_twin mirrors known (names_used on (.head _)) held
    obtain ⟨named, free⟩ := reading_alone (fun name member => names_used name (.tail _ member)) plain
    have read := (mirrors.eval sound named free).1
    unfold effect
    dsimp only
    rw [compare_held held, compare_held held', shown, reads, read]
    cases here.eval operand with
    | error fault => exact .fault rfl
    | ok value =>
      dsimp only [bind, Except.bind, Except.map]
      rw [compared_rename]
      exact .after (fun _ => rfl) fun answer => .done (answered (.bool answer) fun _ => rfl)
  | sameBuffer on operand =>
    obtain ⟨named, free⟩ := reading_alone (fun name member => names_used name (.tail _ member)) plain
    have read := (mirrors.eval sound named free).1
    unfold effect Session.sameBuffer
    dsimp only
    refine .bind (cursorIn_twins sound mirrors (names_used on (.head _)) "buffer") ?_
    rintro ⟨id, cursor⟩ ⟨id', cursor'⟩ ⟨rfl, -⟩
    dsimp only
    rw [read]
    cases here.eval operand with
    | error fault => exact .fault rfl
    | ok value =>
      dsimp only [bind, Except.bind, Except.map]
      rw [Value.fullTypeName_rename]
      cases operand with
      | register name =>
        refine .bind (cursorIn_twins sound mirrors (named name (.head _)) "buffer") ?_
        rintro ⟨second, window⟩ ⟨second', window'⟩ ⟨rfl, -⟩
        exact .done (answered (.bool _) fun _ => rfl)
      | _ => exact .fault rfl
  | same on operand =>
    have held : there.registers.lookup on = some (.stream own) := asks
    obtain ⟨named, free⟩ := reading_alone (fun name member => names_used name (.tail _ member)) plain
    exact same_twins sound mirrors known apart
      (held_twin mirrors known (names_used on (.head _)) held) held named free
  | walk on => exact absurd rfl (still on)
  | next on =>
    have held : there.registers.lookup on = some (.stream own) := asks
    have held' := held_twin mirrors known (names_used on (.head _)) held
    unfold effect Session.next
    dsimp only
    rw [lookup_of_held held, lookup_of_held held']
    refine .fault ?_
    rw [shown]
  | append on code => exact asks.elim
  | withFile on file =>
    have held : there.registers.lookup on = some (.stream own) := asks
    have held' := held_twin mirrors known (names_used on (.head _)) held
    obtain ⟨named, free⟩ := reading_alone (fun name member => names_used name (.tail _ member)) plain
    have read := (mirrors.eval sound named free).1
    unfold effect
    dsimp only
    rw [lookup_of_held held, lookup_of_held held', read]
    dsimp only [bind, Except.bind]
    rw [shown, reads]
    cases here.eval file with
    | error fault => exact .fault rfl
    | ok value => exact .fault rfl
  | properties on =>
    unfold effect
    dsimp only
    refine .bind (cursorIn_twins sound mirrors (names_used on (.head _)) "start") ?_
    rintro ⟨id, cursor⟩ ⟨id', cursor'⟩ ⟨rfl, held⟩
    refine .done ⟨?_, fun _ _ => rfl, .value rfl rfl fun _ _ => rfl, same⟩
    dsimp only
    rw [mirrors.store.stream_same held]
    rfl
  | _ => cases asks

include sound mirrors known apart in
theorem walksCalled_twins {on : String} (method : Method) (arguments : List Term)
    (held : here.registers.lookup on = some (.stream own))
    (held' : there.registers.lookup on = some (.stream own))
    (names_used : ∀ on ∈ namesAmong arguments, on ∈ used)
    (plain : ∀ value ∈ literalsAmong arguments, value.Within ∅) :
    there.walksCalled on method arguments =
        (here.walksCalled on method arguments).map (List.map names) ∧
      ∀ names, Fixes mine names → (here.walksCalled on method arguments).map (List.map names) =
        here.walksCalled on method arguments := by
  obtain ⟨read, fixed⟩ := mirrors.evalMany sound names_used plain
  obtain ⟨configured, settled⟩ := mirrors.environment sound
  unfold walksCalled
  rw [lookup_of_held held, lookup_of_held held', read]
  dsimp only [bind, Except.bind]
  rw [(own_same sound mirrors known apart).1]
  cases here.streamOf? own with
  | none => exact ⟨rfl, fun _ _ => rfl⟩
  | some stream =>
    cases evaluated : here.evalMany arguments with
    | error fault => exact ⟨rfl, fun _ _ => rfl⟩
    | ok values =>
      have within := values_within fixed evaluated
      dsimp only [Except.map]
      rw [bind_rename]
      cases bound : method.bind values with
      | error fault => exact ⟨rfl, fun _ _ => rfl⟩
      | ok operation =>
        refine ⟨?_, fun names fixes => ?_⟩
        · refine congrArg Except.ok ?_
          rw [configured]
          exact Stream.walksRead_rename names stream here.environment operation
        · refine congrArg Except.ok ?_
          refine (Stream.walksRead_rename names stream here.environment operation).symm.trans ?_
          rw [settled names fixes, operation_within within bound names fixes]

include sound mirrors known apart in
/-- The walks that a command goes through are the party's own. -/
theorem walksUsed_twins {command : Command} (asks : there.OperatesOn own command)
    (names_used : ∀ on ∈ command.names, on ∈ used)
    (plain : ∀ value ∈ literalsAmong command.terms, value.Within ∅) :
    there.walksUsed command = (here.walksUsed command).map names ∧
      ∀ id ∈ here.walksUsed command, id ∈ mine := by
  suffices same : there.walksUsed command = (here.walksUsed command).map names ∧
      ∀ names, Fixes mine names → (here.walksUsed command).map names = here.walksUsed command from
    ⟨same.1, fun id member => mem_of_fixed (fun id own => mirrors.walk_known own) same.2 member⟩
  cases command with
  | call on method arguments =>
    have held : there.registers.lookup on = some (.stream own) := asks
    obtain ⟨same, fixed⟩ := walksCalled_twins sound mirrors known apart method arguments
      (held_twin mirrors known (names_used on (.head _)) held) held
      (fun name member => names_used name (.tail _ member)) plain
    unfold walksUsed
    dsimp only
    rw [same]
    cases called : here.walksCalled on method arguments with
    | error fault => exact ⟨rfl, fun _ _ => rfl⟩
    | ok walks =>
      rw [called] at fixed
      exact ⟨rfl, fun names fixes => Except.ok.inj (fixed names fixes)⟩
  | compare on relation swapped operand =>
    have held : there.registers.lookup on = some (.stream own) := asks
    have held' := held_twin mirrors known (names_used on (.head _)) held
    obtain ⟨-, shown⟩ := own_same sound mirrors known apart
    obtain ⟨window, reads⟩ := own_stream mirrors known
    obtain ⟨named, free⟩ := reading_alone (fun name member => names_used name (.tail _ member)) plain
    obtain ⟨read, fixed⟩ := mirrors.eval sound named free
    unfold walksUsed
    dsimp only
    rw [lookup_of_held held, lookup_of_held held', read]
    cases evaluated : here.eval operand with
    | error fault => exact ⟨rfl, fun _ _ => rfl⟩
    | ok value =>
      rw [evaluated] at fixed
      dsimp only [Except.map]
      rw [shown, reads, Value.walksCompared_rename]
      refine ⟨rfl, fun names fixes => ?_⟩
      rw [← Value.walksCompared_rename, Except.ok.inj (fixed names fixes)]
  | _ => exact ⟨rfl, fun _ _ => rfl⟩

end TextScan.Session
