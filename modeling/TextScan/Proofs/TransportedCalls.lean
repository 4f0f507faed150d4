import TextScan.Proofs.Transport
import TextScan.Session.Term

namespace TextScan

variable (names : Nat → Nat)

section Performing

def Operation.rename : Operation → Operation
  | .item key => .item (key.rename names)
  | .startsWith start => .startsWith (start.rename names)
  | .startsWithAny chars => .startsWithAny (chars.rename names)
  | .endsWith finish => .endsWith (finish.rename names)
  | .endsWithAny chars => .endsWithAny (chars.rename names)
  | .location file => .location (file.rename names)
  | .consume char => .consume (char.rename names)
  | .takeTo stopping target => .takeTo stopping (target.rename names)
  | .dropTo stopping target => .dropTo stopping (target.rename names)
  | .takeDelimited delimiter => .takeDelimited (delimiter.rename names)
  | .takeDelimitedAny delimiters => .takeDelimitedAny (delimiters.rename names)
  | .trim chars => .trim (chars.rename names)
  | .trimFront chars => .trimFront (chars.rename names)
  | .trimBack chars => .trimBack (chars.rename names)
  | .lines separator => .lines (separator.rename names)
  | operation => operation

def Outcome.rename : Outcome → Outcome
  | .value answer => .value (answer.rename names)
  | .itself => .itself

def renameDone (done : Outcome × Stream) : Outcome × Stream := (done.1.rename names, done.2)

def Environment.rename (environment : Environment) : Environment :=
  { environment with config := environment.config.map (Value.rename names) }

@[simp]
theorem checksAssertions_rename (environment : Environment) :
    (environment.rename names).checksAssertions = environment.checksAssertions :=
  Value.truth_rename names environment.config.assertions

theorem trimmed_rename (environment : Environment) (chars : Value) :
    (environment.rename names).trimmed (chars.rename names) =
      (environment.trimmed chars).rename names := by
  cases chars with
  | _ => rfl

theorem separating_rename (environment : Environment) (separator : Value) :
    (environment.rename names).separating (separator.rename names) =
      (environment.separating separator).rename names := by
  have configured : (environment.rename names).lineSeparator =
      environment.lineSeparator.rename names := by
    obtain ⟨⟨assertions, lineSeparator, whitespace⟩, platform⟩ := environment
    cases lineSeparator with
    | _ => rfl
  cases separator with
  | null => exact configured
  | _ => rfl

namespace Stream

variable (stream : Stream)

@[simp]
theorem stop?_rename (stopping : Stopping) (target : Value) :
    stream.stop? stopping (target.rename names) = stream.stop? stopping target := by
  unfold stop?
  rw [CharUnit.charset_rename, CharUnit.text_rename, Value.test?_rename]
  cases target.test? with
  | none => rfl
  | some test =>
    dsimp only [Option.map_some]
    simp only [Value.holds_renameTest]

@[simp]
theorem trimSet_rename (chars : Value) :
    stream.trimSet (chars.rename names) = stream.trimSet chars := by
  unfold trimSet
  rw [CharUnit.charset_rename]

@[simp]
theorem isAnyOf_rename (code : Option Nat) (chars : Value) :
    stream.isAnyOf code (chars.rename names) = stream.isAnyOf code chars := by
  unfold isAnyOf
  rw [CharUnit.charset_rename]

theorem rename_unitValue (code : Option Nat) :
    (stream.unitValue code).rename names = stream.unitValue code := by
  cases code with
  | none => rfl
  | some code => exact Value.rename_ofUnit names stream.unit code

theorem unitAt_rename (offset : Number) :
    (stream.unitAt offset).map (Value.rename names) = stream.unitAt offset := by
  unfold unitAt
  split
  · exact congrArg Except.ok (rename_unitValue names stream _)
  · split
    · rfl
    · rfl

theorem item_rename (key : Value) :
    stream.item (key.rename names) = (stream.item key).map (Value.rename names) := by
  unfold item
  rw [Value.slice?_rename, Value.numberRight_rename]
  cases key.slice? with
  | none => exact bind_kept fun offset _ => (unitAt_rename names stream offset).symm
  | some parts =>
    obtain ⟨start, stop, step⟩ := parts
    have stepped : ((step.rename names).equal .null || (step.rename names).equal (.int 1)) =
        (step.equal .null || step.equal (.int 1)) := by
      cases step with
      | _ => rfl
    dsimp only [Option.map_some]
    rw [stepped, Value.sliceBound?_rename, Value.sliceBound?_rename]
    split
    · exact bind_kept fun _ _ => bind_kept fun _ _ => bind_kept fun _ _ => rfl
    · rfl

theorem check_rename (environment : Environment) (condition : Bool) (failure : Check) :
    check (environment.rename names) condition failure = check environment condition failure := by
  unfold check
  rw [checksAssertions_rename]

theorem advanceTo_rename (environment : Environment) (place : Nat) :
    stream.advanceTo (environment.rename names) place = stream.advanceTo environment place := by
  unfold advanceTo
  rw [check_rename]

theorem takeTo_rename (environment : Environment) (stop : Option Nat) (orEmpty : Bool) :
    stream.takeTo (environment.rename names) stop orEmpty =
      stream.takeTo environment stop orEmpty := by
  unfold takeTo
  simp only [advanceTo_rename]

theorem takeUpTo_rename (environment : Environment) (count : Number) :
    stream.takeUpTo (environment.rename names) count = stream.takeUpTo environment count := by
  unfold takeUpTo
  simp only [advanceTo_rename]

/-- An operation answers the same, the walks in it being numbered otherwise. -/
theorem perform_rename (environment : Environment) (operation : Operation) :
    stream.perform (environment.rename names) (operation.rename names) =
      (stream.perform environment operation).map (renameDone names) := by
  have answered {value value' : Value} (rest : Stream) (same : value.rename names = value') :
      (.ok (.value value', rest) : Except Fault (Outcome × Stream)) =
        (Except.ok (.value value, rest)).map (renameDone names) := by
    rw [← same]
    rfl
  have units (codes : List Nat) : Value.renameAll names (codes.map (.ofUnit stream.unit)) =
      codes.map (.ofUnit stream.unit) :=
    (Value.renameAll_eq names _).trans
      (Value.map_rename_of_same names (Value.rename_ofUnit names stream.unit) codes)
  cases operation with
  | front => exact answered stream (rename_unitValue names stream stream.front?)
  | back => exact answered stream (rename_unitValue names stream stream.back?)
  | «at» offset =>
    change (stream.unitAt offset >>= fun answer => pure (Outcome.value answer, stream)) = _
    rw [← unitAt_rename names]
    exact bind_changed fun answer _ => rfl
  | slice start stop => exact bind_kept fun window _ => rfl
  | item key =>
    dsimp only [Operation.rename, perform]
    rw [item_rename]
    exact bind_changed fun answer _ => rfl
  | startsWith text =>
    dsimp only [Operation.rename, perform]
    rw [CharUnit.text_rename]
    exact bind_kept fun needle _ => bind_kept fun answer _ => rfl
  | startsWithAny chars =>
    dsimp only [Operation.rename, perform]
    rw [isAnyOf_rename]
    exact bind_kept fun answer _ => rfl
  | endsWith text =>
    dsimp only [Operation.rename, perform]
    rw [CharUnit.text_rename]
    exact bind_kept fun needle _ => bind_kept fun answer _ => rfl
  | endsWithAny chars =>
    dsimp only [Operation.rename, perform]
    rw [isAnyOf_rename]
    exact bind_kept fun answer _ => rfl
  | text => exact answered stream (Value.rename_ofBuffer names stream.extract)
  | view =>
    dsimp only [Operation.rename, perform]
    split
    · rfl
    · rfl
  | location file =>
    exact bind_kept fun place _ => answered stream
      (Value.ofLocation_rename names place stream.startForm file)
  | drop count =>
    dsimp only [Operation.rename, perform]
    rw [checkCount, check_rename, takeUpTo_rename]
    exact bind_kept fun _ _ => bind_kept fun cut _ => rfl
  | take count =>
    dsimp only [Operation.rename, perform]
    rw [takeUpTo_rename]
    exact bind_kept fun cut _ => rfl
  | consume char =>
    dsimp only [Operation.rename, perform]
    rw [CharUnit.char_rename]
    refine bind_kept fun code _ => ?_
    cases stream.consume? code with
    | none => rfl
    | some rest => rfl
  | extract count =>
    dsimp only [Operation.rename, perform]
    rw [checkCount, check_rename]
    refine bind_kept fun _ _ => bind_kept fun extracted _ => ?_
    cases extracted with
    | none => rfl
    | some cut => exact answered cut.2 (congrArg Value.tuple (units cut.1))
  | takeTo stopping target =>
    dsimp only [Operation.rename, perform]
    rw [stop?_rename]
    simp only [takeTo_rename]
    exact bind_kept fun stop _ => bind_kept fun cut _ => rfl
  | dropTo stopping target =>
    dsimp only [Operation.rename, perform]
    rw [stop?_rename]
    simp only [takeTo_rename]
    exact bind_kept fun stop _ => bind_kept fun cut _ => rfl
  | takeDelimited delimiter =>
    dsimp only [Operation.rename, perform]
    rw [CharUnit.text_rename]
    refine bind_kept fun needle _ => bind_kept fun delimited _ => ?_
    cases delimited with
    | none => rfl
    | some cut => rfl
  | takeDelimitedAny delimiters =>
    dsimp only [Operation.rename, perform]
    rw [CharUnit.charset_rename]
    split
    · rfl
    · refine bind_kept fun chars _ => bind_kept fun delimited _ => ?_
      cases delimited with
      | none => rfl
      | some cut => rfl
  | trim chars =>
    dsimp only [Operation.rename, perform]
    rw [trimmed_rename, trimSet_rename, Value.spentAsChars_rename, trimSet_rename]
    exact bind_kept fun _ _ => bind_kept fun _ _ => bind_kept fun _ _ => bind_kept fun _ _ => rfl
  | trimFront chars =>
    dsimp only [Operation.rename, perform]
    rw [trimmed_rename, trimSet_rename]
    exact bind_kept fun _ _ => bind_kept fun _ _ => rfl
  | trimBack chars =>
    dsimp only [Operation.rename, perform]
    rw [trimmed_rename, trimSet_rename]
    exact bind_kept fun _ _ => bind_kept fun _ _ => rfl
  | lines separator =>
    dsimp only [Operation.rename, perform]
    rw [separating_rename, CharUnit.text_rename, CharUnit.forms_rename]
    exact bind_kept fun codes _ => rfl
  | toList => exact answered stream (congrArg Value.list (units stream.content))
  | buffer => exact answered stream (Value.rename_ofBuffer names stream.buffer)
  | _ => rfl

theorem walksRead_rename (environment : Environment) (operation : Operation) :
    stream.walksRead (environment.rename names) (operation.rename names) =
      (stream.walksRead environment operation).map names := by
  have target (stopping : Stopping) (target : Value) :
      walksRead.walksInTarget stream stopping (target.rename names) =
        (walksRead.walksInTarget stream stopping target).map names := by
    unfold walksRead.walksInTarget
    rw [CharUnit.walksInCharset_rename, CharUnit.walksInText_rename, apply_ite (List.map names)]
  cases operation with
  | startsWith text => exact CharUnit.walksInText_rename names _ text
  | startsWithAny chars =>
    dsimp only [Operation.rename, walksRead]
    rw [CharUnit.walksInCharset_rename, apply_ite (List.map names)]
    rfl
  | endsWith text => exact CharUnit.walksInText_rename names _ text
  | endsWithAny chars =>
    dsimp only [Operation.rename, walksRead]
    rw [CharUnit.walksInCharset_rename, apply_ite (List.map names)]
    rfl
  | consume char => exact CharUnit.walksInText_rename names _ char
  | takeTo stopping value => exact target stopping value
  | dropTo stopping value => exact target stopping value
  | takeDelimited delimiter => exact CharUnit.walksInText_rename names _ delimiter
  | takeDelimitedAny delimiters =>
    dsimp only [Operation.rename, walksRead]
    rw [CharUnit.walksInCharset_rename, apply_ite (List.map names)]
    rfl
  | trim chars =>
    dsimp only [Operation.rename, walksRead]
    rw [trimmed_rename, CharUnit.walksInCharset_rename]
  | trimFront chars =>
    dsimp only [Operation.rename, walksRead]
    rw [trimmed_rename, CharUnit.walksInCharset_rename]
  | trimBack chars =>
    dsimp only [Operation.rename, walksRead]
    rw [trimmed_rename, CharUnit.walksInCharset_rename]
  | lines separator =>
    dsimp only [Operation.rename, walksRead]
    rw [separating_rename, CharUnit.walksInText_rename]
  | _ => rfl

end Stream

theorem bind_rename (method : Method) (values : List Value) :
    method.bind (values.map (Value.rename names)) =
      (method.bind values).map (Operation.rename names) := by
  have head (default : Value) (same : default.rename names = default) :
      (values.map (Value.rename names)).headD default = (values.headD default).rename names := by
    cases values with
    | nil => exact same.symm
    | cons first rest => rfl
  have second : (values.map (Value.rename names))[1]?.getD .null =
      (values[1]?.getD Value.null).rename names := by
    rw [List.getElem?_map]
    cases values[1]? with
    | none => rfl
    | some value => rfl
  have empty : (values.map (Value.rename names)).isEmpty = values.isEmpty := List.isEmpty_map
  have number {change : Number → Operation} (fixed : ∀ count, (change count).rename names = change count)
      (count : Except Fault Number) : count.map change = (count.map change).map (Operation.rename names) := by
    cases count with
    | error fault => rfl
    | ok count => exact congrArg Except.ok (fixed count).symm
  unfold Method.bind
  rw [List.length_map, head Value.null rfl, head (Value.int 1) rfl, second, empty]
  simp only [Value.numberRight_rename, Value.numberLeft_rename, Value.sliceBound?_rename]
  cases method with
  | has => exact bind_kept fun _ _ => number (fun _ => rfl) _
  | «at» => exact bind_kept fun _ _ => number (fun _ => rfl) _
  | drop => exact bind_kept fun _ _ => number (fun _ => rfl) _
  | take => exact bind_kept fun _ _ => number (fun _ => rfl) _
  | extract => exact bind_kept fun _ _ => number (fun _ => rfl) _
  | slice => exact bind_kept fun _ _ => bind_kept fun _ _ => bind_kept fun _ _ => rfl
  | item =>
    cases values with
    | nil => rfl
    | cons key rest => rfl
  | truth => rfl
  | toList => rfl
  | length => rfl
  | plain => rfl
  | shown => rfl
  | hash => rfl
  | duplicate => rfl
  | buffer => rfl
  | _ => exact bind_kept fun _ _ => rfl

end Performing

namespace Session

mutual

def Term.literals : Term → List Value
  | .value value => [value]
  | .register _ => []
  | .list terms => literalsAmong terms
  | .tuple terms => literalsAmong terms
  | .set terms => literalsAmong terms
  | .frozenSet terms => literalsAmong terms
  | .slice start stop step => start.literals ++ stop.literals ++ step.literals
  | .constant term => term.literals
  | .repeated term _ => term.literals
  | .joined terms => literalsAmong terms
  | .refused _ => []

def literalsAmong : List Term → List Value
  | [] => []
  | term :: rest => term.literals ++ literalsAmong rest

end

theorem repeatedValue_rename (count : Nat) (value : Value) :
    repeatedValue count (value.rename names) =
      (repeatedValue count value).map (Value.rename names) := by
  have repeats (members : List Value) :
      (List.replicate count (Value.renameAll names members)).flatten =
        Value.renameAll names (List.replicate count members).flatten := by
    rw [Value.renameAll_eq, Value.renameAll_eq, List.map_flatten, List.map_replicate]
  cases value with
  | list members => exact congrArg (Except.ok ∘ Value.list) (repeats members)
  | tuple members => exact congrArg (Except.ok ∘ Value.tuple) (repeats members)
  | array typed =>
    dsimp only [Value.rename, repeatedValue]
    split
    · rfl
    · rfl
  | _ => rfl

theorem joinedValue_rename (first second : Value) :
    joinedValue (first.rename names) (second.rename names) =
      (joinedValue first second).map (Value.rename names) := by
  have joins (members members' : List Value) :
      Value.renameAll names members ++ Value.renameAll names members' =
        Value.renameAll names (members ++ members') := by
    rw [Value.renameAll_eq, Value.renameAll_eq, Value.renameAll_eq, List.map_append]
  cases first with
  | list members =>
    cases second with
    | list members' => exact congrArg (Except.ok ∘ Value.list) (joins members members')
    | _ => rfl
  | tuple members =>
    cases second with
    | tuple members' => exact congrArg (Except.ok ∘ Value.tuple) (joins members members')
    | _ => rfl
  | array typed =>
    cases second with
    | array typed' =>
      dsimp only [Value.rename, joinedValue]
      split
      · split
        · rfl
        · rfl
      · rfl
    | _ => rfl
  | _ =>
    cases second with
    | _ => rfl

theorem joinedValues_rename (values : List Value) :
    joinedValues (values.map (Value.rename names)) =
      (joinedValues values).map (Value.rename names) := by
  cases values with
  | nil => rfl
  | cons first rest =>
    change (rest.map (Value.rename names)).foldlM joinedValue (first.rename names) =
      (rest.foldlM joinedValue first).map (Value.rename names)
    induction rest generalizing first with
    | nil => rfl
    | cons second rest later =>
      rw [List.map_cons, List.foldlM_cons, List.foldlM_cons, joinedValue_rename]
      exact bind_changed fun joined _ => later joined

variable {names} {lookup lookup' : String → Except Fault Value}

mutual

/-- A term whose literals name no walk comes to what it comes to with the registers renamed. -/
theorem eval_rename (injective : Function.Injective names) (term : Term)
    (named : ∀ name ∈ term.names, lookup' name = (lookup name).map (Value.rename names))
    (plain : ∀ value ∈ term.literals, value.rename names = value) :
    term.eval lookup' = (term.eval lookup).map (Value.rename names) := by
  have members {build : List Value → Value} (given : List Value)
      (each : ∀ members, build (members.map (Value.rename names)) =
        (build members).rename names) :
      (Value.members (given.map (Value.rename names))).map build =
        ((Value.members given).map build).map (Value.rename names) := by
    rw [Value.members_rename injective]
    cases Value.members given with
    | error fault => rfl
    | ok members => exact congrArg Except.ok (each members)
  cases term with
  | value value => exact congrArg Except.ok (plain value (.head _)).symm
  | register name => exact named name (.head _)
  | list terms =>
    rw [Term.eval, Term.eval, evalAll_rename injective terms named plain]
    cases evalAll lookup terms with
    | error fault => rfl
    | ok values => exact congrArg (Except.ok ∘ Value.list) (Value.renameAll_eq names values).symm
  | tuple terms =>
    rw [Term.eval, Term.eval, evalAll_rename injective terms named plain]
    cases evalAll lookup terms with
    | error fault => rfl
    | ok values => exact congrArg (Except.ok ∘ Value.tuple) (Value.renameAll_eq names values).symm
  | set terms =>
    rw [Term.eval, Term.eval, evalAll_rename injective terms named plain]
    exact bind_changed fun given _ => members given fun members =>
      congrArg Value.set (Value.renameAll_eq names members).symm
  | frozenSet terms =>
    rw [Term.eval, Term.eval, evalAll_rename injective terms named plain]
    exact bind_changed fun given _ => members given fun members =>
      congrArg Value.frozenSet (Value.renameAll_eq names members).symm
  | slice start stop step =>
    simp only [Term.names, Term.literals, List.forall_mem_append] at named plain
    rw [Term.eval, Term.eval, eval_rename injective start named.1.1 plain.1.1,
      eval_rename injective stop named.1.2 plain.1.2, eval_rename injective step named.2 plain.2]
    exact bind_changed fun _ _ => bind_changed fun _ _ => bind_changed fun _ _ => rfl
  | constant term =>
    rw [Term.eval, Term.eval, eval_rename injective term named plain]
    exact bind_changed fun _ _ => rfl
  | repeated term count =>
    rw [Term.eval, Term.eval, eval_rename injective term named plain]
    exact bind_changed fun value _ => repeatedValue_rename names count.toNat value
  | joined terms =>
    rw [Term.eval, Term.eval, evalAll_rename injective terms named plain]
    exact bind_changed fun values _ => joinedValues_rename names values
  | refused fault => rfl

theorem evalAll_rename (injective : Function.Injective names) (terms : List Term)
    (named : ∀ name ∈ namesAmong terms, lookup' name = (lookup name).map (Value.rename names))
    (plain : ∀ value ∈ literalsAmong terms, value.rename names = value) :
    evalAll lookup' terms = (evalAll lookup terms).map (List.map (Value.rename names)) := by
  cases terms with
  | nil => rfl
  | cons term rest =>
    simp only [namesAmong, literalsAmong, List.forall_mem_append] at named plain
    rw [evalAll, evalAll, eval_rename injective term named.1 plain.1,
      evalAll_rename injective rest named.2 plain.2]
    exact bind_changed fun _ _ => bind_changed fun _ _ => rfl

end

end Session

end TextScan
