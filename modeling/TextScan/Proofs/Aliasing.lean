import TextScan.Proofs.Interference

/-! Aliasing: which names lead to one cursor, and what that means for operations that are asked
through them. A stream that an operation hands back as itself moves with its receiver; every other
stream that it gives is a cursor of its own, which moves when it is asked and at no other time. -/

namespace TextScan

/-- Whether a method gives back the stream that it is asked of. -/
def Method.returnsItself : Method → Bool
  | .drop => true
  | .dropTo _ => true
  | .trim => true
  | .trimFront => true
  | .trimBack => true
  | _ => false

def Outcome.isItself : Outcome → Bool
  | .itself => true
  | .value _ => false

theorem Method.returnsItself_proper (method : Method) :
    method.proper.returnsItself = method.returnsItself := by
  cases method with
  | _ => rfl

/-- The method tells whether an operation gives back the stream itself. -/
theorem Stream.perform_isItself (environment : Environment) (stream : Stream)
    (operation : Operation) (done : Outcome × Stream) :
    stream.perform environment operation = .ok done →
      done.1.isItself = operation.method.returnsItself := by
  revert done
  have answers {itself : Bool} {outcome : Outcome} (kind : outcome.isItself = itself)
      (rest : Stream) (done : Outcome × Stream) :
      (.ok (outcome, rest) : Except Fault _) = .ok done → done.1.isItself = itself := by
    intro same
    cases same
    exact kind
  have after {α : Type} {itself : Bool} {result : Except Fault α}
      {next : α → Except Fault (Outcome × Stream)}
      (later : ∀ answer done, next answer = .ok done → done.1.isItself = itself)
      (done : Outcome × Stream) : (result >>= next) = .ok done → done.1.isItself = itself := by
    intro same
    obtain ⟨answer, -, same⟩ := bind_eq_ok.mp same
    exact later answer done same
  cases operation with
  | view =>
    unfold perform
    dsimp only
    split
    · exact answers rfl _
    · intro done same
      cases same
  | hash =>
    intro done same
    cases same
  | drop count => exact after fun _ => after fun _ => answers rfl _
  | take count => exact after fun _ => answers rfl _
  | consume char =>
    refine after fun code => ?_
    split
    · exact answers rfl _
    · exact answers rfl _
  | extract count =>
    refine after fun _ => after fun found => ?_
    split
    · exact answers rfl _
    · exact answers rfl _
  | takeTo stopping target => exact after fun _ => after fun _ => answers rfl _
  | dropTo stopping target => exact after fun _ => after fun _ => answers rfl _
  | takeDelimited delimiter =>
    refine after fun _ => after fun found => ?_
    split
    · exact answers rfl _
    · exact answers rfl _
  | takeDelimitedAny delimiters =>
    unfold perform
    dsimp only
    split
    · exact answers rfl _
    · refine after fun _ => after fun found => ?_
      split
      · exact answers rfl _
      · exact answers rfl _
  | trim chars => exact after fun _ => after fun _ => after fun _ => after fun _ => answers rfl _
  | trimFront chars => exact after fun _ => after fun _ => answers rfl _
  | trimBack chars => exact after fun _ => after fun _ => answers rfl _
  | «at» offset => exact after fun _ => answers rfl _
  | slice start stop => exact after fun _ => answers rfl _
  | item key => exact after fun _ => answers rfl _
  | startsWith text => exact after fun _ => after fun _ => answers rfl _
  | startsWithAny chars => exact after fun _ => answers rfl _
  | endsWith text => exact after fun _ => after fun _ => answers rfl _
  | endsWithAny chars => exact after fun _ => answers rfl _
  | location file => exact after fun _ => answers rfl _
  | lines separator => exact after fun _ => answers rfl _
  | _ => exact answers rfl _

namespace Session

section Frames

variable {id : Nat} {cursor : Cursor}

mutual

theorem step_cursor {session : Session} (sound : session.Sound) (step : Step)
    (apart : Along (fun session command _ => session.receiving? command ≠ some (.stream id))
      session step)
    (there : session.store.cursors[id]? = some cursor) :
    (session.step step).1.store.cursors[id]? = some cursor := by
  cases step with
  | act command name =>
    rw [Along] at apart
    rw [step_act]
    exact (act_spares sound command name).cursors id cursor apart there
  | fork fresh steps =>
    rw [Along] at apart
    rw [step_fork]
    exact run_cursor (sound.forked fresh) steps apart there

theorem run_cursor {session : Session} (sound : session.Sound) (steps : List Step)
    (apart : AlongAll (fun session command _ => session.receiving? command ≠ some (.stream id))
      session steps)
    (there : session.store.cursors[id]? = some cursor) :
    (session.run steps).1.store.cursors[id]? = some cursor := by
  cases steps with
  | nil =>
    rw [run_nil]
    exact there
  | cons step rest =>
    rw [AlongAll] at apart
    rw [run_cons]
    exact run_cursor (step_lawful sound step).2.1 rest apart.2
      (step_cursor sound step apart.1 there)

end

end Frames

section Handed

variable {session : Session} {id : Nat} {on : String} {method : Method} {arguments : List Term}
  {done : Effect}

theorem lookup_kept (session : Session) (name : String) (object : Object) :
    (session.kept? (some name) object).registers.lookup name = some object := by
  change (session.keep name object).registers.lookup name = some object
  rw [lookup_keep, if_pos rfl]

theorem answerContent_result (session : Session) (id : Nat) (value : Value) :
    (session.answerContent id value).result = .value value := by
  unfold answerContent
  split
  · rfl
  · rfl

theorem answerFrom_result (session : Session) (cursor : Cursor) (method : Method)
    (arguments : List Term) (value : Value) :
    let done := session.answerFrom cursor method arguments value
    (done.result = .value value ∧ ∀ piece, value ≠ .stream piece) ∨
      done.kept = .stream session.store.cursors.length ∧
        ∃ piece, done.result = .value (.stream piece) := by
  unfold answerFrom
  split
  · exact .inr ⟨rfl, _, rfl⟩
  · refine .inl ⟨rfl, ?_⟩
    intro piece same
    cases same
  · rename_i plain _
    refine .inl ⟨?_, plain⟩
    split
    · rfl
    · split
      · exact answerContent_result session _ _
      · split
        · rfl
        · rfl

/-- What a call gives of a stream, by its method: the cursor that it is asked of, or else a cursor
that was not there before for every stream that it gives. -/
theorem call_hands (held : session.registers.lookup on = some (.stream id))
    (ok : session.call on method arguments = .ok done) :
    if method.returnsItself then done.result = .itself ∧ done.kept = .stream id
    else done.result ≠ .itself ∧ ∀ piece, done.result = .value (.stream piece) →
      done.kept = .stream session.store.cursors.length := by
  obtain ⟨object, values, found, -, given⟩ := call_ok ok
  cases held.symm.trans (lookup_eq_ok found)
  rcases given with
    ⟨_, cursor, operation, outcome, rest, same, -, bound, performed, rfl⟩ | ⟨apart, -⟩
  · cases same
    have kind := Stream.perform_isItself _ _ _ _ performed
    rw [bind_method method values operation bound, Method.returnsItself_proper] at kind
    rw [← kind]
    cases outcome with
    | itself => exact ⟨rfl, rfl⟩
    | value value =>
      have count : (session.store.setCursor id
          (.ofStream cursor.buffer cursor.pinned rest)).cursors.length =
            session.store.cursors.length := List.length_set
      rcases answerFrom_result { session with
          store := session.store.setCursor id (.ofStream cursor.buffer cursor.pinned rest) }
          cursor method arguments value with ⟨plain, other⟩ | ⟨fresh, piece, result⟩
      · refine ⟨?_, ?_⟩
        · intro itself
          cases plain.symm.trans itself
        · intro piece result
          cases plain.symm.trans result
          exact absurd rfl (other piece)
      · refine ⟨?_, fun _ _ => fresh.trans (congrArg Object.stream count)⟩
        intro itself
        cases result.symm.trans itself
  · exact absurd rfl (apart id)

theorem create_fresh {rest : List Term} (held : session.registers.lookup on = some (.stream id))
    (ok : session.create (.register on :: rest) = .ok done) :
    done.kept = .stream session.store.cursors.length := by
  obtain ⟨values, -, ok⟩ := bind_eq_ok.mp ok
  obtain ⟨_, -, ok⟩ := bind_eq_ok.mp ok
  obtain ⟨object, found, ok⟩ := bind_eq_ok.mp ok
  have own : session.lookup on = .ok object := found
  cases held.symm.trans (lookup_eq_ok own)
  unfold createOver at ok
  dsimp only at ok
  split at ok
  · obtain ⟨window, -, ok⟩ := bind_eq_ok.mp ok
    cases ok
    rfl
  · cases ok

/-- A register holds a cursor that was not there before, and no other register leads to it. -/
structure HoldsNew (before after : Session) (name : String) (id : Nat) : Prop where
  held : after.registers.lookup name = some (.stream id)
  new : before.store.cursors.length ≤ id
  known : id < after.store.cursors.length
  only : ∀ other ≠ name, ∀ object, after.registers.lookup other = some object →
    .stream id ∉ object.parts

theorem Sound.lookup_known (sound : session.Sound) {object : Object}
    (held : session.registers.lookup on = some object) : session.store.Knows object := by
  apply sound.lookup
  unfold Session.lookup
  rw [held]

theorem act_keeps {command : Command} (effected : session.effect command = .ok done)
    (name : String) :
    (session.act command (some name)).1.registers.lookup name = some done.kept := by
  rw [act_done effected]
  exact lookup_kept _ name done.kept

/-- A new cursor that a command gives is held by the register that keeps it, and by none else. -/
theorem act_holdsNew (sound : session.Sound) {command : Command}
    (effected : session.effect command = .ok done) (fixed : command.configures = false)
    (unappended : ∀ on code, command ≠ .append on code)
    (fresh : done.kept = .stream session.store.cursors.length) (name : String) :
    HoldsNew session (session.act command (some name)).1 name session.store.cursors.length := by
  have held := act_keeps effected name
  rw [fresh] at held
  refine ⟨held, Nat.le_refl _, (act_lawful sound command (some name)).sound.lookup_known held, ?_⟩
  intro other apart object found leads
  obtain ⟨-, -, -, registers⟩ := act_framed sound fixed unappended (some name)
  rw [registers other fun same => apart (Option.some.inj same).symm] at found
  exact Nat.lt_irrefl _ ((sound.lookup_known found).parts _ leads)

/-- A call is the same through any name of the cursor that it is asked of. -/
theorem act_alias {other : String} (held : session.registers.lookup on = some (.stream id))
    (held' : session.registers.lookup other = some (.stream id)) (name : Option String) :
    session.act (.call on method arguments) name =
      session.act (.call other method arguments) name := by
  have named : session.lookup on = session.lookup other := by
    unfold lookup
    rw [held, held']
  have called (method : Method) :
      session.call on method arguments = session.call other method arguments := by
    unfold call
    rw [named]
  have used : session.walksUsed (.call on method arguments) =
      session.walksUsed (.call other method arguments) := by
    unfold walksUsed walksCalled
    dsimp only
    rw [named]
  have halts : session.halted (.call on method arguments) =
      session.halted (.call other method arguments) := by
    unfold halted
    cases method with
    | trim =>
      dsimp only
      rw [called]
    | _ => rfl
  unfold act
  simp only [receiver?, Option.bind_some, held, held', used, halts, effect, called]
  rfl

end Handed

end Session

end TextScan
