import TextScan.Proofs.Grounds
import TextScan.Proofs.QuietCommands

namespace TextScan.Session

variable {session : Session} {command : Command} {object : Object} {values : List Value}

/-- An effect that moves nothing; at most a bound is written otherwise. -/
structure Effect.Still (done : Effect) (session : Session) : Prop where
  framed : done.Framed session
  holdings : done.session.store.holdings = session.store.holdings
  count : done.session.store.cursors.length = session.store.cursors.length
  cursors : ∀ (id : Nat) (window : Cursor), session.store.cursors[id]? = some window →
    ∃ still, done.session.store.cursors[id]? = some still ∧ still.ground = window.ground ∧
      still.start = window.start ∧ still.stop = window.stop

/-- How assertions show in what a command does. -/
structure Asserts (session : Session) (command : Command) (name : Option String) : Prop where
  /-- One fails just by a negative count while assertions are checked. -/
  raised : session.Legible command → ∀ check,
    session.effect command = .error (.assertion check) ↔
      session.environment.checksAssertions = true ∧ session.Fails command check
  /-- What is taken always lies in the window. -/
  held : session.Legible command → session.effect command ≠ .error (.assertion .heldCount)
  /-- It is logged once then, and nothing changes. -/
  failed : session.environment.checksAssertions = true → ∀ check, session.Fails command check →
    session.act command name = (session, .act (.error (.assertion check))
      (session.window? (session.receiving? command)) [.assertionFailed check])
  /-- Unless assertions are checked, a negative count gives back the stream or nothing, and moves
  nothing. -/
  ignored : session.environment.checksAssertions = false → ∀ check, session.Fails command check →
    ∃ done, session.effect command = .ok done ∧ done.Still session ∧
      (check = .dropCount → done.result = .itself ∧ session.receiving? command = some done.kept) ∧
      (check = .extractCount → done.result = .value .null)
  /-- All else logs nothing. -/
  silent : command.configures = false → session.Legible command →
    (session.environment.checksAssertions = true → ∀ check, ¬session.Fails command check) →
    ∀ result moved log, (session.act command name).2 = .act result moved log → log = []

section Law

variable {on : String} {method : Method} {arguments : List Term} {stream : Stream}
  {operation : Operation} {check : Check}

theorem act_silent (sound : session.Sound) (fixed : command.configures = false)
    (legible : session.Legible command)
    (passing : session.environment.checksAssertions = true →
      ∀ check, ¬session.Fails command check) (name : Option String) {result : Except Fault Result}
    {moved : Option (Value × Value)} {log : List Event}
    (answered : (session.act command name).2 = .act result moved log) : log = [] := by
  cases effected : session.effect command with
  | error fault =>
    rw [act_fault effected] at answered
    cases answered
    cases fault with
    | assertion check => exact absurd effected (effect_quiet sound legible passing check)
    | _ => rfl
  | ok done =>
    rw [act_done effected] at answered
    cases answered
    cases command with
    | setConfig fields => cases fixed
    | pushConfig scope fields => cases fixed
    | _ => rfl

theorem Comes.walksUsed (comes : session.Comes on method arguments stream operation)
    (failing : operation.failing? = some check) :
    session.walksUsed (.call on method arguments) = [] := by
  obtain ⟨⟨id, held, found⟩, values, read, bound⟩ := comes
  have none : stream.walksRead session.environment operation = [] := by
    cases operation with
    | drop count => rfl
    | extract count => rfl
    | _ => cases failing
  unfold Session.walksUsed walksCalled
  simp only [held, found, read, bound, none, bind, Except.bind, pure, Except.pure]
  rfl

/-- A failed assertion is logged once, and the session stays as it is. -/
theorem Comes.failed (sound : session.Sound)
    (comes : session.Comes on method arguments stream operation)
    (checks : session.environment.checksAssertions = true)
    (failing : operation.failing? = some check) (name : Option String) :
    session.act (.call on method arguments) name = (session, .act (.error (.assertion check))
      (session.window? (session.receiving? (.call on method arguments))) [.assertionFailed check]) := by
  have faulted : session.effect (.call on method arguments) = .error (.assertion check) :=
    comes.call_error.mpr (Stream.perform_failing checks failing)
  have repeatable : (operation.reading session.environment.config).isRepeatable = true := by
    cases operation with
    | drop count => rfl
    | extract count => rfl
    | _ => cases failing
  have halted := comes.halted_eq sound repeatable faulted
  rw [act_fault faulted, halted, comes.walksUsed failing]
  rfl

theorem call_performed {id : Nat} {cursor : Cursor} {values : List Value} {outcome : Outcome}
    {rest : Stream} (held : session.lookup on = .ok (.stream id))
    (there : session.store.cursors[id]? = some cursor)
    (read : session.evalMany arguments = .ok values) (bound : method.bind values = .ok operation)
    (performed : (session.store.stream cursor).perform session.environment operation =
      .ok (outcome, rest)) :
    session.call on method arguments = .ok (
      let moved := { session with
        store := session.store.setCursor id (.ofStream cursor.buffer cursor.pinned rest) }
      match outcome with
      | .itself => ⟨moved, .itself, .stream id⟩
      | .value value => moved.answerFrom cursor method arguments value) := by
  unfold call
  simp only [held, read, there, bound, performed, bind, Except.bind]
  cases outcome with
  | _ => rfl

theorem answerFrom_null (session : Session) (cursor : Cursor) (method : Method)
    (arguments : List Term) :
    (session.answerFrom cursor method arguments .null).session = session ∧
      (session.answerFrom cursor method arguments .null).result = .value .null := by
  unfold answerFrom
  dsimp only
  split
  · exact ⟨rfl, rfl⟩
  · split
    · exact ⟨rfl, rfl⟩
    · split
      · exact ⟨rfl, rfl⟩
      · exact ⟨rfl, rfl⟩

/-- Unless assertions are checked, a negative count moves nothing. -/
theorem Comes.ignored (sound : session.Sound)
    (comes : session.Comes on method arguments stream operation)
    (unchecked : session.environment.checksAssertions = false)
    (failing : operation.failing? = some check) :
    ∃ done, session.effect (.call on method arguments) = .ok done ∧ done.Still session ∧
      (check = .dropCount → done.result = .itself ∧
        session.receiving? (.call on method arguments) = some done.kept) ∧
      (check = .extractCount → done.result = .value .null) := by
  obtain ⟨⟨id, held, found⟩, values, read, bound⟩ := comes
  obtain ⟨own, there, rfl⟩ := Option.map_eq_some_iff.mp found
  have valid := (sound.store.holds there).valid
  have reach := (List.getElem?_eq_some_iff.mp there).1
  have still (rest : Cursor) (same : rest.ground = own.ground ∧ rest.start = own.start ∧
      rest.stop = own.stop) {done : Effect} (framed : done.Framed session)
      (set : done.session.store = session.store.setCursor id rest) : done.Still session := by
    refine ⟨framed, by rw [set]; rfl, by rw [set]; exact List.length_set, ?_⟩
    intro cursor window before
    rw [set]
    by_cases moved : id = cursor
    · subst moved
      cases there.symm.trans before
      exact ⟨rest, List.getElem?_set_self reach, same⟩
    · exact ⟨window, (List.getElem?_set_ne moved).trans before, rfl, rfl, rfl⟩
  rcases valid.perform_ignored unchecked failing with ⟨rfl, done⟩ | ⟨rfl, done⟩
  · let rest := Cursor.ofStream own.buffer own.pinned
      ((session.store.stream own).onFrom (session.store.stream own).start)
    have called := call_performed held there read bound done
    refine ⟨_, called, still rest ⟨rfl, rfl, rfl⟩ (call_framed called) rfl, ?_, nofun⟩
    exact fun _ => ⟨rfl, lookup_eq_ok held⟩
  · let rest := Cursor.ofStream own.buffer own.pinned (session.store.stream own)
    obtain ⟨unchanged, null⟩ := answerFrom_null { session with
      store := session.store.setCursor id rest } own method arguments
    have called := call_performed held there read bound done
    refine ⟨_, called, still rest ⟨rfl, rfl, rfl⟩ (call_framed called) ?_, nofun,
      fun _ => null⟩
    exact congrArg Session.store unchanged

theorem effect_assertion (sound : session.Sound) (legible : session.Legible command)
    (check : Check) : session.effect command = .error (.assertion check) ↔
      session.environment.checksAssertions = true ∧ session.Fails command check := by
  constructor
  · intro failed
    by_cases passing : session.environment.checksAssertions = true →
      ∀ other, ¬session.Fails command other
    · exact absurd failed (effect_quiet sound legible passing check)
    · push Not at passing
      obtain ⟨checks, other, fails⟩ := passing
      refine ⟨checks, ?_⟩
      obtain ⟨on, method, arguments, stream, operation, rfl, comes, failing⟩ := fails
      have raised := comes.call_error.mpr (Stream.perform_failing checks failing)
      cases failed.symm.trans raised
      exact ⟨on, method, arguments, stream, operation, rfl, comes, failing⟩
  · rintro ⟨checks, on, method, arguments, stream, operation, rfl, comes, failing⟩
    exact comes.call_error.mpr (Stream.perform_failing checks failing)

theorem act_asserts (sound : session.Sound) (command : Command) (name : Option String) :
    Asserts session command name := by
  constructor
  · exact effect_assertion sound
  · intro legible failed
    obtain ⟨-, on, method, arguments, stream, operation, -, -, failing⟩ :=
      (effect_assertion sound legible .heldCount).mp failed
    exact operation.failing?_counts failing
  · rintro checks check ⟨on, method, arguments, stream, operation, rfl, comes, failing⟩
    exact comes.failed sound checks failing name
  · rintro unchecked check ⟨on, method, arguments, stream, operation, rfl, comes, failing⟩
    exact comes.ignored sound unchecked failing
  · intro fixed legible passing result moved log answered
    exact act_silent sound fixed legible passing name answered

end Law

end TextScan.Session
