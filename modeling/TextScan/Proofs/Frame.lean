import TextScan.Proofs.SessionRun

namespace TextScan.Session

/-- Whether a command changes what is configured, or the platform. -/
def Command.configures : Command → Bool
  | .setConfig _ => true
  | .resetConfig => true
  | .pushConfig _ _ => true
  | .popConfig _ => true
  | .setPlatform _ => true
  | _ => false

/-- Whether a command asks a walk for what it gives next. -/
def asksNext (session : Session) (id : Nat) : Command → Bool
  | .next on =>
    match session.registers.lookup on with
    | some (.walk other) => other == id
    | _ => false
  | _ => false

/-- What a command may touch: the cursor that it is asked of, and the walks that it goes through
or on with. -/
def Touches (session : Session) (command : Command) : Object → Prop
  | .stream id => session.receiving? command = some (.stream id)
  | .walk id => session.asksNext id command = true ∨ id ∈ session.walksUsed command
  | _ => False

/-- An effect on nothing but the store. -/
def Effect.InStore (done : Effect) (session : Session) : Prop :=
  ∃ store, done.session = { session with store }

/-- An effect on nothing but buffers and cursors. -/
structure Effect.Framed (done : Effect) (session : Session) : Prop where
  inStore : done.InStore session
  walks : done.session.store.walks = session.store.walks

variable {session : Session} {command : Command} {done : Effect}

/-- A walk is asked for what it gives next by the command that names it. -/
theorem asksNext_eq {id : Nat} (asks : session.asksNext id command = true) :
    ∃ on, command = .next on ∧ session.registers.lookup on = some (.walk id) := by
  unfold asksNext at asks
  split at asks
  · rename_i on
    split at asks
    · rename_i other held
      exact ⟨on, rfl, beq_iff_eq.mp asks ▸ held⟩
    · cases asks
  · cases asks

section Framed

theorem answer_framed (session : Session) (value : Value) :
    (session.answer value).Framed session := ⟨⟨session.store, rfl⟩, rfl⟩

theorem answerContent_framed (session : Session) (id : Nat) (value : Value) :
    (session.answerContent id value).Framed session := by
  unfold answerContent
  split
  · unfold holdContent
    dsimp only
    split
    · exact ⟨⟨_, rfl⟩, rfl⟩
    · exact ⟨⟨_, rfl⟩, (Store.addBuffer_cursors _).2⟩
  · exact answer_framed session value

theorem answerFrom_framed (session : Session) (cursor : Cursor) (method : Method)
    (arguments : List Term) (value : Value) :
    (session.answerFrom cursor method arguments value).Framed session := by
  unfold answerFrom
  split
  · exact ⟨⟨_, rfl⟩, rfl⟩
  · exact ⟨⟨_, rfl⟩, rfl⟩
  · split
    · exact ⟨⟨_, rfl⟩, rfl⟩
    · split
      · exact answerContent_framed session _ _
      · split
        · exact ⟨⟨_, rfl⟩, rfl⟩
        · exact answer_framed session _

theorem gather_walks (store : Store) (yields : List Yield) :
    (store.gather yields).1.walks = store.walks := by
  induction yields generalizing store with
  | nil => rfl
  | cons given rest later =>
    cases given with
    | value value => exact later store
    | line window => exact later _
    | stream id => exact later store

theorem answerOther_framed (session : Session) (object : Object) (method : Method)
    (key value : Value) : (session.answerOther object method key value).Framed session := by
  unfold answerOther
  split
  · exact answerContent_framed session _ _
  · exact answerContent_framed session _ _
  · exact answerContent_framed session _ _
  · unfold answerAmong
    split
    · split
      · exact ⟨⟨_, rfl⟩, rfl⟩
      · exact answer_framed session _
    · exact ⟨⟨_, rfl⟩, rfl⟩
    · exact answer_framed session _
  · exact ⟨⟨_, rfl⟩, rfl⟩
  · exact ⟨⟨_, rfl⟩, rfl⟩
  · unfold answerList
    split
    · exact answer_framed session _
    · exact answer_framed session _
    · exact ⟨⟨_, rfl⟩, gather_walks session.store _⟩
  · exact answer_framed session _

theorem call_framed {on : String} {method : Method} {arguments : List Term}
    (ok : session.call on method arguments = .ok done) : done.Framed session := by
  obtain ⟨object, values, -, -, cases⟩ := call_ok ok
  rcases cases with ⟨id, cursor, operation, outcome, rest, -, -, -, -, rfl⟩ | ⟨-, answer, -, rfl⟩
  · cases outcome with
    | itself => exact ⟨⟨_, rfl⟩, rfl⟩
    | value value =>
      have framed := answerFrom_framed { session with
        store := session.store.setCursor id (.ofStream cursor.buffer cursor.pinned rest) }
        cursor method arguments value
      exact ⟨framed.inStore, framed.walks⟩
  · exact answerOther_framed session object method _ answer

theorem createOver_framed {object : Object} {values : List Value}
    (ok : session.createOver object values = .ok done) : done.Framed session := by
  unfold createOver at ok
  dsimp only at ok
  split at ok
  · split at ok
    · obtain ⟨window, -, ok⟩ := bind_eq_ok.mp ok
      cases ok
      exact ⟨⟨_, rfl⟩, rfl⟩
    · cases ok
  · obtain ⟨window, -, ok⟩ := bind_eq_ok.mp ok
    cases ok
    exact ⟨⟨_, rfl⟩, rfl⟩
  · obtain ⟨buffer, -, ok⟩ := bind_eq_ok.mp ok
    obtain ⟨window, -, ok⟩ := bind_eq_ok.mp ok
    cases ok
    exact ⟨⟨_, rfl⟩, (Store.addBuffer_cursors _).2⟩

theorem Effect.Reading.framed (reading : done.Reading session) : done.Framed session := by
  obtain ⟨after, result, kept⟩ := done
  obtain ⟨rfl, -, -⟩ := reading
  exact ⟨⟨_, rfl⟩, rfl⟩

theorem effect_framed (ok : session.effect command = .ok done)
    (fixed : command.configures = false) (walk : ∀ on, command ≠ .walk on)
    (next : ∀ on, command ≠ .next on) : done.Framed session := by
  cases command with
  | create arguments =>
    obtain ⟨values, -, ok⟩ := bind_eq_ok.mp ok
    obtain ⟨_, -, ok⟩ := bind_eq_ok.mp ok
    obtain ⟨object, -, ok⟩ := bind_eq_ok.mp ok
    exact createOver_framed ok
  | call on method arguments => exact call_framed ok
  | walk on => exact absurd rfl (walk on)
  | next on => exact absurd rfl (next on)
  | append on code =>
    obtain ⟨found, -, ok⟩ := bind_eq_ok.mp ok
    obtain ⟨value, -, ok⟩ := bind_eq_ok.mp ok
    obtain ⟨code, fits, -, -, -, rfl⟩ := grow_ok ok
    exact ⟨⟨_, rfl⟩, rfl⟩
  | compare | sameBuffer | same | withFile | properties =>
    exact (effect_reading ok rfl).framed
  | readConfig =>
    cases ok
    exact ⟨⟨_, rfl⟩, rfl⟩
  | _ => cases fixed

end Framed

section Walks

theorem walkOver_cases {object : Object} (ok : session.walkOver object = .ok done) :
    (∃ walk, done = session.startWalk walk) ∨ done = ⟨session, .walk, object⟩ := by
  unfold walkOver at ok
  split at ok
  · cases ok
    exact .inl ⟨_, rfl⟩
  · cases ok
    exact .inl ⟨_, rfl⟩
  · cases ok
    exact .inr rfl
  · cases ok
    exact .inl ⟨_, rfl⟩
  · cases ok
    exact .inl ⟨_, rfl⟩
  · dsimp only at ok
    split at ok
    · cases ok
      exact .inl ⟨_, rfl⟩
    · cases ok

/-- A walk that goes on is what a register holds. -/
theorem next_ok {on : String} (ok : session.next on = .ok done) :
    ∃ id walk, session.registers.lookup on = some (.walk id) ∧
      session.store.walks[id]? = some walk ∧
      done = session.advance id (session.store.next? walk) := by
  obtain ⟨object, held, ok⟩ := bind_eq_ok.mp ok
  split at ok
  · split at ok
    · rename_i id _ walk found
      cases ok
      exact ⟨id, walk, lookup_eq_ok held, found, rfl⟩
    · cases ok
  · cases ok

/-- A walk that is asked for its next value is set to what is behind that. -/
theorem advance_walks (session : Session) (id : Nat) (gives : Option (Yield × Walk)) :
    (session.advance id gives).InStore session ∧
      (session.advance id gives).session.store.walks =
        session.store.walks.set id ((gives.map Prod.snd).getD .finished) := by
  unfold advance
  split
  · exact ⟨⟨_, rfl⟩, rfl⟩
  · dsimp only
    split
    · exact ⟨⟨_, rfl⟩, rfl⟩
    · exact ⟨⟨_, rfl⟩, rfl⟩
    · exact ⟨⟨_, rfl⟩, rfl⟩

theorem effect_inStore (ok : session.effect command = .ok done)
    (fixed : command.configures = false) : done.InStore session := by
  cases command with
  | walk on =>
    obtain ⟨object, -, ok⟩ := bind_eq_ok.mp ok
    rcases walkOver_cases ok with ⟨walk, rfl⟩ | rfl
    · exact ⟨_, rfl⟩
    · exact ⟨_, rfl⟩
  | next on =>
    obtain ⟨id, walk, -, -, rfl⟩ := next_ok ok
    exact (advance_walks session id _).1
  | _ => exact (effect_framed ok fixed nofun nofun).inStore

theorem effect_configures (ok : session.effect command = .ok done)
    (configures : command.configures = true) : done.session.store = session.store := by
  cases command with
  | setConfig fields =>
    obtain ⟨settings, -, ok⟩ := bind_eq_ok.mp ok
    cases ok
    rfl
  | resetConfig =>
    cases ok
    rfl
  | pushConfig scope fields =>
    obtain ⟨settings, -, ok⟩ := bind_eq_ok.mp ok
    cases ok
    exact leave_store session scope
  | popConfig scope =>
    unfold effect at ok
    dsimp only at ok
    split at ok
    · cases ok
      exact leave_store session scope
    · cases ok
  | setPlatform platform =>
    cases ok
    rfl
  | _ => cases configures

/-- Only a walk that is asked for its next value is changed by the effect of a command. -/
theorem effect_walks (ok : session.effect command = .ok done) {id : Nat} {walk : Walk}
    (apart : session.asksNext id command ≠ true) (there : session.store.walks[id]? = some walk) :
    done.session.store.walks[id]? = some walk := by
  by_cases configures : command.configures = true
  · rw [effect_configures ok configures]
    exact there
  · cases command with
    | walk on =>
      obtain ⟨object, -, ok⟩ := bind_eq_ok.mp ok
      rcases walkOver_cases ok with ⟨walk, rfl⟩ | rfl
      · exact Store.getElem?_addWalk there
      · exact there
    | next on =>
      obtain ⟨other, walk, held, -, rfl⟩ := next_ok ok
      have different : other ≠ id := by
        unfold asksNext at apart
        dsimp only at apart
        rw [held] at apart
        simpa using apart
      rw [(advance_walks session other _).2, List.getElem?_set_ne different]
      exact there
    | _ =>
      rw [(effect_framed ok (by simpa using configures) nofun nofun).walks]
      exact there

end Walks

section Spares

theorem effect_cursors (sound : session.Sound) (ok : session.effect command = .ok done) {id : Nat}
    {cursor : Cursor} (apart : session.receiving? command ≠ some (.stream id))
    (there : session.store.cursors[id]? = some cursor) :
    done.session.store.cursors[id]? = some cursor := by
  cases command with
  | create arguments =>
    obtain ⟨values, -, ok⟩ := bind_eq_ok.mp ok
    obtain ⟨_, -, ok⟩ := bind_eq_ok.mp ok
    obtain ⟨object, held, ok⟩ := bind_eq_ok.mp ok
    have known : session.store.Knows object := by
      cases arguments with
      | nil =>
        cases held
        trivial
      | cons term rest => exact sound.hold held
    have steady : done.Steady session none := createOver_steady sound known nofun ok
    exact steady.moves.spares.cursors id cursor nofun there
  | append on code =>
    obtain ⟨⟨id, cursor⟩, found, ok⟩ := bind_eq_ok.mp ok
    obtain ⟨value, -, ok⟩ := bind_eq_ok.mp ok
    obtain ⟨code, fits, -, -, -, rfl⟩ := grow_ok ok
    exact there
  | _ => exact (effect_steady sound ok nofun).moves.spares.cursors id cursor apart there

theorem effect_spares (sound : session.Sound) (ok : session.effect command = .ok done) :
    session.store.Spares (session.Touches command) done.session.store :=
  ⟨fun _ _ apart there => effect_cursors sound ok apart there,
    fun _ _ apart there => effect_walks ok (fun asks => apart (.inl asks)) there⟩

/-- Trimming at the front touches only what trimming both ends does. -/
theorem halted_spares (sound : session.Sound) (command : Command) :
    session.store.Spares (session.Touches command) (session.halted command).store := by
  rcases halted_cases session command with same | ⟨on, arguments, done, rfl, trimmed, same⟩
  · rw [same]
    exact .refl session.store
  · have trimmed : session.effect (.call on .trimFront arguments) = .ok done := trimmed
    have spares := effect_spares sound trimmed
    rw [same]
    refine ⟨spares.cursors, fun id walk _ there => ?_⟩
    exact effect_walks trimmed nofun there

/-- A command moves no cursor and no walk but those that it touches. -/
theorem act_spares (sound : session.Sound) (command : Command) (name : Option String) :
    session.store.Spares (session.Touches command) (session.act command name).1.store := by
  have ended (object : Object) (hit : ∃ id ∈ session.walksUsed command, object = .walk id) :
      session.Touches command object := by
    obtain ⟨id, member, rfl⟩ := hit
    exact .inr member
  cases effected : session.effect command with
  | error fault =>
    obtain ⟨moved, log, acted⟩ := act_error effected name
    have halted := (halted_lawful sound command).1
    have moves := finish_moves halted.store (session.walksUsed command)
    rw [acted]
    exact (halted_spares sound command).trans (moves.spares.mono ended)
  | ok done =>
    obtain ⟨moved, log, acted⟩ := act_ok effected name
    have lawful := effect_lawful sound effected
    have moves := finish_moves lawful.sound.store (session.walksUsed command)
    rw [acted, kept_store]
    exact (effect_spares sound effected).trans (moves.spares.mono ended)

end Spares

end TextScan.Session
