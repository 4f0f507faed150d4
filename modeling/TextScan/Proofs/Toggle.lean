import TextScan.Proofs.ErasedEffects

/-! The toggle: a run that comes to no negative count of units to drop or extract, appends nothing
and does not read what is configured is the same whether assertions are checked or not. Checking
them pins buffers and nothing else, and pins show only where a buffer is to grow. -/

namespace TextScan

namespace Stream

variable {whole : Stream} {operation : Operation}

theorem advanceTo_held (environment : Environment) {place : Nat}
    (held : whole.start ≤ place ∧ place ≤ whole.stop) :
    whole.advanceTo environment place = .ok (whole.cutAt place) := by
  simp [advanceTo, check, held, bind, Except.bind, pure, Except.pure]

theorem Valid.takeUpTo_unchecked (valid : whole.Valid) (environment : Environment)
    (count : Number) :
    whole.takeUpTo environment.unchecked count = whole.takeUpTo environment count := by
  have ordered := valid.start_le_stop
  unfold takeUpTo
  cases clamped : count.clamp whole.size with
  | decimal mantissa places => rfl
  | whole count =>
    have bounds := Number.clamp_bounds clamped
    have held : whole.start ≤ whole.start + count.toNat ∧
        whole.start + count.toNat ≤ whole.stop := by
      simp only [size] at bounds
      omega
    exact (advanceTo_held _ held).trans (advanceTo_held _ held).symm

theorem Valid.takeTo_unchecked (valid : whole.Valid) (environment : Environment)
    {stopping : Stopping} {target : Value} {stop : Option Nat}
    (found : whole.stop? stopping target = .ok stop) (orEmpty : Bool) :
    whole.takeTo environment.unchecked stop orEmpty =
      whole.takeTo environment stop orEmpty := by
  have ordered := valid.start_le_stop
  have agrees := valid.stop?_agrees stopping target
  rw [found] at agrees
  obtain ⟨said, -, rfl, inside⟩ := agrees.answered
  cases said with
  | none =>
    unfold takeTo
    dsimp only [Option.map_none]
    have held : whole.start ≤ whole.stop ∧ whole.stop ≤ whole.stop := ⟨ordered, Nat.le_refl _⟩
    rw [advanceTo_held environment held, advanceTo_held environment.unchecked held]
  | some offset =>
    have fits := inside offset rfl
    rw [valid.length_content, size] at fits
    have held : whole.start ≤ whole.start + offset ∧ whole.start + offset ≤ whole.stop := by
      omega
    exact (advanceTo_held _ held).trans (advanceTo_held _ held).symm

/-- Checking assertions changes nothing for an operation that fails none. -/
theorem Valid.perform_unchecked (valid : whole.Valid) (environment : Environment)
    (passing : operation.failing? = none) :
    whole.perform environment.unchecked operation = whole.perform environment operation := by
  have counted {count : Number} {check : Check}
      (passing : (if count.precedes (.whole 0) then some check else none) = none)
      (environment : Environment) (failure : Check) :
      checkCount environment count failure = .ok () := by
    have whole : count.precedes (.whole 0) = false := by simpa using passing
    rw [checkCount, whole]
    rfl
  cases operation with
  | drop count =>
    rw [perform, perform, counted passing, counted passing, valid.takeUpTo_unchecked]
  | extract count => rw [perform, perform, counted passing, counted passing]
  | take count => rw [perform, perform, valid.takeUpTo_unchecked]
  | takeTo stopping target =>
    rw [perform, perform]
    cases found : whole.stop? stopping target with
    | error fault => rfl
    | ok stop =>
      dsimp only [bind, Except.bind]
      rw [valid.takeTo_unchecked environment found]
  | dropTo stopping target =>
    rw [perform, perform]
    cases found : whole.stop? stopping target with
    | error fault => rfl
    | ok stop =>
      dsimp only [bind, Except.bind]
      rw [valid.takeTo_unchecked environment found]
  | _ => rfl

/-- Which walks are gone through is no matter of assertions. -/
theorem walksRead_unchecked (environment : Environment) (operation : Operation) :
    whole.walksRead environment.unchecked operation = whole.walksRead environment operation := by
  cases operation with
  | _ => rfl

end Stream

namespace Session

/-- A command that does not show whether assertions are checked: it comes to no negative count of
units to drop or extract, grows no buffer, and does not read what is configured. -/
structure Unasserting (session : Session) (command : Command) (name : Option String) : Prop where
  counted : ∀ check, ¬session.Fails command check
  fixed : ∀ on code, command ≠ .append on code
  unread : command ≠ .readConfig

variable {session : Session} {command : Command}

section Effects

theorem bare_call (sound : session.Sound) {on : String} {method : Method} {arguments : List Term}
    (counted : ∀ check, ¬session.Fails (.call on method arguments) check) :
    session.bare.call on method arguments =
      (session.call on method arguments).map Effect.bare := by
  unfold call
  rw [bare_lookup, bare_evalMany]
  refine bind_changed fun object held => bind_kept fun values read => ?_
  have other (object : Object) :
      (askWith (session.bare.valueOf object.bare) method values >>= fun answer =>
        pure (session.bare.answerOther object.bare method (values.headD .null) answer)) =
      (askWith (session.valueOf object) method values >>= fun answer =>
        pure (session.answerOther object method (values.headD .null) answer)).map Effect.bare := by
    rw [bare_valueOf]
    refine bind_kept fun answer _ => ?_
    exact congrArg Except.ok (session.bare_answerOther object method _ answer)
  cases object with
  | stream id =>
    dsimp only [Object.bare]
    rw [show session.bare.store = session.store.bare from rfl, Store.bare_getElem?]
    cases there : session.store.cursors[id]? with
    | none => rfl
    | some cursor =>
      refine bind_kept fun operation bound => ?_
      have found : session.streamOf? id = some (session.store.stream cursor) := by
        rw [streamOf?, there]
        rfl
      have passing : operation.failing? = none := by
        rw [Option.eq_none_iff_forall_ne_some]
        intro check failing
        exact counted check ⟨on, method, arguments, _, operation, rfl,
          ⟨⟨id, held, found⟩, values, read, bound⟩, failing⟩
      have performed := (sound.store.holds there).valid.perform_unchecked session.environment passing
      rw [bare_environment]
      refine (congrArg (· >>= _) performed).trans (bind_kept fun done _ => ?_)
      obtain ⟨outcome, rest⟩ := done
      have moved : bare { session with
            store := session.store.setCursor id (.ofStream cursor.buffer cursor.pinned rest) } =
          { session.bare with
            store := session.store.bare.setCursor id (.ofStream cursor.buffer false rest) } := by
        rw [bare, Store.bare_setCursor]
        rfl
      cases outcome with
      | itself =>
        exact congrArg (fun after => (.ok ⟨after, .itself, .stream id⟩ : Except Fault Effect))
          moved.symm
      | value value =>
        refine congrArg Except.ok (Eq.trans ?_ (bare_answerFrom _ cursor method arguments value))
        rw [moved]
        rfl
  | lines window separator forms => exact other (.lines window separator forms)
  | walk id => exact other (.walk id)
  | buffer id => exact other (.buffer id)
  | streams cursors => exact other (.streams cursors)
  | value value => exact other (.value value)
  | made value parts => exact other (.made value parts)

/-- Two effects that differ in nothing but pins and in whether assertions are checked. -/
structure Effect.Alike (command : Command) (first second : Effect) : Prop where
  bare : first.bare = second.bare
  events : first.session.events command = second.session.events command

/-- A command that configures nothing new does the same without pins. -/
theorem agree_of_map {first second : Except Fault Effect} (same : first = second.map Effect.bare)
    (quiet : ∀ session, events session command = []) :
    Agree Eq (Effect.Alike command) first second := by
  rw [same]
  cases second with
  | error fault => exact .fault rfl
  | ok done => exact .done ⟨done.bare_bare, (quiet _).trans (quiet _).symm⟩

theorem bare_configured (session : Session) (settings : Settings Object) :
    environment { session.bare with settings := settings.map Object.bare } =
      environment { session with settings } := by
  calc
    environment { session.bare with settings := settings.map Object.bare } =
        ⟨(settings.map Object.bare).map session.bare.valueOf, session.platform⟩ := rfl
    _ = ⟨settings.map session.valueOf, session.platform⟩ := by
      simp only [Settings.map, bare_valueOf]

theorem bareSettings_map (settings : Settings Object) :
    bareSettings (settings.map Object.bare) = bareSettings settings := by
  simp only [bareSettings, Settings.asserting, Settings.map, Object.bare_bare]

theorem bare_withSettings (session : Session) (settings : Settings Object) :
    bare { session.bare with settings := settings.map Object.bare } =
      bare { session with settings } := by
  calc
    bare { session.bare with settings := settings.map Object.bare } =
        { session.bare.bare with settings := bareSettings (settings.map Object.bare) } := rfl
    _ = { session.bare with settings := bareSettings settings } := by
      rw [bare_bare, bareSettings_map]

theorem environment_enter (session : Session) (scope : String) (settings : Settings Object) :
    (session.enter scope settings).environment = environment { session with settings } := by
  unfold enter leave
  split
  · rfl
  · rfl

theorem bare_effect (sound : session.Sound) {name : Option String}
    (law : Unasserting session command name) :
    Agree Eq (Effect.Alike command) (session.bare.effect command) (session.effect command) := by
  cases command with
  | create arguments => exact agree_of_map (session.bare_create arguments) fun _ => rfl
  | call on method arguments => exact agree_of_map (bare_call sound law.counted) fun _ => rfl
  | compare on relation swapped operand =>
    exact agree_of_map (session.bare_compare on relation swapped operand) fun _ => rfl
  | sameBuffer on other => exact agree_of_map (session.bare_sameBuffer on other) fun _ => rfl
  | same on other => exact agree_of_map (session.bare_same on other) fun _ => rfl
  | walk on => exact agree_of_map (session.bare_walk on) fun _ => rfl
  | next on => exact agree_of_map (session.bare_next on) fun _ => rfl
  | append on code => exact absurd rfl (law.fixed on code)
  | withFile on file =>
    refine agree_of_map ?_ fun _ => rfl
    unfold effect
    dsimp only
    rw [bare_lookup, bare_eval]
    refine bind_changed fun object _ => bind_kept fun value _ => ?_
    rw [bare_valueOf]
    split
    · rw [bare_made]
      rfl
    · rfl
  | properties on =>
    refine agree_of_map ?_ fun _ => rfl
    unfold effect
    dsimp only
    rw [bare_cursorIn]
    exact bind_changed fun found _ => rfl
  | setConfig fields =>
    unfold effect
    dsimp only
    rw [bare_settingsOf]
    cases session.settingsOf fields with
    | error fault => exact .fault rfl
    | ok settings =>
      refine .done ⟨congrArg (Effect.mk · _ _) (session.bare_withSettings settings), ?_⟩
      exact congrArg (fun environment : Environment => [Event.configSet environment.config])
        (session.bare_configured settings)
  | pushConfig scope fields =>
    unfold effect
    dsimp only
    rw [bare_settingsOf]
    cases session.settingsOf fields with
    | error fault => exact .fault rfl
    | ok settings =>
      have entered : (session.bare.enter scope (settings.map Object.bare)).bare =
          (session.enter scope settings).bare := by
        rw [bare_enter, bare_enter, bare_bare, bareSettings_map]
      refine .done ⟨congrArg (Effect.mk · _ _) entered, ?_⟩
      have configured := session.bare_configured settings
      rw [← environment_enter session.bare scope, ← environment_enter session scope] at configured
      exact congrArg (fun environment : Environment => [Event.configPushed environment.config])
        configured
  | resetConfig => exact agree_of_map rfl fun _ => rfl
  | readConfig => exact absurd rfl law.unread
  | popConfig scope =>
    refine agree_of_map ?_ fun _ => rfl
    have found : session.bare.scopes.lookup scope =
        (session.scopes.lookup scope).map (Option.map bareSettings) :=
      lookup_changed (Option.map bareSettings) scope session.scopes
    unfold effect
    dsimp only
    rw [found]
    cases session.scopes.lookup scope with
    | none => rfl
    | some saved =>
      simp only [Option.map_some]
      rw [← bare_leave]
      rfl
  | setPlatform platform => exact agree_of_map rfl fun _ => rfl

end Effects

section Acts

theorem bare_walksUsed (session : Session) (command : Command) :
    session.bare.walksUsed command = session.walksUsed command := by
  cases command with
  | call on method arguments =>
    have same : session.bare.walksCalled on method arguments =
        session.walksCalled on method arguments := by
      unfold walksCalled
      rw [bare_lookup, bare_evalMany, bare_environment]
      cases session.lookup on with
      | error fault => rfl
      | ok object =>
        cases object with
        | stream id =>
          dsimp only [Except.map, Object.bare, bind, Except.bind]
          rw [bare_streamOf?]
          simp only [Stream.walksRead_unchecked]
        | _ => rfl
    unfold walksUsed
    dsimp only
    rw [same]
  | compare on relation swapped operand =>
    unfold walksUsed
    dsimp only
    rw [bare_lookup, bare_eval]
    cases session.lookup on with
    | error fault => rfl
    | ok object =>
      cases session.eval operand with
      | error fault => rfl
      | ok value =>
        exact congrArg (Value.walksCompared · value) (session.bare_valueOf object)
  | _ => rfl

theorem bind_uncounted {method : Method} (drop : method ≠ .drop) (extract : method ≠ .extract)
    (values : List Value) (operation : Operation) :
    method.bind values = .ok operation → operation.failing? = none := by
  intro bound
  have own := bind_method method values operation bound
  cases operation with
  | drop count =>
    cases method with
    | drop => exact absurd rfl drop
    | _ => cases own
  | extract count =>
    cases method with
    | extract => exact absurd rfl extract
    | _ => cases own
  | _ => rfl

theorem uncounted (session : Session) (on : String) (method : Method) (arguments : List Term)
    (drop : method ≠ .drop) (extract : method ≠ .extract) (check : Check) :
    ¬session.Fails (.call on method arguments) check := by
  rintro ⟨on', method', arguments', stream, operation, same, ⟨-, values, -, bound⟩, failing⟩
  cases same
  cases (bind_uncounted drop extract values operation bound).symm.trans failing

theorem bare_halted (sound : session.Sound) (command : Command) :
    session.bare.halted command = (session.halted command).bare := by
  unfold halted
  split
  · rename_i on arguments
    rw [bare_call sound (session.uncounted on .trimFront arguments nofun nofun)]
    cases session.call on .trimFront arguments with
    | error fault => rfl
    | ok done => rfl
  · rfl

/-- Sessions that are alike without pins show the same streams and windows. -/
theorem streamOf?_alike {first second : Session} (same : first.bare = second.bare) (id : Nat) :
    first.streamOf? id = second.streamOf? id := by
  rw [← bare_streamOf?, same, bare_streamOf?]

theorem window?_alike {first second : Session} (same : first.bare = second.bare)
    (asked : Option Object) :
    first.window? (asked.map Object.bare) = second.window? asked := by
  cases asked with
  | none => rfl
  | some object =>
    cases object with
    | stream id =>
      change (first.streamOf? id).map _ = (second.streamOf? id).map _
      rw [streamOf?_alike same]
    | _ => rfl

/-- What is configured is no matter of the walks that end and of what is kept. -/
theorem events_kept (session : Session) (other : Session) (command : Command)
    (name : Option String) (object : Object) :
    ((session.finish (other.walksUsed command)).kept? name object).events command =
      session.events command := by
  cases command with
  | setConfig fields =>
    cases name with
    | none => rfl
    | some name => rfl
  | pushConfig scope fields =>
    cases name with
    | none => rfl
    | some name => rfl
  | _ => rfl

/-- A command answers the same without pins and unchecked, and leaves the same but for those. -/
theorem bare_act (sound : session.Sound) (name : Option String)
    (law : Unasserting session command name) :
    (session.bare.act command name).2 = (session.act command name).2 ∧
      (session.bare.act command name).1.bare = (session.act command name).1.bare := by
  have asked : session.bare.receiving? command =
      (session.receiving? command).map Object.bare := by
    unfold receiving?
    cases receiver? command with
    | none => rfl
    | some on => exact session.bare_find on
  rcases (bare_effect sound law).either with ⟨fault, _, without, effected, rfl⟩ |
    ⟨other, done, without, effected, alike⟩
  · have halted := bare_halted sound command
    rw [act_fault without, act_fault effected, bare_walksUsed, asked, halted]
    refine ⟨?_, ?_⟩
    · rw [window?_alike (bare_bare _)]
    · rw [← bare_finish, bare_bare]
  · have result : other.result = done.result := congrArg (fun done => done.result) alike.bare
    have kept : other.kept.bare = done.kept.bare := congrArg (fun done => done.kept) alike.bare
    have left : other.session.bare = done.session.bare :=
      congrArg (fun done => done.session) alike.bare
    have after : ((other.session.finish (session.walksUsed command)).kept? name other.kept).bare =
        ((done.session.finish (session.walksUsed command)).kept? name done.kept).bare := by
      rw [bare_keep, bare_keep, bare_finish, bare_finish, left, kept]
    rw [act_done without, act_done effected, bare_walksUsed, asked]
    refine ⟨?_, after⟩
    dsimp only
    rw [window?_alike after, events_kept, events_kept, result, alike.events]

end Acts

section Runs

variable {first second : Session}

theorem comes_alike (same : first.bare = second.bare) {on : String} {method : Method}
    {arguments : List Term} {stream : Stream} {operation : Operation}
    (comes : second.Comes on method arguments stream operation) :
    first.Comes on method arguments stream operation := by
  obtain ⟨⟨id, held, found⟩, values, read, bound⟩ := comes
  refine ⟨⟨id, ?_, ?_⟩, values, ?_, bound⟩
  · have found := first.bare_lookup on
    rw [same, bare_lookup, held] at found
    cases looked : first.lookup on with
    | error fault =>
      rw [looked] at found
      cases found
    | ok object =>
      rw [looked] at found
      cases object with
      | stream other =>
        cases found
        rfl
      | _ => cases found
  · rw [streamOf?_alike same, found]
  · rw [← bare_evalMany, same, bare_evalMany, read]

theorem Unasserting.alike {name : Option String} (law : Unasserting first command name)
    (same : first.bare = second.bare) : Unasserting second command name := by
  refine ⟨?_, law.fixed, law.unread⟩
  rintro check ⟨on, method, arguments, stream, operation, rfl, comes, failing⟩
  exact law.counted check ⟨on, method, arguments, stream, operation, rfl, comes_alike same comes,
    failing⟩

theorem act_alike (sound : first.Sound) (sound' : second.Sound) (same : first.bare = second.bare)
    {name : Option String} (law : Unasserting first command name) :
    (first.act command name).2 = (second.act command name).2 ∧
      (first.act command name).1.bare = (second.act command name).1.bare := by
  obtain ⟨answer, left⟩ := bare_act sound name law
  obtain ⟨answer', left'⟩ := bare_act sound' name (law.alike same)
  rw [← answer, ← answer', ← left, ← left', same]
  exact ⟨rfl, rfl⟩

theorem bare_forked (session : Session) (fresh : Bool) :
    (session.forked fresh).bare = session.bare.forked fresh := by
  cases fresh with
  | true => rfl
  | false => rfl

theorem bare_joined (session after : Session) :
    (session.joined after).bare = session.bare.joined after.bare := rfl

mutual

/-- Sessions that are alike without pins and unchecked stay so, and answer the same. -/
theorem step_alike {first second : Session} (sound : first.Sound) (sound' : second.Sound)
    (same : first.bare = second.bare) {step : Step} (law : Along Unasserting first step) :
    (first.step step).2 = (second.step step).2 ∧
      (first.step step).1.bare = (second.step step).1.bare := by
  cases step with
  | act command name =>
    rw [Along] at law
    rw [step_act, step_act]
    exact act_alike sound sound' same law
  | fork fresh steps =>
    rw [Along] at law
    have inside : (first.forked fresh).bare = (second.forked fresh).bare := by
      rw [bare_forked, bare_forked, same]
    obtain ⟨answers, left⟩ := run_alike (sound.forked fresh) (sound'.forked fresh) inside law
    refine ⟨?_, ?_⟩
    · rw [Session.step, Session.step]
      exact congrArg Answer.fork answers
    · rw [step_fork, step_fork, bare_joined, bare_joined, same, left]

theorem run_alike {first second : Session} (sound : first.Sound) (sound' : second.Sound)
    (same : first.bare = second.bare) {steps : List Step}
    (law : AlongAll Unasserting first steps) :
    (first.run steps).2 = (second.run steps).2 ∧
      (first.run steps).1.bare = (second.run steps).1.bare := by
  cases steps with
  | nil =>
    rw [Session.run, Session.run]
    exact ⟨rfl, same⟩
  | cons step rest =>
    rw [AlongAll] at law
    obtain ⟨answer, next⟩ := step_alike sound sound' same law.1
    obtain ⟨answers, last⟩ := run_alike (step_lawful sound step).2.1 (step_lawful sound' step).2.1
      next law.2
    refine ⟨?_, ?_⟩
    · rw [Session.run, Session.run]
      exact congrArg₂ List.cons answer answers
    · rw [run_cons, run_cons, last]

end

/-- The session with a value that tells whether assertions are checked. -/
def asserting (session : Session) (value : Value) : Session :=
  { session with settings := session.settings.asserting (.value value) }

theorem Sound.asserting {session : Session} (sound : session.Sound) (value : Value) :
    (session.asserting value).Sound := by
  apply sound.withSettings
  intro object member
  rcases List.mem_cons.mp member with rfl | rest
  · trivial
  · exact sound.settings object (.tail _ rest)

end Runs

/-- Assertions fail by negative counts of units to drop or extract, while they are checked, and by
nothing else. A run without such counts, in which no buffer grows, is the same whether they are
checked or not, and ends with the same streams. -/
theorem run_asserts :
    (∀ platform steps, AlongAll Asserts (start platform) steps) ∧
      ∀ (session : Session) (on off : Value) (steps : List Step), session.Sound →
        AlongAll Unasserting (session.asserting on) steps →
        let checked := (session.asserting on).run steps
        let unchecked := (session.asserting off).run steps
        checked.2 = unchecked.2 ∧ checked.1.eval = unchecked.1.eval ∧
          checked.1.streamOf? = unchecked.1.streamOf? := by
  refine ⟨fun platform => ?_, ?_⟩
  · exact alongAll_of_sound (fun _ command name sound => act_asserts sound command name)
      (start_sound platform)
  · intro session on off steps sound law
    obtain ⟨answers, same⟩ := run_alike (sound.asserting on) (sound.asserting off) rfl law
    refine ⟨answers, funext fun term => ?_, funext fun id => streamOf?_alike same id⟩
    rw [← bare_eval, same, bare_eval]

/-- A stream over bytes that may grow, which is read, cut and trimmed. -/
def bytesCut : List Step :=
  [.act (.create [.value (.byteArray [97, 44, 98, 32])]) (some "s"),
    .act (.call "s" (.takeTo ⟨false, false, false⟩) [.value (.bytes [44])]) (some "t"),
    .act (.call "s" .drop [.value (.int 1)]) none,
    .act (.call "s" .trim []) none,
    .act (.call "s" .extract [.value (.int 1)]) none]

/-- The two runs answer the same, though the buffer is pinned in just one of them. -/
theorem bytesCut_asserts :
    let checked := (start "linux").asserting (.bool true)
    let unchecked := (start "linux").asserting (.bool false)
    (start "linux").Sound ∧ AlongAll Unasserting checked bytesCut ∧
      (checked.run bytesCut).2 = (unchecked.run bytesCut).2 ∧
      (checked.run bytesCut).1.store.cursors ≠ (unchecked.run bytesCut).1.store.cursors := by
  have law : AlongAll Unasserting ((start "linux").asserting (.bool true)) bytesCut := by
    have counted (session : Session) (method : Method) (check : Check) :
        ¬session.Fails (.call "s" method [.value (.int 1)]) check := by
      rintro ⟨on, method, arguments, stream, operation, same, ⟨-, values, read, bound⟩, failing⟩
      cases same
      cases read
      by_cases drop : method = .drop
      · subst drop
        cases bound
        cases failing
      · by_cases extract : method = .extract
        · subst extract
          cases bound
          cases failing
        · cases (bind_uncounted drop extract _ operation bound).symm.trans failing
    have created (session : Session) (arguments : List Term) (check : Check) :
        ¬session.Fails (.create arguments) check := by
      rintro ⟨on, method, given, stream, operation, same, -⟩
      cases same
    simp only [bytesCut, AlongAll, Along]
    refine ⟨⟨created _ _, nofun, nofun⟩, ⟨?_, nofun, nofun⟩, ⟨counted _ _, nofun, nofun⟩,
      ⟨?_, nofun, nofun⟩, ⟨counted _ _, nofun, nofun⟩, trivial⟩
    · exact uncounted _ _ _ _ nofun nofun
    · exact uncounted _ _ _ _ nofun nofun
  have same := run_asserts.2 _ _ (.bool false) _ (start_sound "linux") law
  exact ⟨start_sound "linux", law, same.1, by decide +kernel⟩

end Session

end TextScan
