import TextScan.Proofs.Assertions
import TextScan.Proofs.Frame
import TextScan.Proofs.TransportedCalls

namespace TextScan.Session

def Command.scope? : Command → Option String
  | .pushConfig scope _ => some scope
  | .popConfig scope => some scope
  | _ => none

/-- Two sessions in which the same is configured, and will be again. -/
structure SameConfiguration (before after : Session) : Prop where
  settings : after.settings = before.settings
  scopes : after.scopes = before.scopes
  outer : after.outer = before.outer
  platform : after.platform = before.platform

/-- Two sessions in which the same is configured now, and was when some scopes were entered. -/
structure SameWithin (named : Set String) (here there : Session) : Prop where
  settings : there.settings = here.settings
  scopes : ∀ scope ∈ named, there.scopes.lookup scope = here.scopes.lookup scope

mutual

/-- The commands of a step, those in forks as well. -/
def commandsIn : Step → List Command
  | .act command _ => [command]
  | .fork _ steps => commands steps

def commands : List Step → List Command
  | [] => []
  | first :: rest => commandsIn first ++ commands rest

end

mutual

/-- The commands of a step in the order in which they are performed, those in forks as well, each
with the session that it is performed in. -/
def trailIn (session : Session) : Step → List (Session × Command × Option String)
  | .act command name => [(session, command, name)]
  | .fork fresh steps => trail (session.forked fresh) steps

def trail (session : Session) : List Step → List (Session × Command × Option String)
  | [] => []
  | first :: rest => trailIn session first ++ trail (session.step first).1 rest

end

/-- Commands that come one after the other, as far as scopes are concerned: each is performed with
the scopes that the one before it left. -/
inductive Chain : List (String × Option (Settings Object)) →
    List (Session × Command × Option String) → List (String × Option (Settings Object)) → Prop
  | nil {scopes : List (String × Option (Settings Object))} : Chain scopes [] scopes
  | cons {session : Session} {command : Command} {name : Option String}
      {entries : List (Session × Command × Option String)}
      {last : List (String × Option (Settings Object))}
      (later : Chain (session.act command name).1.scopes entries last) :
    Chain session.scopes ((session, command, name) :: entries) last

variable {session here there : Session} {command : Command} {scope : String} {named : Set String}

section Commands

theorem kept_configuration (session : Session) (name : Option String) (object : Object) :
    SameConfiguration session (session.kept? name object) := by
  cases name with
  | none => exact ⟨rfl, rfl, rfl, rfl⟩
  | some name => exact ⟨rfl, rfl, rfl, rfl⟩

theorem inStore_configuration {done : Effect} (inStore : done.InStore session) :
    SameConfiguration session done.session := by
  obtain ⟨store, same⟩ := inStore
  rw [same]
  exact ⟨rfl, rfl, rfl, rfl⟩

theorem SameConfiguration.trans {first second third : Session}
    (same : SameConfiguration first second) (same' : SameConfiguration second third) :
    SameConfiguration first third :=
  ⟨same'.settings.trans same.settings, same'.scopes.trans same.scopes,
    same'.outer.trans same.outer, same'.platform.trans same.platform⟩

theorem halted_configuration (session : Session) (command : Command) :
    SameConfiguration session (session.halted command) := by
  rcases halted_cases session command with same | ⟨on, arguments, done, -, trimmed, same⟩
  · rw [same]
    exact ⟨rfl, rfl, rfl, rfl⟩
  · rw [same]
    exact inStore_configuration (call_framed trimmed).inStore

theorem act_faulted {fault : Fault} (faulted : session.effect command = .error fault)
    (name : Option String) : SameConfiguration session (session.act command name).1 := by
  rw [act_fault faulted]
  have same := halted_configuration session command
  exact ⟨same.settings, same.scopes, same.outer, same.platform⟩

theorem act_succeeded {done : Effect} (ok : session.effect command = .ok done)
    (name : Option String) : SameConfiguration done.session (session.act command name).1 := by
  rw [act_done ok]
  have same := kept_configuration (done.session.finish (session.walksUsed command)) name done.kept
  exact ⟨same.settings, same.scopes, same.outer, same.platform⟩

theorem act_configuration (fixed : command.configures = false) (name : Option String) :
    SameConfiguration session (session.act command name).1 := by
  cases effected : session.effect command with
  | error fault => exact act_faulted effected name
  | ok done =>
    exact (inStore_configuration (effect_inStore effected fixed)).trans
      (act_succeeded effected name)

theorem leave_other {other : String} (apart : other ≠ scope) :
    (session.leave scope).scopes.lookup other = session.scopes.lookup other := by
  unfold leave
  split
  · rw [lookup_replaced, if_neg apart]
  · rfl

theorem leave_saved {settings : Settings Object}
    (saved : session.scopes.lookup scope = some (some settings)) :
    (session.leave scope).settings = settings := by
  unfold leave
  rw [saved]

theorem leave_closed (closed : ∀ settings, session.scopes.lookup scope ≠ some (some settings)) :
    session.leave scope = session := by
  unfold leave
  split
  · rename_i settings saved
    exact absurd saved (closed settings)
  · rfl

theorem enter_saved (settings : Settings Object) :
    (session.enter scope settings).scopes.lookup scope =
      some (some (session.leave scope).settings) := by
  unfold enter
  rw [lookup_replaced, if_pos rfl]

theorem enter_other {other : String} (apart : other ≠ scope) (settings : Settings Object) :
    (session.enter scope settings).scopes.lookup other = session.scopes.lookup other := by
  unfold enter
  rw [lookup_replaced, if_neg apart]
  exact leave_other apart

/-- A scope is entered and left only by the commands that name it. -/
theorem act_scope (apart : command.scope? ≠ some scope) (name : Option String) :
    (session.act command name).1.scopes.lookup scope = session.scopes.lookup scope := by
  cases effected : session.effect command with
  | error fault => rw [(act_faulted effected name).scopes]
  | ok done =>
    rw [(act_succeeded effected name).scopes]
    cases command with
    | pushConfig entered fields =>
      obtain ⟨settings, -, ok⟩ := bind_eq_ok.mp effected
      cases ok
      exact enter_other (fun same => apart (congrArg some same.symm)) settings
    | popConfig left =>
      unfold effect at effected
      dsimp only at effected
      split at effected
      · cases effected
        exact leave_other fun same => apart (congrArg some same.symm)
      · cases effected
    | setConfig fields =>
      obtain ⟨settings, -, ok⟩ := bind_eq_ok.mp effected
      cases ok
      rfl
    | resetConfig =>
      cases effected
      rfl
    | setPlatform platform =>
      cases effected
      rfl
    | _ => rw [(inStore_configuration (effect_inStore effected rfl)).scopes]

theorem act_entered {fields : List (String × Term)} {done : Effect}
    (ok : session.effect (.pushConfig scope fields) = .ok done) (name : Option String) :
    (session.act (.pushConfig scope fields) name).1.scopes.lookup scope =
      some (some (session.leave scope).settings) := by
  rw [(act_succeeded ok name).scopes]
  obtain ⟨settings, -, ok⟩ := bind_eq_ok.mp ok
  cases ok
  exact enter_saved settings

theorem act_left {settings : Settings Object}
    (saved : session.scopes.lookup scope = some (some settings)) (name : Option String) :
    (session.act (.popConfig scope) name).1.settings = settings := by
  have effected : session.effect (.popConfig scope) =
      .ok ((session.leave scope).answer (.bool false)) := by
    unfold effect
    dsimp only
    rw [saved]
  rw [(act_succeeded effected name).settings]
  exact leave_saved saved

end Commands

section Twins

/-- A term that names no register comes to the same in any session. -/
theorem hold_unnamed {term : Term} (unnamed : term.names = []) (here there : Session) :
    there.hold term = here.hold term := by
  have read : there.eval term = (here.eval term).map (Value.rename id) := by
    refine eval_rename Function.injective_id term (fun name member => ?_)
      fun value _ => value.rename_id
    rw [unnamed] at member
    cases member
  have evaluated : there.eval term = here.eval term := by
    rw [read, funext (g := id) Value.rename_id]
    cases here.eval term with
    | error fault => rfl
    | ok value => rfl
  have written (session : Session) : session.hold term =
      (session.eval term).map fun value => .ofValue value [] := by
    have parts (value : Value) : session.made value [term] = .ofValue value [] := by
      rw [made, namesAmong, unnamed]
      rfl
    rw [← funext parts]
    cases term with
    | register name => cases unnamed
    | _ => rfl
  rw [written, written, evaluated]

theorem settingsOf_unnamed {fields : List (String × Term)}
    (unnamed : namesAmong (fields.map Prod.snd) = []) (here there : Session) :
    there.settingsOf fields = here.settingsOf fields := by
  refine congrArg (· >>= fun given => pure (defaultSettings.ofFields given)) ?_
  induction fields with
  | nil => rfl
  | cons field rest same =>
    obtain ⟨first, others⟩ := List.append_eq_nil_iff.mp unnamed
    rw [List.mapM_cons, List.mapM_cons, same others, hold_unnamed first here there]

namespace SameWithin

theorem leave_settings (alike : SameWithin named here there) (member : scope ∈ named) :
    (there.leave scope).settings = (here.leave scope).settings := by
  unfold Session.leave
  rw [alike.scopes scope member]
  split
  · rfl
  · exact alike.settings

/-- A scope that is entered keeps the same, and leaves the others as they are. -/
theorem enter (alike : SameWithin named here there) (settings : Settings Object) :
    SameWithin named (here.enter scope settings) (there.enter scope settings) := by
  refine ⟨rfl, fun other member => ?_⟩
  by_cases same : other = scope
  · subst same
    rw [enter_saved, enter_saved, alike.leave_settings member]
  · rw [enter_other same, enter_other same, alike.scopes other member]

theorem leave (alike : SameWithin named here there) (member : scope ∈ named) :
    SameWithin named (here.leave scope) (there.leave scope) := by
  refine ⟨alike.leave_settings member, fun other among => ?_⟩
  by_cases same : other = scope
  · subst same
    unfold Session.leave
    rw [alike.scopes other member]
    split
    · rw [lookup_replaced, lookup_replaced, if_pos rfl, if_pos rfl]
    · exact alike.scopes other member
  · rw [leave_other same, leave_other same, alike.scopes other among]

theorem kept {here' there' : Session} (alike : SameWithin named here there)
    (same : SameConfiguration here here') (same' : SameConfiguration there there') :
    SameWithin named here' there' := by
  refine ⟨?_, fun scope member => ?_⟩
  · rw [same.settings, same'.settings, alike.settings]
  · rw [same.scopes, same'.scopes, alike.scopes scope member]

/-- A command that takes nothing from registers configures the same in both. -/
theorem effect (alike : SameWithin named here there) (configures : command.configures = true)
    (unnamed : namesAmong command.terms = [])
    (among : ∀ scope, command.scope? = some scope → scope ∈ named) :
    Agree Eq (fun done done' => SameWithin named done.session done'.session)
      (here.effect command) (there.effect command) := by
  cases command with
  | setConfig fields =>
    rw [Session.effect, Session.effect, settingsOf_unnamed unnamed here there]
    exact .after (fun _ => rfl) fun settings => .done ⟨rfl, alike.scopes⟩
  | resetConfig => exact .done ⟨rfl, alike.scopes⟩
  | pushConfig entered fields =>
    rw [Session.effect, Session.effect, settingsOf_unnamed unnamed here there]
    exact .after (fun _ => rfl) fun settings => .done (alike.enter settings)
  | popConfig left =>
    have member := among left rfl
    rw [Session.effect, Session.effect, alike.scopes left member]
    cases here.scopes.lookup left with
    | none => exact .fault rfl
    | some saved => exact .done (alike.leave member)
  | setPlatform platform => exact .done ⟨alike.settings, alike.scopes⟩
  | _ => cases configures

theorem act (alike : SameWithin named here there)
    (unnamed : command.configures = true → namesAmong command.terms = [])
    (among : ∀ scope, command.scope? = some scope → scope ∈ named) (name : Option String) :
    SameWithin named (here.act command name).1 (there.act command name).1 := by
  by_cases configures : command.configures = true
  · rcases (alike.effect configures (unnamed configures) among).either with
      ⟨fault, fault', effected, effected', -⟩ | ⟨done, done', effected, effected', alike⟩
    · exact alike.kept (act_faulted effected name) (act_faulted effected' name)
    · exact alike.kept (act_succeeded effected name) (act_succeeded effected' name)
  · have fixed : command.configures = false := by simpa using configures
    exact alike.kept (act_configuration fixed name) (act_configuration fixed name)

end SameWithin

end Twins

section Trails

variable {before after : List (String × Option (Settings Object))}
  {entries later : List (Session × Command × Option String)}

theorem Chain.append {between : List (String × Option (Settings Object))}
    (chain : Chain before entries between) (rest : Chain between later after) :
    Chain before (entries ++ later) after := by
  induction chain with
  | nil => exact rest
  | cons chain ih => exact .cons (ih rest)

theorem Chain.behind {name : Option String} (chain : Chain before
    (entries ++ (session, command, name) :: later) after) :
    Chain (session.act command name).1.scopes later after := by
  induction entries generalizing before with
  | nil =>
    cases chain with
    | cons rest => exact rest
  | cons entry entries ih =>
    cases chain with
    | cons rest => exact ih rest

theorem Chain.kept (chain : Chain before entries after)
    (apart : ∀ entry ∈ entries, entry.2.1.scope? ≠ some scope) :
    after.lookup scope = before.lookup scope := by
  induction chain with
  | nil => rfl
  | cons rest ih =>
    obtain ⟨first, others⟩ := List.forall_mem_cons.mp apart
    rw [ih others, act_scope first]

theorem Chain.upTo {name : Option String} (chain : Chain before
    (entries ++ (session, command, name) :: later) after) :
    Chain before entries session.scopes := by
  induction entries generalizing before with
  | nil =>
    cases chain with
    | cons rest => exact .nil
  | cons entry entries ih =>
    cases chain with
    | cons rest => exact .cons (ih rest)

mutual

theorem step_chain (session : Session) (step : Step) :
    Chain session.scopes (trailIn session step) (session.step step).1.scopes := by
  cases step with
  | act command name =>
    rw [trailIn, step_act]
    exact .cons .nil
  | fork fresh steps =>
    rw [trailIn, step_fork]
    exact run_chain (session.forked fresh) steps

/-- The commands of a run are a chain, from fork to fork as well. -/
theorem run_chain (session : Session) (steps : List Step) :
    Chain session.scopes (trail session steps) (session.run steps).1.scopes := by
  cases steps with
  | nil =>
    rw [trail, run]
    exact .nil
  | cons first rest =>
    rw [trail, run_cons]
    exact (step_chain session first).append (run_chain (session.step first).1 rest)

end

mutual

theorem trailIn_commands (session : Session) (step : Step) :
    (trailIn session step).map (fun entry => entry.2.1) = commandsIn step := by
  cases step with
  | act command name =>
    rw [trailIn, commandsIn]
    rfl
  | fork fresh steps =>
    rw [trailIn, commandsIn]
    exact trail_commands (session.forked fresh) steps

theorem trail_commands (session : Session) (steps : List Step) :
    (trail session steps).map (fun entry => entry.2.1) = commands steps := by
  cases steps with
  | nil =>
    rw [trail, commands]
    rfl
  | cons first rest =>
    rw [trail, commands, List.map_append, trailIn_commands session first,
      trail_commands (session.step first).1 rest]

end

theorem mem_trail {steps : List Step} {entry : Session × Command × Option String}
    (member : entry ∈ trail session steps) : entry.2.1 ∈ commands steps := by
  rw [← trail_commands session steps]
  exact List.mem_map_of_mem member

theorem run_scope {steps : List Step}
    (apart : ∀ command ∈ commands steps, command.scope? ≠ some scope) :
    (session.run steps).1.scopes.lookup scope = session.scopes.lookup scope :=
  (run_chain session steps).kept fun _ member => apart _ (mem_trail member)

theorem run_append (session : Session) (first rest : List Step) :
    (session.run (first ++ rest)).1 = ((session.run first).1.run rest).1 := by
  induction first generalizing session with
  | nil =>
    rw [List.nil_append]
    exact congrArg (fun ran => (ran.1.run rest).1) (show _ = session.run [] by rw [run]).symm
  | cons step steps later => rw [List.cons_append, run_cons, run_cons, later]

theorem trail_append (session : Session) (first rest : List Step) :
    trail session (first ++ rest) = trail session first ++ trail (session.run first).1 rest := by
  induction first generalizing session with
  | nil => rw [List.nil_append, trail, run, List.nil_append]
  | cons step steps later => rw [List.cons_append, trail, trail, later, run_cons, List.append_assoc]

theorem trail_scope (session : Session) (scope : String) (fields : List (String × Term))
    (name name' : Option String) (body : List Step) :
    trail session (.act (.pushConfig scope fields) name ::
        (body ++ [.act (.popConfig scope) name'])) =
      (session, .pushConfig scope fields, name) ::
        (trail (session.act (.pushConfig scope fields) name).1 body ++
          [(((session.act (.pushConfig scope fields) name).1.run body).1,
            .popConfig scope, name')]) := by
  rw [trail, trailIn, step_act, trail_append, trail, trailIn, trail]
  rfl

/-- A scope that is left brings back what was configured when it was entered, whatever was done in
between, in whatever fork it was entered and left. -/
theorem left_restored {steps : List Step} {entered left : Session}
    (earlier between later : List (Session × Command × Option String))
    {fields : List (String × Term)} {name name' : Option String} {done : Effect}
    (passed : trail session steps = earlier ++ (entered, .pushConfig scope fields, name) ::
      (between ++ (left, .popConfig scope, name') :: later))
    (ok : entered.effect (.pushConfig scope fields) = .ok done)
    (apart : ∀ entry ∈ between, entry.2.1.scope? ≠ some scope) :
    (left.act (.popConfig scope) name').1.settings = (entered.leave scope).settings := by
  have chain := run_chain session steps
  rw [passed] at chain
  have saved := (chain.behind.upTo).kept apart
  rw [act_entered ok name] at saved
  exact act_left saved name'

/-- What is done within a scope, from its entry until it is left, is undone by then. -/
theorem body_restored {fields : List (String × Term)} {body : List Step}
    {name name' : Option String} {done : Effect}
    (ok : session.effect (.pushConfig scope fields) = .ok done)
    (apart : ∀ command ∈ commands body, command.scope? ≠ some scope) :
    (session.run (.act (.pushConfig scope fields) name ::
      (body ++ [.act (.popConfig scope) name']))).1.settings = (session.leave scope).settings := by
  rw [run_cons, step_act, run_append, run_cons, step_act, run]
  exact left_restored [] _ [] (trail_scope session scope fields name name' body) ok
    fun _ member => apart _ (mem_trail member)

/-- A fork starts with what is configured, or with nothing configured, and what is configured is
the same behind it. Of the scopes it changes those that are named in it. -/
theorem fork_configured (session : Session) (fresh : Bool) (steps : List Step) :
    (session.forked fresh).environment.config =
        (if fresh then Config.default else session.environment.config) ∧
      (session.step (.fork fresh steps)).1.settings = session.settings ∧
      (session.step (.fork fresh steps)).1.outer = session.outer ∧
      ∀ scope, (∀ command ∈ commands steps, command.scope? ≠ some scope) →
        (session.step (.fork fresh steps)).1.scopes.lookup scope = session.scopes.lookup scope := by
  rw [step_fork]
  refine ⟨?_, rfl, rfl, ?_⟩
  · cases fresh with
    | true => rfl
    | false => rfl
  · intro scope apart
    exact run_scope apart

mutual

theorem step_sameWithin {here there : Session} (alike : SameWithin named here there) (step : Step)
    (unnamed : ∀ command ∈ commandsIn step, command.configures = true →
      namesAmong command.terms = [])
    (among : ∀ command ∈ commandsIn step, ∀ scope, command.scope? = some scope → scope ∈ named) :
    SameWithin named (here.step step).1 (there.step step).1 := by
  cases step with
  | act command name =>
    rw [commandsIn, List.forall_mem_singleton] at unnamed among
    rw [step_act, step_act]
    exact alike.act unnamed among name
  | fork fresh steps =>
    rw [commandsIn] at unnamed among
    rw [step_fork, step_fork]
    have within : SameWithin named (here.forked fresh) (there.forked fresh) := by
      refine ⟨?_, alike.scopes⟩
      unfold forked
      dsimp only
      rw [alike.settings]
    have ran := run_sameWithin within steps unnamed among
    exact ⟨alike.settings, ran.scopes⟩

theorem run_sameWithin {here there : Session} (alike : SameWithin named here there)
    (steps : List Step)
    (unnamed : ∀ command ∈ commands steps, command.configures = true →
      namesAmong command.terms = [])
    (among : ∀ command ∈ commands steps, ∀ scope, command.scope? = some scope → scope ∈ named) :
    SameWithin named (here.run steps).1 (there.run steps).1 := by
  cases steps with
  | nil =>
    rw [run, run]
    exact alike
  | cons first rest =>
    rw [commands, List.forall_mem_append] at unnamed among
    rw [run_cons, run_cons]
    exact run_sameWithin (step_sameWithin alike first unnamed.1 among.1) rest unnamed.2 among.2

end

/-- Behind a fork whose scopes are not used outside, the same is configured at every point as if it
had not been. -/
theorem fork_unseen {fresh : Bool} {inner later : List Step}
    (unnamed : ∀ command ∈ commands later, command.configures = true →
      namesAmong command.terms = [])
    (apart : ∀ command ∈ commands later, ∀ scope, command.scope? = some scope →
      ∀ other ∈ commands inner, other.scope? ≠ some scope) :
    ((session.step (.fork fresh inner)).1.run later).1.settings =
      (session.run later).1.settings := by
  obtain ⟨-, settings, -, scopes⟩ := fork_configured session fresh inner
  have alike : SameWithin {scope | ∃ command ∈ commands later, command.scope? = some scope}
      session (session.step (.fork fresh inner)).1 := by
    refine ⟨settings, fun scope member => ?_⟩
    obtain ⟨command, within, names⟩ := member
    exact scopes scope (apart command within scope names)
  exact (run_sameWithin alike later unnamed fun command within scope names =>
    ⟨command, within, names⟩).settings

/-- What is configured when. Operations configure nothing; a scope that is left brings back just
what was configured when it was entered, in whatever order scopes are left; so what is done within
one is undone when it is left; a fork starts from what is configured or from the default, and
leaves what is configured outside as it is; and what is configured behind a fork is what would be
without it, as long as no scope is entered on one side and left on the other. -/
theorem configuration_scoped :
    (∀ (session : Session) (command : Command) (name : Option String),
      command.configures = false → SameConfiguration session (session.act command name).1) ∧
    (∀ (session entered left : Session) (steps : List Step) (scope : String)
      (earlier between later : List (Session × Command × Option String))
      (fields : List (String × Term)) (name name' : Option String) (done : Effect),
      trail session steps = earlier ++ (entered, .pushConfig scope fields, name) ::
        (between ++ (left, .popConfig scope, name') :: later) →
      entered.effect (.pushConfig scope fields) = .ok done →
      (∀ entry ∈ between, entry.2.1.scope? ≠ some scope) →
      (left.act (.popConfig scope) name').1.settings = (entered.leave scope).settings ∧
        ((∀ settings, entered.scopes.lookup scope ≠ some (some settings)) →
          (left.act (.popConfig scope) name').1.settings = entered.settings)) ∧
    (∀ (session : Session) (scope : String) (fields : List (String × Term)) (body : List Step)
      (name name' : Option String) (done : Effect),
      session.effect (.pushConfig scope fields) = .ok done →
      (∀ settings, session.scopes.lookup scope ≠ some (some settings)) →
      (∀ command ∈ commands body, command.scope? ≠ some scope) →
      (session.run (.act (.pushConfig scope fields) name ::
        (body ++ [.act (.popConfig scope) name']))).1.settings = session.settings) ∧
    (∀ (session : Session) (fresh : Bool) (steps : List Step),
      (session.forked fresh).environment.config =
          (if fresh then Config.default else session.environment.config) ∧
        (session.step (.fork fresh steps)).1.settings = session.settings ∧
        (session.step (.fork fresh steps)).1.outer = session.outer ∧
        ∀ scope, (∀ command ∈ commands steps, command.scope? ≠ some scope) →
          (session.step (.fork fresh steps)).1.scopes.lookup scope =
            session.scopes.lookup scope) ∧
    ∀ (session : Session) (fresh : Bool) (inner later : List Step),
      (∀ command ∈ commands later, command.configures = true → namesAmong command.terms = []) →
      (∀ command ∈ commands later, ∀ scope, command.scope? = some scope →
        ∀ other ∈ commands inner, other.scope? ≠ some scope) →
      ((session.step (.fork fresh inner)).1.run later).1.settings =
        (session.run later).1.settings := by
  refine ⟨?_, ?_, ?_, fork_configured, ?_⟩
  · intro session command name fixed
    exact act_configuration fixed name
  · intro session entered left steps scope earlier between later fields name name' done passed ok
      apart
    have restored := left_restored earlier between later passed ok apart
    refine ⟨restored, fun closed => ?_⟩
    rw [restored, leave_closed closed]
  · intro session scope fields body name name' done ok closed apart
    rw [body_restored ok apart, leave_closed closed]
  · intro session fresh inner later unnamed apart
    exact fork_unseen unnamed apart

/-- A scope in which something else is configured, in a fork as well. -/
def scopedBody : List Step :=
  [.act (.setConfig [("whitespace", .value (.text []))]) none,
    .fork true [.act (.pushConfig "d" []) none, .act .resetConfig none]]

/-- A scope of another name, entered and left. -/
def otherScope : List Step :=
  [.act (.pushConfig "e" [("whitespace", .value (.text []))]) none, .act (.popConfig "e") none]

theorem configuration_scoped_body :
    let session := start "linux"
    let entered := (session.act (.pushConfig "c" []) none).1
    let left := (entered.run scopedBody).1
    SameConfiguration session (session.act (.create []) (some "s")).1 ∧
      (left.act (.popConfig "c") none).1.settings = session.settings ∧
      (session.run (.act (.pushConfig "c" []) none ::
        (scopedBody ++ [.act (.popConfig "c") none]))).1.settings = session.settings ∧
      (entered.step (.fork true scopedBody)).1.scopes.lookup "c" =
        entered.scopes.lookup "c" ∧
      ((entered.step (.fork true scopedBody)).1.run otherScope).1.settings =
        (entered.run otherScope).1.settings := by
  intro session entered left
  have apart : ∀ command ∈ commands scopedBody, command.scope? ≠ some "c" := by
    simp [scopedBody, commands, commandsIn, Command.scope?]
  obtain ⟨done, ok⟩ : ∃ done, session.effect (.pushConfig "c" []) = .ok done := ⟨_, rfl⟩
  have closed : ∀ settings, session.scopes.lookup "c" ≠ some (some settings) := by
    intro settings saved
    cases saved
  refine ⟨configuration_scoped.1 session (.create []) (some "s") rfl, ?_, ?_, ?_, ?_⟩
  · exact (configuration_scoped.2.1 session session left
      (.act (.pushConfig "c" []) none :: (scopedBody ++ [.act (.popConfig "c") none])) "c"
      [] (trail entered scopedBody) [] [] none none done
      (trail_scope session "c" [] none none scopedBody) ok
      fun _ member => apart _ (mem_trail member)).2 closed
  · exact configuration_scoped.2.2.1 session "c" [] scopedBody none none done ok closed apart
  · exact (configuration_scoped.2.2.2.1 entered true scopedBody).2.2.2 "c" apart
  · refine configuration_scoped.2.2.2.2 entered true scopedBody otherScope ?_ ?_
    · simp [otherScope, commands, commandsIn, Command.terms, namesAmong, Term.names]
    · simp [otherScope, scopedBody, commands, commandsIn, Command.scope?]

/-- A scope that is entered in a fork and left outside brings what was configured there outside. -/
theorem left_outside_shows :
    ¬ ∀ (session : Session) (fresh : Bool) (fields : List (String × Term))
      (inner later : List Step), session.Sound →
      ((session.step
          (.fork fresh (.act (.setConfig fields) none :: inner))).1.run later).1.settings =
        ((session.step (.fork fresh inner)).1.run later).1.settings := by
  intro unseen
  have same := unseen (start "linux") true [("whitespace", .value (.text [120]))]
    [.act (.pushConfig "c" []) none] [.act (.popConfig "c") none] (start_sound "linux")
  have whitespace := congrArg (fun settings => (start "linux").valueOf settings.whitespace) same
  cases whitespace

end Trails

end TextScan.Session
