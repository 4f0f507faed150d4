import TextScan.Proofs.SessionEffects

namespace TextScan.Session

def grown? (session : Session) : Command → Option Nat
  | .append on _ =>
    match session.cursorIn on "buffer" with
    | .ok (_, cursor) => some cursor.buffer
    | .error _ => none
  | _ => none

/-- What a command takes from a window lies inside it: the streams it shows, the cursors it
makes, and what it leaves in the register that keeps its result. -/
structure Obtained (before : Store) (window : Cursor) (after : Session) (result : Result)
    (name : Option String) : Prop where
  shown : ∀ piece ∈ result.streams, before.Shows window piece
  made : ∀ (id : Nat) (cursor : Cursor), before.cursors.length ≤ id →
    after.store.cursors[id]? = some cursor → cursor.Inside window
  left : ∀ register object inner, name = some register →
    after.registers.lookup register = some object →
    after.store.windowOf? object = some inner → inner.Inside window

/-- What a command does to the session before its walks are ended and its result is kept. -/
structure Effect.Lawful (done : Effect) (session : Session) (command : Command) : Prop where
  sound : done.session.Sound
  onward : session.store.Extends done.session.store
  unchanged : ∀ id < session.store.holdings.length, session.grown? command ≠ some id →
    done.session.store.buffer id = session.store.buffer id
  known : done.session.store.Knows done.kept
  inside : ∀ object window, session.asked? command = some object →
    session.store.windowOf? object = some window → done.Inside session.store window

/-- What a command does in a session, whether it faults or not. -/
structure Lawful (session : Session) (command : Command) (name : Option String) : Prop where
  sound : (session.act command name).1.Sound
  onward : session.store.Extends (session.act command name).1.store
  unchanged : ∀ id < session.store.holdings.length, session.grown? command ≠ some id →
    (session.act command name).1.store.buffer id = session.store.buffer id
  obtained : ∀ object window result moved log, session.asked? command = some object →
    session.store.windowOf? object = some window →
    (session.act command name).2 = .act (.ok result) moved log →
    Obtained session.store window (session.act command name).1 result name

mutual

/-- A law of single commands holds of every command that a step comes to. -/
def Along (law : Session → Command → Option String → Prop) (session : Session) : Step → Prop
  | .act command name => law session command name
  | .fork fresh steps => AlongAll law (session.forked fresh) steps

def AlongAll (law : Session → Command → Option String → Prop) (session : Session) :
    List Step → Prop
  | [] => True
  | first :: rest => Along law session first ∧ AlongAll law (session.step first).1 rest

end

variable {session : Session}

/-- A walk that ended goes over nothing; all else goes over what it did. -/
theorem Store.windowOf_setWalk {store : Store} {id : Nat} {object : Object} {inner : Cursor}
    (found : (store.setWalk id .finished).windowOf? object = some inner) :
    store.windowOf? object = some inner := by
  cases object with
  | walk other =>
    obtain ⟨walk, there, goes⟩ := Option.bind_eq_some_iff.mp found
    by_cases same : id = other
    · subst same
      have member := List.mem_of_getElem? there
      have reach := (List.getElem?_eq_some_iff.mp there).1
      have reached : id < store.walks.length := by simpa [setWalk] using reach
      cases (List.getElem?_set_self reached).symm.trans there
      cases goes
    · have still := (List.getElem?_set_ne same).symm.trans there
      refine Option.bind_eq_some_iff.mpr ⟨walk, still, ?_⟩
      cases walk with
      | waiting source =>
        cases source with
        | _ => exact goes
      | _ => exact goes
  | _ => exact found

theorem finish_windowOf (session : Session) (walks : List Nat) {object : Object} {inner : Cursor} :
    (session.finish walks).store.windowOf? object = some inner →
      session.store.windowOf? object = some inner :=
  List.foldlRecOn walks _ (motive := fun store : Store => store.windowOf? object = some inner →
    session.store.windowOf? object = some inner) id
    fun _ former _ _ found => former (Store.windowOf_setWalk found)

theorem finish_cursors (session : Session) (walks : List Nat) :
    (session.finish walks).store.cursors = session.store.cursors :=
  List.foldlRecOn walks _ (motive := fun store : Store => store.cursors = session.store.cursors)
    rfl fun _ same _ _ => same

theorem Sound.finish (sound : session.Sound) (walks : List Nat) :
    (session.finish walks).Sound := sound.move (finish_moves sound.store walks)

theorem Sound.cursorIn (sound : session.Sound) {name member : String} {id : Nat} {cursor : Cursor}
    (found : session.cursorIn name member = .ok (id, cursor)) :
    session.registers.lookup name = some (.stream id) ∧
      session.store.cursors[id]? = some cursor ∧ session.store.Holds cursor := by
  obtain ⟨object, held, there⟩ := bind_eq_ok.mp found
  split at there
  · split at there
    · rename_i present
      cases there
      exact ⟨lookup_eq_ok held, present, sound.store.holds present⟩
    · cases there
  · cases there

theorem append_lawful (sound : session.Sound) {on : String} {code : Term} {done : Effect}
    (ok : session.append on code = .ok done) : done.Lawful session (.append on code) := by
  obtain ⟨⟨id, cursor⟩, found, ok⟩ := bind_eq_ok.mp ok
  obtain ⟨value, -, ok⟩ := bind_eq_ok.mp ok
  have known := (sound.cursorIn found).2.2.known
  have grown : session.grown? (.append on code) = some cursor.buffer := by
    unfold grown?
    dsimp only
    rw [found]
  obtain ⟨still, onward, cursors, -, others, bare, plain⟩ := grow_steady sound known ok
  refine ⟨still, onward, ?_, ?_, ?_⟩
  · intro other _ different
    rw [grown] at different
    exact others other fun same => different (congrArg some same.symm)
  · rw [bare]
    trivial
  · intro object window _ _
    refine ⟨?_, ?_, ?_⟩
    · intro other made new there
      rw [cursors] at there
      exact absurd (List.getElem?_eq_some_iff.mp there).1 (Nat.not_lt.mpr new)
    · intro inner there
      rw [bare] at there
      cases there
    · rw [plain]
      exact List.forall_mem_nil _

theorem effect_lawful (sound : session.Sound) {command : Command} {done : Effect}
    (ok : session.effect command = .ok done) : done.Lawful session command := by
  by_cases append : ∃ on code, command = .append on code
  · obtain ⟨on, code, rfl⟩ := append
    exact append_lawful sound ok
  · have steady := effect_steady sound ok fun on code same => append ⟨on, code, same⟩
    refine ⟨steady.sound, steady.moves.onward, ?_, steady.known, steady.obtained⟩
    exact fun id known _ => steady.moves.keeps.buffers id known

theorem lookup_replaced {α : Type} (name other : String) (given : α) (entries : List (String × α)) :
    ((name, given) :: entries.filter fun entry => entry.1 != name).lookup other =
      if other = name then some given else entries.lookup other := by
  by_cases same : other = name
  · simp [same]
  · have rest : (entries.filter fun entry => entry.1 != name).lookup other =
        entries.lookup other := by
      induction entries with
      | nil => rfl
      | cons entry entries later =>
        rw [List.filter_cons]
        by_cases replaced : entry.1 = name
        · have unlike : (other == entry.1) = false := by simp [replaced, same]
          rw [if_neg (by simp [replaced]), later, List.lookup_cons, unlike]
        · rw [if_pos (by simp [replaced]), List.lookup_cons, List.lookup_cons, later]
    have apart : (other == name) = false := by simp [same]
    rw [if_neg same, List.lookup_cons, apart]
    exact rest

/-- What a session is left as, when a register may keep what was given. -/
def kept? (session : Session) (name : Option String) (object : Object) : Session :=
  match name with
  | some name => session.keep name object
  | none => session

theorem kept_store (session : Session) (name : Option String) (object : Object) :
    (session.kept? name object).store = session.store := by
  cases name with
  | none => rfl
  | some name => rfl

theorem Sound.kept (sound : session.Sound) (name : Option String) {object : Object}
    (known : session.store.Knows object) : (session.kept? name object).Sound := by
  cases name with
  | none => exact sound
  | some name => exact sound.keep name known

/-- A command that faults leaves the session as it is, or as trimming at the front does. -/
theorem halted_cases (session : Session) (command : Command) :
    session.halted command = session ∨ ∃ on arguments done, command = .call on .trim arguments ∧
      session.call on .trimFront arguments = .ok done ∧ session.halted command = done.session := by
  unfold halted
  split
  · rename_i on arguments
    split
    · rename_i done trimmed
      exact .inr ⟨on, arguments, done, rfl, trimmed, rfl⟩
    · exact .inl rfl
  · exact .inl rfl

theorem halted_lawful (sound : session.Sound) (command : Command) :
    (session.halted command).Sound ∧ session.store.Extends (session.halted command).store ∧
      ∀ id < session.store.holdings.length,
        (session.halted command).store.buffer id = session.store.buffer id := by
  rcases halted_cases session command with same | ⟨on, arguments, done, -, trimmed, same⟩
  · rw [same]
    exact ⟨sound, .refl sound.store, fun _ _ => rfl⟩
  · have lawful : done.Lawful session (.call on .trimFront arguments) := effect_lawful sound trimmed
    rw [same]
    exact ⟨lawful.sound, lawful.onward, fun id known => lawful.unchanged id known nofun⟩

def receiving? (session : Session) (command : Command) : Option Object :=
  (receiver? command).bind fun on => session.registers.lookup on

theorem act_fault {command : Command} {fault : Fault} {name : Option String}
    (faulted : session.effect command = .error fault) :
    session.act command name =
      ((session.halted command).finish (session.walksUsed command),
        .act (.error fault) ((session.halted command).window? (session.receiving? command))
          fault.events) := by
  unfold act
  dsimp only
  rw [faulted]
  rfl

theorem act_done {command : Command} {done : Effect} {name : Option String}
    (effected : session.effect command = .ok done) :
    session.act command name =
      let after := (done.session.finish (session.walksUsed command)).kept? name done.kept
      (after, .act (.ok done.result) (after.window? (session.receiving? command))
        (after.events command)) := by
  unfold act
  dsimp only
  rw [effected]
  rfl

theorem act_error {command : Command} {fault : Fault}
    (faulted : session.effect command = .error fault) (name : Option String) :
    ∃ moved log, session.act command name =
      ((session.halted command).finish (session.walksUsed command),
        .act (.error fault) moved log) := ⟨_, _, act_fault faulted⟩

theorem act_ok {command : Command} {done : Effect} (effected : session.effect command = .ok done)
    (name : Option String) : ∃ moved log, session.act command name =
      ((done.session.finish (session.walksUsed command)).kept? name done.kept,
        .act (.ok done.result) moved log) := ⟨_, _, act_done effected⟩

/-- The law of one command: it is derived from the law of its effect, as ending walks and
keeping what was given touch no window. -/
theorem act_lawful (sound : session.Sound) (command : Command) (name : Option String) :
    Lawful session command name := by
  cases effected : session.effect command with
  | error fault =>
    obtain ⟨moved, log, acted⟩ := act_error effected name
    obtain ⟨halted, onward, unchanged⟩ := halted_lawful sound command
    have moves := finish_moves halted.store (session.walksUsed command)
    constructor
    · rw [acted]
      exact halted.finish _
    · rw [acted]
      exact onward.trans moves.onward
    · intro id known _
      rw [acted]
      have reach := Nat.lt_of_lt_of_le known onward.holdings
      exact (moves.keeps.buffers id reach).trans (unchanged id known)
    · intro object window result moved log _ _ answered
      rw [acted] at answered
      cases answered
  | ok done =>
    obtain ⟨moved, log, acted⟩ := act_ok effected name
    have lawful := effect_lawful sound effected
    have moves := finish_moves lawful.sound.store (session.walksUsed command)
    constructor
    · rw [acted]
      exact (lawful.sound.finish _).kept name (lawful.known.extends moves.onward)
    · rw [acted, kept_store]
      exact lawful.onward.trans moves.onward
    · intro id known spared
      rw [acted, kept_store]
      have reach := Nat.lt_of_lt_of_le known lawful.onward.holdings
      exact (moves.keeps.buffers id reach).trans (lawful.unchanged id known spared)
    · intro object window result moved log asked found answered
      rw [acted] at answered
      cases answered
      have inside := lawful.inside object window asked found
      rw [acted]
      refine ⟨inside.shown, ?_, ?_⟩
      · intro id cursor new there
        rw [kept_store, finish_cursors] at there
        exact inside.fresh id cursor new there
      · intro register held inner same there goes
        cases same
        have given : held = done.kept := by
          simpa [kept?, keep] using there.symm
        rw [kept_store, given] at goes
        exact inside.kept inner (finish_windowOf _ _ goes)

theorem start_sound (platform : String) : (start platform).Sound := by
  refine ⟨⟨?_, ?_, nofun⟩, ?_, defaultSettings_known _, ?_, ?_⟩
  · intro cursor member
    cases member
  · intro walk member
    cases member
  · intro entry member
    cases member
  · intro entry member
    cases member
  · intro settings member
    cases member

theorem Sound.forked (sound : session.Sound) (fresh : Bool) : (session.forked fresh).Sound := by
  refine ⟨sound.store, sound.registers, ?_, sound.scopes, ?_⟩
  · unfold Session.forked
    dsimp only
    split
    · exact defaultSettings_known _
    · exact sound.settings
  · intro settings member
    rcases List.mem_cons.mp member with rfl | outside
    · exact sound.settings
    · exact sound.outer settings outside

/-- A fork that is left, where the configuration is again what it was. -/
def joined (session after : Session) : Session :=
  { after with settings := session.settings, outer := session.outer }

theorem Sound.joined (sound : session.Sound) {after : Session} (still : after.Sound)
    (onward : session.store.Extends after.store) : (session.joined after).Sound :=
  ⟨still.store, still.registers,
    fun object member => (sound.settings object member).extends onward, still.scopes,
    fun settings member object present =>
      (sound.outer settings member object present).extends onward⟩

theorem step_act (session : Session) (command : Command) (name : Option String) :
    session.step (.act command name) = session.act command name := by rw [step]

theorem step_fork (session : Session) (fresh : Bool) (steps : List Step) :
    (session.step (.fork fresh steps)).1 =
      session.joined ((session.forked fresh).run steps).1 := by
  rw [step]
  rfl

theorem run_cons (session : Session) (first : Step) (rest : List Step) :
    (session.run (first :: rest)).1 = ((session.step first).1.run rest).1 := by
  rw [run]

mutual

/-- A step keeps the session sound, its commands being lawful one by one. -/
theorem step_lawful {session : Session} (sound : session.Sound) (step : Step) :
    Along Lawful session step ∧ (session.step step).1.Sound ∧
      session.store.Extends (session.step step).1.store := by
  cases step with
  | act command name =>
    have lawful := act_lawful sound command name
    rw [Along, step_act]
    exact ⟨lawful, lawful.sound, lawful.onward⟩
  | fork fresh steps =>
    obtain ⟨along, after, onward⟩ := run_lawful (sound.forked fresh) steps
    rw [Along, step_fork]
    exact ⟨along, sound.joined after onward, onward⟩

theorem run_lawful {session : Session} (sound : session.Sound) (steps : List Step) :
    AlongAll Lawful session steps ∧ (session.run steps).1.Sound ∧
      session.store.Extends (session.run steps).1.store := by
  cases steps with
  | nil =>
    rw [AlongAll, run]
    exact ⟨trivial, sound, .refl sound.store⟩
  | cons first rest =>
    obtain ⟨along, next, onward⟩ := step_lawful sound first
    obtain ⟨later, last, still⟩ := run_lawful next rest
    rw [AlongAll, run_cons]
    exact ⟨⟨along, later⟩, last, onward.trans still⟩

end

mutual

/-- What holds of every command in a sound session holds of every command that a step comes
to in one. -/
theorem along_of_sound {law : Session → Command → Option String → Prop}
    (holds : ∀ session command name, session.Sound → law session command name)
    {session : Session} (sound : session.Sound) (step : Step) : Along law session step := by
  cases step with
  | act command name =>
    rw [Along]
    exact holds session command name sound
  | fork fresh steps =>
    rw [Along]
    exact alongAll_of_sound holds (sound.forked fresh) steps

theorem alongAll_of_sound {law : Session → Command → Option String → Prop}
    (holds : ∀ session command name, session.Sound → law session command name)
    {session : Session} (sound : session.Sound) (steps : List Step) :
    AlongAll law session steps := by
  cases steps with
  | nil =>
    rw [AlongAll]
    trivial
  | cons first rest =>
    rw [AlongAll]
    exact ⟨along_of_sound holds sound first,
      alongAll_of_sound holds (step_lawful sound first).2.1 rest⟩

end

/-- From a session's start, over every run: each window that anything names lies in its
buffer at the end, and each command on the way was lawful. -/
theorem run_windows (platform : String) (steps : List Step) :
    AlongAll Lawful (start platform) steps ∧ ((start platform).run steps).1.Sound := by
  obtain ⟨along, sound, -⟩ := run_lawful (start_sound platform) steps
  exact ⟨along, sound⟩

end TextScan.Session
