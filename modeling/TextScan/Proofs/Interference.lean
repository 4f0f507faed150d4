import TextScan.Proofs.Lockstep

/-! Interference: what one party does with its stream is no matter of what another party does with
its own in between. Each gets the answers that it gets alone, however their operations are
interleaved, and leaves its stream with the window that it leaves alone. -/

namespace TextScan.Session

section Parties

/-- Commands, each with the name that its result is kept under, as steps. -/
def acts (steps : List (Command × Option String)) : List Step :=
  steps.map fun step => .act step.1 step.2

/-- The commands that are one party's turns. -/
def part (who : Bool) (turns : List (Bool × Command × Option String)) :
    List (Command × Option String) :=
  turns.filterMap fun turn => if turn.1 = who then some turn.2 else none

/-- The answers that one party gets at its turns. -/
def heardBy (who : Bool) (turns : List (Bool × Command × Option String)) (answers : List Answer) :
    List Answer :=
  (turns.zip answers).filterMap fun turn => if turn.1.1 = who then some turn.2 else none

/-- What a party does to its cursor when it is alone. It mentions nothing that leads to the other
cursor, and of the walks there are only some. -/
structure Confined (base : Session) (own other : Nat) (walks : Set Nat)
    (steps : List (Command × Option String)) : Prop where
  asks : AlongAll (fun session command _ => session.OperatesOn own command) base (acts steps)
  named : ∀ step ∈ steps, ∀ on ∈ step.1.names, ∀ object,
    base.registers.lookup on = some object → object.Avoids other walks
  written : ∀ step ∈ steps, ∀ value ∈ literalsAmong step.1.terms, value.Within ∅
  reached : ∀ id ∈ walks, ∃ walk, base.store.walks[id]? = some walk ∧ walk.Avoids other walks

/-- Two parties with a cursor each that mention no walk in common. Neither keeps a result under a
name that the other one mentions, and nothing that is configured leads to the cursors or to a
walk. -/
structure Apart (base : Session) (own : Bool → Nat) (walks : Bool → Set Nat)
    (steps : Bool → List (Command × Option String)) : Prop where
  known : ∀ who, own who < base.store.cursors.length
  cursors : ∀ who, own who ≠ own !who
  disjoint : ∀ who, ∀ id ∈ walks who, id ∉ walks !who
  registers : ∀ who, ∀ step ∈ steps who, ∀ on ∈ step.1.names, ∀ step' ∈ steps !who,
    step'.2 ≠ some on
  settings : ∀ object ∈ base.settings.toList, ∀ who, object.Avoids (own who) ∅
  confined : ∀ who, Confined base (own who) (own !who) (walks who) (steps who)

end Parties

section Frames

variable {base here here' there session : Session} {other own : Nat} {mine : Set Nat}
  {names : Equiv.Perm Nat} {used : Set String} {command : Command}

/-- A session that another party changed mirrors what it mirrored, as the party sees it. -/
theorem Mirrors.spared {touched : Object → Prop}
    (mirrors : base.Mirrors other mine names used here there)
    (known : other < base.store.cursors.length)
    (moves : here.store.Moves touched here'.store) (cursors : ∀ id, touched (.stream id) → id = other)
    (walks : ∀ id, touched (.walk id) → id ∉ mine) (still : here'.Sound)
    (settings : here'.settings = here.settings) (platform : here'.platform = here.platform)
    (registers : ∀ on ∈ used, here'.registers.lookup on = here.registers.lookup on) :
    base.Mirrors other mine names used here' there := by
  have stays : there.store.Moves (fun _ => False) there.store := .refl mirrors.sound'.store
  have old (id : Nat) (hit : touched (.stream id)) : id < base.store.cursors.length :=
    cursors id hit ▸ known
  refine mirrors.go moves stays old nofun ⟨still, mirrors.sound'⟩ ⟨settings, rfl⟩ ⟨platform, rfl⟩
    (fun _ own => own) (fun _ _ => rfl) ?_ ?_ ?_
  · intro id known apart
    have reach := Nat.lt_of_lt_of_le known mirrors.store.shares.cursors
    have found := List.getElem?_eq_getElem reach
    rw [mirrors.store.cursors id known apart, found]
    exact (moves.spares.cursors id _ (fun hit => apart (cursors id hit)) found).symm
  · intro id own
    obtain ⟨walk, found, rest⟩ := mirrors.store.walks id own
    exact ⟨walk, moves.spares.walks id walk (fun hit => walks id hit own) found, rest⟩
  · intro on named
    rw [registers on named]
    exact mirrors.registers_kept (.of_moves moves old) (.of_moves stays nofun) (fun _ own => own)
      (fun _ _ => rfl) named

/-- A command that configures and grows nothing leaves buffers, settings and all but one register
as they are. -/
theorem act_framed (sound : session.Sound) (fixed : command.configures = false)
    (unappended : ∀ on code, command ≠ .append on code) (name : Option String) :
    session.store.Moves (session.Touches command) (session.act command name).1.store ∧
      (session.act command name).1.settings = session.settings ∧
      (session.act command name).1.platform = session.platform ∧
      ∀ on, name ≠ some on →
        (session.act command name).1.registers.lookup on = session.registers.lookup on := by
  have lawful := act_lawful sound command name
  have ungrown : session.grown? command = none := by
    cases command with
    | append on code => exact absurd rfl (unappended on code)
    | _ => rfl
  have moves : session.store.Moves (session.Touches command) (session.act command name).1.store := by
    refine ⟨lawful.sound.store, lawful.onward, ⟨lawful.onward.holdings, fun id known => ?_⟩,
      act_spares sound command name⟩
    exact lawful.unchanged id known (ungrown ▸ nofun)
  refine ⟨moves, ?_⟩
  cases effected : session.effect command with
  | error fault =>
    rw [act_fault effected]
    rcases halted_cases session command with same | ⟨on, arguments, done, -, trimmed, same⟩
    · rw [same]
      exact ⟨rfl, rfl, fun _ _ => rfl⟩
    · obtain ⟨store, trimmed⟩ : done.InStore session := (call_framed trimmed).inStore
      rw [same, trimmed]
      exact ⟨rfl, rfl, fun _ _ => rfl⟩
  | ok done =>
    obtain ⟨store, same⟩ := effect_inStore effected fixed
    rw [act_done effected]
    dsimp only
    rw [same]
    cases name with
    | none => exact ⟨rfl, rfl, fun _ _ => rfl⟩
    | some kept =>
      refine ⟨rfl, rfl, fun on apart => ?_⟩
      refine (lookup_keep _ kept on done.kept).trans (if_neg ?_)
      rintro rfl
      exact apart rfl

end Frames

section Weaving

theorem Result.rename_rename (names later : Nat → Nat) (result : Result) :
    (result.rename names).rename later = result.rename (later ∘ names) := by
  cases result with
  | value answer => exact congrArg Result.value (Value.rename_rename names later answer)
  | _ => rfl

theorem Answer.rename_rename (names later : Nat → Nat) (answer : Answer) :
    (answer.rename names).rename later = answer.rename (later ∘ names) := by
  cases answer with
  | fork answers => rfl
  | act result window log =>
    cases result with
    | error fault => rfl
    | ok result =>
      exact congrArg (fun result => Answer.act (.ok result) window log)
        (Result.rename_rename names later result)

theorem Answer.Within.agree {walks : Set Nat} {answer : Answer} {names names' : Equiv.Perm Nat}
    (within : answer.Within walks) (agree : ∀ id ∈ walks, names id = names' id) :
    answer.rename names = answer.rename names' := by
  obtain ⟨fixes, whole⟩ := numbered_alike agree
  calc
    answer.rename names = (answer.rename (names.trans names'.symm)).rename names' := by
      rw [rename_rename, whole]
    _ = answer.rename names' := by rw [within _ fixes]

variable {base : Session} {own : Bool → Nat} {used : Bool → Set String}

/-- The session that parties share, beside the ones that each of them would have alone. Each
sees in it what it would see alone, and no walk is seen by both. -/
structure Woven (base : Session) (own : Bool → Nat) (used : Bool → Set String)
    (mine : Bool → Set Nat) (names : Bool → Equiv.Perm Nat) (here : Session)
    (alone : Bool → Session) : Prop where
  mirrors : ∀ who, base.Mirrors (own !who) (mine who) (names who) (used who) here (alone who)
  disjoint : ∀ who, ∀ id ∈ mine who, id ∉ mine !who

/-- A turn that only mentions what is the party's. -/
structure Fair (used : Bool → Set String) (turn : Bool × Command × Option String) : Prop where
  named : ∀ on ∈ turn.2.1.names, on ∈ used turn.1
  written : ∀ value ∈ literalsAmong turn.2.1.terms, value.Within ∅
  kept : ∀ on, turn.2.2 = some on → on ∉ used !turn.1

variable (sound : base.store.Sound) (known : ∀ who, own who < base.store.cursors.length)
  (apart : ∀ who, own who ≠ own !who)

include sound known apart in
/-- One turn: the party whose turn it is gets the answer that it gets alone, and the other one
sees nothing of it. -/
theorem Woven.turn {mine : Bool → Set Nat} {names : Bool → Equiv.Perm Nat} {here : Session}
    {alone : Bool → Session} (woven : Woven base own used mine names here alone) {who : Bool}
    {command : Command} {name : Option String} (fair : Fair used (who, command, name))
    (asks : (alone who).OperatesOn (own who) command) :
    ∃ mine' names', Woven base own used mine' names' (here.act command name).1
        (Function.update alone who ((alone who).act command name).1) ∧
      (∀ party, ∀ id ∈ mine party, id ∈ mine' party ∧ names party id = names' party id) ∧
      (here.act command name).2.Within (mine' who) ∧
      ((alone who).act command name).2 = (here.act command name).2.rename (names' who) := by
  have mirrors := woven.mirrors who
  obtain ⟨mine', names', wider, new, agree, after, within, same⟩ :=
    act_lockstep sound (known who) (apart who) mirrors asks fair.named fair.written name
  have asks' := mirrors.operates (known who) asks fair.named
  obtain ⟨fixed, unappended, touches⟩ := asks'.framed
  obtain ⟨moves, settings, platform, registers⟩ :=
    act_framed mirrors.sound fixed unappended name
  obtain ⟨-, through⟩ :=
    walksUsed_twins sound mirrors (known who) (apart who) asks fair.named fair.written
  have foreign (id : Nat) (hit : here.Touches command (.walk id)) : id ∈ mine who := by
    rcases hit with next | used
    · obtain ⟨on, rfl, held⟩ := asksNext_eq next
      cases held.symm.trans asks'
    · exact through id used
  have fresh (id : Nat) (seen : id ∈ mine !who) : id ∉ mine' := by
    intro own
    rcases new id own with old | beyond
    · exact woven.disjoint who id old seen
    · exact Nat.not_lt.mpr beyond ((woven.mirrors !who).walk_known seen)
  refine ⟨Function.update mine who mine', Function.update names who names', ⟨?_, ?_⟩, ?_, ?_, ?_⟩
  · intro party
    by_cases turn : party = who
    · subst turn
      simp only [Function.update_self]
      exact after
    · obtain rfl : party = !who := Bool.eq_not.mpr turn
      simp only [Function.update_of_ne turn]
      refine (woven.mirrors !who).spared (known _) moves ?_ ?_ after.sound settings platform ?_
      · rw [Bool.not_not]
        exact touches
      · exact fun id hit seen => woven.disjoint who id (foreign id hit) seen
      · exact fun on seen => registers on fun kept => fair.kept on kept seen
  · intro party id seen
    by_cases turn : party = who
    · subst turn
      rw [Function.update_self] at seen
      rw [Function.update_of_ne (by simp)]
      exact fun other => fresh id other seen
    · obtain rfl : party = !who := Bool.eq_not.mpr turn
      rw [Function.update_of_ne turn] at seen
      rw [Bool.not_not, Function.update_self]
      exact fresh id seen
  · intro party id seen
    by_cases turn : party = who
    · subst turn
      simp only [Function.update_self]
      exact ⟨wider seen, agree id seen⟩
    · simp only [Function.update_of_ne turn]
      exact ⟨seen, trivial⟩
  · rw [Function.update_self]
    exact within
  · rw [Function.update_self]
    exact same

theorem AlongAll.head {law : Session → Command → Option String → Prop} {session : Session}
    {command : Command} {name : Option String} {rest : List Step}
    (along : AlongAll law session (.act command name :: rest)) :
    law session command name ∧ AlongAll law (session.act command name).1 rest := by
  rw [AlongAll, Along, step_act] at along
  exact along

theorem run_act (session : Session) (command : Command) (name : Option String) (rest : List Step) :
    session.run (.act command name :: rest) =
      (((session.act command name).1.run rest).1,
        (session.act command name).2 :: ((session.act command name).1.run rest).2) := by
  rw [Session.run, step_act]

theorem run_nil (session : Session) : session.run [] = (session, []) := by rw [Session.run]

section Turns

variable {who party : Bool} (step : Command × Option String)
  (turns : List (Bool × Command × Option String)) (answer : Answer) (answers : List Answer)

theorem part_own : part who ((who, step) :: turns) = step :: part who turns := by simp [part]

theorem part_other (apart : who ≠ party) : part party ((who, step) :: turns) = part party turns := by
  simp [part, apart]

theorem heardBy_own : heardBy who ((who, step) :: turns) (answer :: answers) =
    answer :: heardBy who turns answers := by
  simp [heardBy]

theorem heardBy_other (apart : who ≠ party) :
    heardBy party ((who, step) :: turns) (answer :: answers) = heardBy party turns answers := by
  simp [heardBy, apart]

end Turns

include sound known apart in
/-- Turns one after the other: each party gets all the answers that it gets alone. -/
theorem Woven.run {mine : Bool → Set Nat} {names : Bool → Equiv.Perm Nat} {here : Session}
    {alone : Bool → Session} (woven : Woven base own used mine names here alone)
    (turns : List (Bool × Command × Option String)) (fair : ∀ turn ∈ turns, Fair used turn)
    (asks : ∀ who, AlongAll (fun session command _ => session.OperatesOn (own who) command)
      (alone who) (acts (part who turns))) :
    ∃ mine' names', Woven base own used mine' names' (here.run (acts (turns.map Prod.snd))).1
        (fun who => ((alone who).run (acts (part who turns))).1) ∧
      (∀ who, ∀ id ∈ mine who, id ∈ mine' who ∧ names who id = names' who id) ∧
      ∀ who, ((alone who).run (acts (part who turns))).2 =
        (heardBy who turns (here.run (acts (turns.map Prod.snd))).2).map
          (Answer.rename (names' who)) := by
  induction turns generalizing mine names here alone with
  | nil =>
    refine ⟨mine, names, woven, fun who id seen => ⟨seen, rfl⟩, fun who => ?_⟩
    exact congrArg Prod.snd (run_nil (alone who))
  | cons turn turns later =>
    obtain ⟨who, command, name⟩ := turn
    obtain ⟨first, rest⟩ := List.forall_mem_cons.mp fair
    have own := asks who
    rw [part_own] at own
    obtain ⟨now, own⟩ := own.head
    obtain ⟨mine₁, names₁, woven₁, wider₁, within, same⟩ := woven.turn sound known apart first now
    obtain ⟨mine₂, names₂, woven₂, wider₂, heard⟩ := later woven₁ rest fun party => by
      by_cases turn : party = who
      · subst turn
        rw [Function.update_self]
        exact own
      · rw [Function.update_of_ne turn]
        have others := asks party
        rwa [part_other _ _ (Ne.symm turn)] at others
    have left (party : Bool) :
        ((alone party).run (acts (part party ((who, command, name) :: turns)))).1 =
          ((Function.update alone who ((alone who).act command name).1 party).run
            (acts (part party turns))).1 := by
      by_cases turn : party = who
      · subst turn
        rw [Function.update_self, part_own]
        change ((alone party).run (.act command name :: acts (part party turns))).1 = _
        rw [run_act]
      · rw [Function.update_of_ne turn, part_other _ _ (Ne.symm turn)]
    have ran := run_act here command name (acts (turns.map Prod.snd))
    refine ⟨mine₂, names₂, ?_, fun party id seen => ?_, fun party => ?_⟩
    · rw [funext left]
      exact ran ▸ woven₂
    · obtain ⟨seen₁, agree₁⟩ := wider₁ party id seen
      obtain ⟨seen₂, agree₂⟩ := wider₂ party id seen₁
      exact ⟨seen₂, agree₁.trans agree₂⟩
    · have answers := heard party
      change ((alone party).run (acts (part party ((who, command, name) :: turns)))).2 =
        (heardBy party ((who, command, name) :: turns)
          (here.run (.act command name :: acts (turns.map Prod.snd))).2).map _
      rw [ran]
      by_cases turn : party = who
      · subst turn
        rw [Function.update_self] at answers
        rw [part_own, heardBy_own]
        change ((alone party).run (.act command name :: acts (part party turns))).2 = _
        rw [run_act, List.map_cons, ← answers, same]
        refine congrArg (· :: _) ?_
        exact within.agree fun id seen => (wider₂ party id seen).2
      · rw [Function.update_of_ne turn] at answers
        rw [part_other _ _ (Ne.symm turn), heardBy_other _ _ _ _ (Ne.symm turn), answers]

end Weaving

end TextScan.Session
