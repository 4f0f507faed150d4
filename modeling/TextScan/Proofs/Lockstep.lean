import TextScan.Proofs.TwinEffects

namespace TextScan.Session

section Steps

variable {base here here' there there' : Session} {other own : Nat} {mine mine' : Set Nat}
  {names names' : Equiv.Perm Nat} {used : Set String}

/-- Sessions that went on, whatever touched them, mirror each other if what a party sees of them
does. -/
theorem Mirrors.go {touched touched' : Object → Prop}
    (mirrors : base.Mirrors other mine names used here there)
    (moves : here.store.Moves touched here'.store) (moves' : there.store.Moves touched' there'.store)
    (old : ∀ id, touched (.stream id) → id < base.store.cursors.length)
    (old' : ∀ id, touched' (.stream id) → id < base.store.cursors.length)
    (still : here'.Sound ∧ there'.Sound)
    (settings : here'.settings = here.settings ∧ there'.settings = there.settings)
    (platform : here'.platform = here.platform ∧ there'.platform = there.platform)
    (wider : mine ⊆ mine') (agree : ∀ id ∈ mine, names id = names' id)
    (cursors : ∀ id < base.store.cursors.length, id ≠ other →
      there'.store.cursors[id]? = here'.store.cursors[id]?)
    (walks : ∀ id ∈ mine', ∃ walk, here'.store.walks[id]? = some walk ∧
      there'.store.walks[names' id]? = some (walk.rename names') ∧ base.store.Guards walk ∧
        walk.Avoids other mine')
    (registers : ∀ on ∈ used,
      Option.Rel (Twin base.store other mine' names' here'.store there'.store)
        (here'.registers.lookup on) (there'.registers.lookup on)) :
    base.Mirrors other mine' names' used here' there' := by
  have carries : base.store.Carries here.store here'.store := .of_moves moves old
  have carries' : base.store.Carries there.store there'.store := .of_moves moves' old'
  refine ⟨still.1, still.2, ⟨?_, ?_, cursors, walks⟩, ?_, ?_, ?_, registers⟩
  · exact mirrors.store.came.trans (moves.mono fun _ _ => trivial)
  · exact mirrors.store.came'.trans (moves'.mono fun _ _ => trivial)
  · exact ⟨settings.1.trans mirrors.settings.1, settings.2.trans mirrors.settings.2⟩
  · exact ⟨platform.1.trans mirrors.platform.1, platform.2.trans mirrors.platform.2⟩
  · exact fun object member => (mirrors.configured object member).carry carries carries' wider agree

/-- Registers that hold what they held hold twins still. -/
theorem Mirrors.registers_kept (mirrors : base.Mirrors other mine names used here there)
    {here' there' : Store} (carries : base.store.Carries here.store here')
    (carries' : base.store.Carries there.store there') (wider : mine ⊆ mine')
    (agree : ∀ id ∈ mine, names id = names' id) {on : String} (named : on ∈ used) :
    Option.Rel (Twin base.store other mine' names' here' there') (here.registers.lookup on)
      (there.registers.lookup on) := by
  have held := mirrors.registers on named
  generalize here.registers.lookup on = object at held ⊢
  generalize there.registers.lookup on = object' at held ⊢
  cases held with
  | none => exact .none
  | some twin => exact .some (twin.carry carries carries' wider agree)

theorem lookup_keep (session : Session) (name on : String) (object : Object) :
    (session.keep name object).registers.lookup on =
      if on = name then some object else session.registers.lookup on :=
  lookup_replaced name on object session.registers

/-- What is kept under one name is a twin where it was one. -/
theorem Mirrors.keep (mirrors : base.Mirrors other mine names used here there)
    (name : Option String) {object object' : Object} (known : here.store.Knows object)
    (known' : there.store.Knows object')
    (twin : Twin base.store other mine names here.store there.store object object') :
    base.Mirrors other mine names used (here.kept? name object) (there.kept? name object') := by
  cases name with
  | none => exact mirrors
  | some name =>
    refine ⟨mirrors.sound.keep name known, mirrors.sound'.keep name known', mirrors.store,
      mirrors.settings, mirrors.platform, mirrors.configured, fun on named => ?_⟩
    change Option.Rel _ ((here.keep name object).registers.lookup on)
      ((there.keep name object').registers.lookup on)
    rw [lookup_keep, lookup_keep]
    split
    · exact .some twin
    · exact mirrors.registers on named

theorem finish_walks (session : Session) (walks : List Nat) (id : Nat) :
    (session.finish walks).store.walks[id]? =
      if id ∈ walks then (session.store.walks[id]?).map fun _ => .finished
      else session.store.walks[id]? := by
  unfold finish
  dsimp only
  generalize session.store = store
  induction walks generalizing store with
  | nil => rfl
  | cons first rest later =>
    rw [List.foldl_cons, later]
    by_cases same : first = id
    · subst same
      have ended : (store.setWalk first .finished).walks[first]? =
          (store.walks[first]?).map fun _ => .finished := List.getElem?_set_self'
      rw [ended, if_pos (List.mem_cons_self), Option.map_map]
      split
      · rfl
      · rfl
    · have unlike : id ≠ first := fun other => same other.symm
      have kept : (store.setWalk first .finished).walks[id]? = store.walks[id]? :=
        List.getElem?_set_ne same
      rw [kept]
      simp only [List.mem_cons, unlike, false_or]

theorem not_ended (walks : List Nat) (id : Nat) : ¬∃ walk ∈ walks, Object.stream id = .walk walk :=
  fun ⟨_, _, same⟩ => nomatch same

theorem finish_carries (base : Store) {session : Session} (sound : session.store.Sound)
    (walks : List Nat) : base.Carries session.store (session.finish walks).store :=
  .of_moves (finish_moves sound walks) fun id ended => absurd ended (not_ended walks id)

/-- Walks that end in one session end in the other under their other numbers. -/
theorem Mirrors.finish (mirrors : base.Mirrors other mine names used here there) (walks : List Nat) :
    base.Mirrors other mine names used (here.finish walks) (there.finish (walks.map names)) := by
  have moves := finish_moves mirrors.sound.store walks
  have moves' := finish_moves mirrors.sound'.store (walks.map names)
  refine mirrors.go moves moves' (fun _ ended => absurd ended (not_ended _ _))
    (fun _ ended => absurd ended (not_ended _ _)) ?_ ⟨rfl, rfl⟩ ⟨rfl, rfl⟩
    (fun _ own => own) (fun _ _ => rfl) ?_ ?_ ?_
  · exact ⟨mirrors.sound.finish walks, mirrors.sound'.finish _⟩
  · intro id known apart
    rw [finish_cursors, finish_cursors]
    exact mirrors.store.cursors id known apart
  · intro id own
    obtain ⟨walk, found, found', guards, avoids⟩ := mirrors.store.walks id own
    have among : names id ∈ walks.map names ↔ id ∈ walks := List.mem_map_of_injective names.injective
    rw [finish_walks, finish_walks, found, found']
    by_cases ended : id ∈ walks
    · rw [if_pos ended, if_pos (among.mpr ended)]
      exact ⟨.finished, rfl, rfl, trivial, trivial⟩
    · rw [if_neg ended, if_neg fun member => ended (among.mp member)]
      exact ⟨walk, rfl, rfl, guards, avoids⟩
  · intro on named
    exact mirrors.registers_kept (finish_carries base.store mirrors.sound.store _)
      (finish_carries base.store mirrors.sound'.store _) (fun _ own => own) (fun _ _ => rfl) named

section Asked

variable {session : Session} {command : Command} {done done' : Effect}

/-- An operation of a cursor configures nothing, and touches no cursor but that. -/
theorem OperatesOn.framed (asks : session.OperatesOn own command) :
    command.configures = false ∧ (∀ on code, command ≠ .append on code) ∧
      ∀ id, session.Touches command (.stream id) → id = own := by
  have touched {command : Command} (asks : session.receiving? command = some (.stream own))
      (id : Nat) (hit : session.receiving? command = some (.stream id)) : id = own := by
    cases hit.symm.trans asks
    rfl
  cases command with
  | create arguments => exact ⟨rfl, nofun, nofun⟩
  | call on method arguments => exact ⟨rfl, nofun, touched asks⟩
  | compare on relation swapped operand => exact ⟨rfl, nofun, touched asks⟩
  | sameBuffer on operand => exact ⟨rfl, nofun, touched asks⟩
  | same on operand => exact ⟨rfl, nofun, touched asks⟩
  | walk on => exact ⟨rfl, nofun, touched asks⟩
  | next on => exact ⟨rfl, nofun, touched asks⟩
  | append on code => exact asks.elim
  | withFile on file => exact ⟨rfl, nofun, touched asks⟩
  | properties on => exact ⟨rfl, nofun, touched asks⟩
  | _ => cases asks

theorem effect_moves (sound : session.Sound) (ok : session.effect command = .ok done)
    (fixed : ∀ on code, command ≠ .append on code) :
    session.store.Moves (session.Touches command) done.session.store := by
  have lawful := effect_lawful sound ok
  have ungrown : session.grown? command = none := by
    cases command with
    | append on code => exact absurd rfl (fixed on code)
    | _ => rfl
  refine ⟨lawful.sound.store, lawful.onward, ⟨lawful.onward.holdings, fun id known => ?_⟩,
    effect_spares sound ok⟩
  exact lawful.unchanged id known (ungrown ▸ nofun)

theorem OperatesOn.walks (asks : session.OperatesOn own command)
    (ok : session.effect command = .ok done) (still : ∀ on, command ≠ .walk on) :
    done.session.store.walks = session.store.walks := by
  refine (effect_framed ok asks.framed.1 still ?_).walks
  rintro on rfl
  obtain ⟨id, walk, held, -⟩ := next_ok ok
  cases held.symm.trans asks

theorem Mirrors.operates (mirrors : base.Mirrors other mine names used here there)
    (known : own < base.store.cursors.length) (asks : there.OperatesOn own command)
    (names_used : ∀ on ∈ command.names, on ∈ used) : here.OperatesOn own command := by
  have held {on : String} (named : on ∈ command.names)
      (held : there.registers.lookup on = some (.stream own)) :
      here.registers.lookup on = some (.stream own) :=
    held_twin mirrors known (names_used on named) held
  cases command with
  | create arguments =>
    cases arguments with
    | nil => cases asks
    | cons term rest =>
      cases term with
      | register on => exact held (.head _) asks
      | _ => cases asks
  | call on method arguments => exact held (.head _) asks
  | compare on relation swapped operand => exact held (.head _) asks
  | sameBuffer on operand => exact held (.head _) asks
  | same on operand => exact held (.head _) asks
  | walk on => exact held (.head _) asks
  | next on => exact held (.head _) asks
  | append on code => exact asks
  | withFile on file => exact held (.head _) asks
  | properties on => exact held (.head _) asks
  | _ => cases asks

/-- Like effects leave sessions that mirror each other. -/
theorem Mirrors.effect (mirrors : base.Mirrors other mine names used here there)
    (known : own < base.store.cursors.length) (asks : here.OperatesOn own command)
    (asks' : there.OperatesOn own command) (still : ∀ on, command ≠ .walk on)
    (ok : here.effect command = .ok done) (ok' : there.effect command = .ok done')
    (twins : Effect.Twins base.store other mine names own done done') :
    base.Mirrors other mine names used done.session done'.session := by
  obtain ⟨fixed, unappended, touches⟩ := asks.framed
  obtain ⟨-, -, touches'⟩ := asks'.framed
  have moves := effect_moves mirrors.sound ok unappended
  have moves' := effect_moves mirrors.sound' ok' unappended
  have old (id : Nat) (hit : here.Touches command (.stream id)) :
      id < base.store.cursors.length := touches id hit ▸ known
  have old' (id : Nat) (hit : there.Touches command (.stream id)) :
      id < base.store.cursors.length := touches' id hit ▸ known
  have walks := asks.walks ok still
  have walks' := asks'.walks ok' still
  obtain ⟨store, same⟩ := effect_inStore ok fixed
  obtain ⟨store', same'⟩ := effect_inStore ok' fixed
  refine mirrors.go moves moves' old old'
    ⟨(effect_lawful mirrors.sound ok).sound, (effect_lawful mirrors.sound' ok').sound⟩ ?_ ?_
    (fun _ own => own) (fun _ _ => rfl) ?_ ?_ ?_
  · rw [same, same']
    exact ⟨rfl, rfl⟩
  · rw [same, same']
    exact ⟨rfl, rfl⟩
  · intro id old apart
    by_cases hit : id = own
    · subst hit
      exact twins.cursor
    · have shares := mirrors.store.shares
      have there := List.getElem?_eq_getElem (Nat.lt_of_lt_of_le old shares.cursors)
      rw [moves.spares.cursors id _ (fun touched => hit (touches id touched)) there]
      refine moves'.spares.cursors id _ (fun touched => hit (touches' id touched)) ?_
      exact (mirrors.store.cursors id old apart).trans there
  · rw [walks, walks']
    exact mirrors.store.walks
  · intro on named
    have kept := mirrors.registers_kept (.of_moves moves old) (.of_moves moves' old')
      (fun _ own => own) (fun _ _ => rfl) named
    rw [same, same'] at kept ⊢
    exact kept

end Asked

section Started

theorem Walk.Avoids.mono {walk : Walk} (avoids : walk.Avoids other mine) (wider : mine ⊆ mine') :
    walk.Avoids other mine' := by
  cases walk with
  | waiting source =>
    cases source with
    | units cursor => exact avoids
    | lines window separator => trivial
  | streams cursors place => exact avoids
  | values rest => exact fun value member => (avoids value member).mono wider
  | _ => trivial

theorem Walk.rename_agree {walk : Walk} (avoids : walk.Avoids other mine)
    (agree : ∀ id ∈ mine, names id = names' id) : walk.rename names = walk.rename names' := by
  cases walk with
  | values rest =>
    exact congrArg Walk.values (List.map_congr_left fun value member => (avoids value member).agree agree)
  | _ => rfl

/-- Numbers for one more walk, those of all the others being as they were. -/
theorem numbered_anew (names : Equiv.Perm Nat) {new new' : Nat} (mine : Set Nat)
    (below : ∀ id ∈ mine, id ≠ new ∧ names id ≠ new') :
    ∃ names' : Equiv.Perm Nat, names' new = new' ∧ ∀ id ∈ mine, names id = names' id := by
  refine ⟨(Equiv.swap new (names.symm new')).trans names, ?_, fun id own => ?_⟩
  · rw [Equiv.trans_apply, Equiv.swap_apply_left, Equiv.apply_symm_apply]
  · obtain ⟨fresh, fresh'⟩ := below id own
    rw [Equiv.trans_apply, Equiv.swap_apply_of_ne_of_ne fresh]
    rintro rfl
    exact fresh' (names.apply_symm_apply new')

theorem Mirrors.startWalk (mirrors : base.Mirrors other mine names used here there)
    (known : own < base.store.cursors.length) (apart : own ≠ other) :
    ∃ names' : Equiv.Perm Nat, names' here.store.walks.length = there.store.walks.length ∧
      (∀ id ∈ mine, names id = names' id) ∧
      base.Mirrors other (insert here.store.walks.length mine) names' used
        (here.startWalk (.waiting (.units own))).session
        (there.startWalk (.waiting (.units own))).session := by
  have below (id : Nat) (mem : id ∈ mine) :
      id ≠ here.store.walks.length ∧ names id ≠ there.store.walks.length := by
    obtain ⟨walk, found, found', -⟩ := mirrors.store.walks id mem
    have reach := (List.getElem?_eq_some_iff.mp found).1
    have reach' := (List.getElem?_eq_some_iff.mp found').1
    omega
  obtain ⟨names', new, agree⟩ := numbered_anew names mine below
  have shares := mirrors.store.shares
  have guards : here.store.Guards (.waiting (.units own)) := Nat.lt_of_lt_of_le known shares.cursors
  have guards' : there.store.Guards (.waiting (.units own)) :=
    Nat.lt_of_lt_of_le known shares.cursors'
  have moves : here.store.Moves (fun _ => False) _ := Store.addWalk_moves mirrors.sound.store guards
  have moves' : there.store.Moves (fun _ => False) _ :=
    Store.addWalk_moves mirrors.sound'.store guards'
  refine ⟨names', new, agree, mirrors.go moves moves' nofun nofun
    ⟨mirrors.sound.move moves, mirrors.sound'.move moves'⟩ ⟨rfl, rfl⟩ ⟨rfl, rfl⟩
    (fun _ mem => .inr mem) agree mirrors.store.cursors ?_ ?_⟩
  · rintro id (rfl | mem)
    · rw [new]
      exact ⟨_, List.getElem?_concat_length, List.getElem?_concat_length, known, apart⟩
    · obtain ⟨walk, found, found', guards, avoids⟩ := mirrors.store.walks id mem
      refine ⟨walk, Store.getElem?_addWalk found, ?_, guards, avoids.mono fun _ mem => .inr mem⟩
      rw [← agree id mem, ← Walk.rename_agree avoids agree]
      exact Store.getElem?_addWalk found'
  · intro on named
    exact mirrors.registers_kept (.of_moves moves nofun) (.of_moves moves' nofun)
      (fun _ mem => .inr mem) agree named

end Started

section Acts

variable {session : Session} {command : Command}

theorem OperatesOn.events (asks : session.OperatesOn own command) (other : Session) :
    other.events command = [] := by
  cases command with
  | setConfig fields => cases asks
  | pushConfig scope fields => cases asks
  | _ => rfl

theorem OperatesOn.receiving (asks : session.OperatesOn own command) :
    session.receiving? command = (receiver? command).map fun _ => .stream own := by
  cases command with
  | create arguments => rfl
  | append on code => exact asks.elim
  | setConfig fields => rfl
  | resetConfig => rfl
  | readConfig => rfl
  | pushConfig scope fields => rfl
  | popConfig scope => rfl
  | setPlatform platform => rfl
  | _ => exact asks

variable (sound : base.store.Sound) (known : own < base.store.cursors.length) (apart : own ≠ other)

include sound known apart in
theorem Mirrors.window (mirrors : base.Mirrors other mine names used here' there')
    (asks : here.OperatesOn own command) (asks' : there.OperatesOn own command) :
    there'.window? (there.receiving? command) = here'.window? (here.receiving? command) := by
  rw [asks.receiving, asks'.receiving]
  cases receiver? command with
  | none => rfl
  | some on =>
    have same := (own_same sound mirrors known apart).1
    exact congrArg (Option.map fun stream => (Value.startOf stream, Value.stopOf stream)) same

include sound known apart in
theorem Mirrors.halted (mirrors : base.Mirrors other mine names used here there)
    (asks : here.OperatesOn own command) (asks' : there.OperatesOn own command)
    (names_used : ∀ on ∈ command.names, on ∈ used)
    (plain : ∀ value ∈ literalsAmong command.terms, value.Within ∅) :
    base.Mirrors other mine names used (here.halted command) (there.halted command) := by
  unfold Session.halted
  split
  · rename_i on arguments
    have front : here.OperatesOn own (.call on .trimFront arguments) := asks
    have front' : there.OperatesOn own (.call on .trimFront arguments) := asks'
    have agree := effect_twins sound mirrors known apart front' names_used plain nofun
    change Agree Eq _ (here.call on .trimFront arguments) (there.call on .trimFront arguments)
      at agree
    rcases agree.either with ⟨fault, fault', called, called', -⟩ |
      ⟨done, done', called, called', twins⟩
    · rw [called, called']
      exact mirrors
    · rw [called, called']
      exact mirrors.effect known front front' nofun called called' twins
  · exact mirrors

include sound known apart in
/-- What like effects come to once the walks that they went through are ended and what they gave
is kept. -/
theorem act_done_lockstep {done done' : Effect}
    (mirrors : base.Mirrors other mine' names' used done.session done'.session)
    (asks : here.OperatesOn own command) (asks' : there.OperatesOn own command)
    (ok : here.effect command = .ok done) (ok' : there.effect command = .ok done')
    (knows : done.session.store.Knows done.kept) (knows' : done'.session.store.Knows done'.kept)
    (twin : Twin base.store other mine' names' done.session.store done'.session.store done.kept
      done'.kept)
    (result : done'.result = done.result.rename names')
    (within : ∀ names, Fixes mine' names → done.result.rename names = done.result)
    (walks : there.walksUsed command = (here.walksUsed command).map names') (name : Option String) :
    base.Mirrors other mine' names' used (here.act command name).1 (there.act command name).1 ∧
      (here.act command name).2.Within mine' ∧
      (there.act command name).2 = (here.act command name).2.rename names' := by
  have carries := finish_carries base.store mirrors.sound.store (here.walksUsed command)
  have carries' := finish_carries base.store mirrors.sound'.store
    ((here.walksUsed command).map names')
  have kept : Twin base.store other mine' names' _ _ done.kept done'.kept :=
    twin.carry carries carries' (fun _ own => own) fun _ _ => rfl
  have moves := finish_moves mirrors.sound.store (here.walksUsed command)
  have moves' := finish_moves mirrors.sound'.store ((here.walksUsed command).map names')
  have left := (mirrors.finish (here.walksUsed command)).keep name
    (knows.extends moves.onward) (knows'.extends moves'.onward) kept
  rw [act_done ok, act_done ok', walks]
  refine ⟨left, fun names fixes => ?_, ?_⟩
  · exact congrArg (fun result => Answer.act (.ok result) _ _) (within names fixes)
  · dsimp only
    rw [asks.events, asks'.events, left.window sound known apart asks asks', result]
    rfl

include sound known apart in
/-- One operation of a party: it gets the same answer in both sessions, and they mirror each other
afterwards. -/
theorem act_lockstep (mirrors : base.Mirrors other mine names used here there)
    (asks' : there.OperatesOn own command) (names_used : ∀ on ∈ command.names, on ∈ used)
    (plain : ∀ value ∈ literalsAmong command.terms, value.Within ∅) (name : Option String) :
    ∃ mine' names', mine ⊆ mine' ∧ (∀ id ∈ mine', id ∈ mine ∨ here.store.walks.length ≤ id) ∧
      (∀ id ∈ mine, names id = names' id) ∧
      base.Mirrors other mine' names' used (here.act command name).1 (there.act command name).1 ∧
      (here.act command name).2.Within mine' ∧
      (there.act command name).2 = (here.act command name).2.rename names' := by
  have asks := mirrors.operates known asks' names_used
  obtain ⟨walks, -⟩ := walksUsed_twins sound mirrors known apart asks' names_used plain
  by_cases starts : ∃ on, command = .walk on
  · obtain ⟨on, rfl⟩ := starts
    obtain ⟨names', new, agree, started⟩ := mirrors.startWalk known apart
    have ok (session : Session) (held : session.registers.lookup on = some (.stream own)) :
        session.effect (.walk on) = .ok (session.startWalk (.waiting (.units own))) := by
      unfold Session.effect Session.walk
      dsimp only
      rw [lookup_of_held held]
      rfl
    refine ⟨insert here.store.walks.length mine, names', fun _ own => .inr own, ?_, agree, ?_⟩
    · rintro id (rfl | old)
      · exact .inr (Nat.le_refl _)
      · exact .inl old
    · have own : here.store.walks.length ∈ insert here.store.walks.length mine := .inl rfl
      have twin (first second : Store) :
          Twin base.store other (insert here.store.walks.length mine) names' first second
            (.walk here.store.walks.length) (.walk there.store.walks.length) := by
        rw [← new]
        exact .walk own
      exact act_done_lockstep sound known apart started asks asks' (ok here asks) (ok there asks')
        (effect_lawful mirrors.sound (ok here asks)).known
        (effect_lawful mirrors.sound' (ok there asks')).known (twin _ _) rfl (fun _ _ => rfl) rfl name
  · have still (on : String) : command ≠ .walk on := fun same => starts ⟨on, same⟩
    have agree := effect_twins sound mirrors known apart asks' names_used plain still
    refine ⟨mine, names, fun _ own => own, fun _ own => .inl own, fun _ _ => rfl, ?_⟩
    rcases agree.either with ⟨fault, _, effected, effected', rfl⟩ |
      ⟨done, done', effected, effected', twins⟩
    · have halted := mirrors.halted sound known apart asks asks' names_used plain
      rw [act_fault effected, act_fault effected', walks,
        halted.window sound known apart asks asks']
      exact ⟨halted.finish _, fun _ _ => rfl, rfl⟩
    · have after := mirrors.effect known asks asks' still effected effected' twins
      exact act_done_lockstep sound known apart after asks asks' effected effected'
        (effect_lawful mirrors.sound effected).known (effect_lawful mirrors.sound' effected').known
        twins.kept twins.result twins.within walks name

end Acts

end Steps

end TextScan.Session
