import TextScan.Proofs.Ties

namespace TextScan.Session

/-- A walk in the place of another one, standing on nothing that the other did not. -/
structure Store.Within (store : Store) (later walk : Walk) : Prop where
  guards : store.Guards later
  grounds : ∀ ground ∈ store.walkGrounds (store.opened later),
    ground ∈ store.walkGrounds (store.opened walk)

/-- What was in a store stands on nothing new. -/
def Store.Narrows (before after : Store) : Prop :=
  ∀ part, before.KnowsPart part →
    ∀ ground ∈ after.partGrounds part, ground ∈ before.partGrounds part

variable {session : Session} {store before middle after : Store} {id : Nat} {object : Object}
  {window : Cursor} {ground : Ground}

variable {walk later : Walk} {done : Effect} {command : Command}

theorem Store.Within.refl (guards : store.Guards walk) : store.Within walk walk :=
  ⟨guards, fun _ stands => stands⟩

theorem Store.Within.finished (store : Store) (walk : Walk) : store.Within .finished walk :=
  ⟨trivial, List.forall_mem_nil _⟩

theorem Store.Narrows.refl (store : Store) : store.Narrows store := fun _ _ _ stands => stands

theorem Store.Narrows.trans (onward : before.Extends middle) (first : before.Narrows middle)
    (second : middle.Narrows after) : before.Narrows after :=
  fun part known ground stands =>
    first part known ground (second part (known.extends onward) ground stands)

theorem Store.Extends.same_ground (onward : before.Extends after) {cursor : Nat}
    (known : cursor < before.cursors.length) (found : after.cursors[cursor]? = some window) :
    ∃ former, before.cursors[cursor]? = some former ∧ former.ground = window.ground := by
  have there := List.getElem?_eq_getElem known
  obtain ⟨moved, here, inside⟩ := onward.cursors cursor _ there
  cases found.symm.trans here
  exact ⟨_, there, inside.ground.symm⟩

theorem Store.Extends.walkGrounds (onward : before.Extends after) (guards : before.Guards walk) :
    ∀ ground ∈ after.walkGrounds (after.opened walk),
      ground ∈ before.walkGrounds (before.opened walk) := by
  intro ground stands
  cases walk with
  | waiting source =>
    cases source with
    | units cursor =>
      unfold opened at stands ⊢
      dsimp only at stands ⊢
      split at stands
      · rename_i window found
        obtain ⟨former, there, same⟩ := onward.same_ground guards found
        cases List.mem_singleton.mp stands
        rw [there]
        exact same ▸ List.mem_singleton_self _
      · cases stands
    | lines window separator =>
      unfold opened at stands ⊢
      dsimp only at stands ⊢
      split at stands
      · rename_i empty
        rw [if_pos empty]
        exact stands
      · rename_i filled
        rw [if_neg filled]
        exact stands
  | streams cursors place =>
    obtain ⟨window, goes, rfl⟩ := List.mem_map.mp stands
    obtain ⟨cursor, member, found⟩ := List.mem_filterMap.mp goes
    obtain ⟨former, there, same⟩ := onward.same_ground (guards cursor member) found
    exact List.mem_map.mpr ⟨former, List.mem_filterMap.mpr ⟨cursor, member, there⟩, same⟩
  | _ => exact stands

theorem Store.Narrows.of_walks (onward : before.Extends after)
    (walks : ∀ (id : Nat) (walk : Walk), before.walks[id]? = some walk →
      ∃ later, after.walks[id]? = some later ∧ before.Within later walk) :
    before.Narrows after := by
  intro part known ground stands
  cases part with
  | stream cursor =>
    obtain ⟨window, found, rfl⟩ := List.mem_map.mp stands
    obtain ⟨former, there, same⟩ := onward.same_ground known (Option.mem_toList.mp found)
    exact List.mem_map.mpr ⟨former, Option.mem_toList.mpr there, same⟩
  | lines window => exact stands
  | buffer other => exact stands
  | walk id =>
    have there := List.getElem?_eq_getElem known
    obtain ⟨later, found, within⟩ := walks id _ there
    unfold partGrounds at stands ⊢
    dsimp only at stands ⊢
    rw [found] at stands
    rw [there]
    exact within.grounds ground (onward.walkGrounds within.guards ground stands)

theorem setWalk_narrows (sound : store.Sound) (id : Nat) :
    store.Narrows (store.setWalk id .finished) := by
  have moves : store.Moves (fun _ => True) (store.setWalk id .finished) :=
    Store.setWalk_moves sound id trivial trivial
  refine .of_walks moves.onward ?_
  intro other walk there
  by_cases same : id = other
  · subst same
    have reach := (List.getElem?_eq_some_iff.mp there).1
    exact ⟨.finished, List.getElem?_set_self reach, .finished store walk⟩
  · exact ⟨walk, (List.getElem?_set_ne same).trans there, .refl (sound.guards there)⟩

theorem finish_narrows (sound : session.store.Sound) (walks : List Nat) :
    session.store.Narrows (session.finish walks).store := by
  suffices both : session.store.Extends (session.finish walks).store ∧
      (session.finish walks).store.Sound ∧ session.store.Narrows (session.finish walks).store from
    both.2.2
  refine List.foldlRecOn walks _ (motive := fun store : Store => session.store.Extends store ∧
    store.Sound ∧ session.store.Narrows store) ⟨.refl sound, sound, .refl _⟩ ?_
  rintro store ⟨onward, sound, narrows⟩ id -
  have moves : store.Moves (fun _ => True) (store.setWalk id .finished) :=
    Store.setWalk_moves sound id trivial trivial
  exact ⟨onward.trans moves.onward, moves.sound, .trans onward narrows (setWalk_narrows sound id)⟩

/-- What is behind what a walk gives stands where the walk did. -/
theorem goOn_grounds {given : Yield} (next : store.goOn walk = some (given, later)) :
    ∀ ground ∈ store.walkGrounds later, ground ∈ store.walkGrounds walk := by
  cases walk with
  | units rest =>
    obtain ⟨code, -, same⟩ := Option.map_eq_some_iff.mp next
    cases same
    exact fun ground stands => stands
  | lines rest separator =>
    change store.nextLine rest separator = _ at next
    unfold Store.nextLine at next
    split at next
    · split at next
      · cases next
      · cases next
        exact fun ground stands => stands
    · split at next
      · cases next
        exact fun ground stands => stands
      · cases next
        exact fun ground stands => stands
  | buffer id place =>
    obtain ⟨code, -, same⟩ := Option.map_eq_some_iff.mp next
    cases same
    exact fun ground stands => stands
  | values rest =>
    cases rest with
    | nil => cases next
    | cons value rest =>
      cases next
      exact fun ground stands => stands
  | streams cursors place =>
    obtain ⟨id, -, same⟩ := Option.map_eq_some_iff.mp next
    cases same
    exact fun ground stands => stands
  | waiting source => cases next
  | passed window => cases next
  | finished => cases next

theorem effect_within (sound : session.Sound) (ok : session.effect command = .ok done)
    (there : session.store.walks[id]? = some walk) :
    ∃ later, done.session.store.walks[id]? = some later ∧ session.store.Within later walk := by
  by_cases asks : session.asksNext id command = true
  · obtain ⟨on, rfl, held⟩ := asksNext_eq asks
    obtain ⟨other, former, named, found, rfl⟩ := next_ok ok
    cases held.symm.trans named
    cases there.symm.trans found
    have reach := (List.getElem?_eq_some_iff.mp there).1
    refine ⟨((session.store.next? walk).map Prod.snd).getD .finished, ?_, ?_⟩
    · rw [(advance_walks session id _).2, List.getElem?_set_self reach]
    · cases next : session.store.next? walk with
      | none => exact .finished session.store walk
      | some gives =>
        obtain ⟨given, later⟩ := gives
        have guards := Store.opened_guards sound.store (sound.store.guards there)
        have gives := Store.goOn_gives sound.store guards next
        refine ⟨gives.guards, ?_⟩
        change ∀ ground ∈ session.store.walkGrounds (session.store.opened later), _
        rw [Store.opened_underway gives.underway]
        exact goOn_grounds next
  · exact ⟨walk, effect_walks ok asks there, .refl (sound.store.guards there)⟩

theorem effect_narrows (sound : session.Sound) (ok : session.effect command = .ok done) :
    session.store.Narrows done.session.store :=
  .of_walks (effect_lawful sound ok).onward fun _ _ there => effect_within sound ok there

theorem halted_narrows (sound : session.Sound) (command : Command) :
    session.store.Narrows (session.halted command).store := by
  rcases halted_cases session command with same | ⟨on, arguments, done, rfl, trimmed, same⟩
  · rw [same]
    exact .refl session.store
  · rw [same]
    have trimmed : session.effect (.call on .trimFront arguments) = .ok done := trimmed
    exact effect_narrows sound trimmed

/-- A command leaves everything where it stood, or lets go of it. -/
theorem act_narrows (sound : session.Sound) (command : Command) (name : Option String) :
    session.store.Narrows (session.act command name).1.store := by
  cases effected : session.effect command with
  | error fault =>
    obtain ⟨moved, log, acted⟩ := act_error effected name
    obtain ⟨halted, onward, -⟩ := halted_lawful sound command
    rw [acted]
    exact .trans onward (halted_narrows sound command) (finish_narrows halted.store _)
  | ok done =>
    obtain ⟨moved, log, acted⟩ := act_ok effected name
    have lawful := effect_lawful sound effected
    rw [acted, kept_store]
    exact .trans lawful.onward (effect_narrows sound effected) (finish_narrows lawful.sound.store _)

mutual

theorem step_narrows {session : Session} (sound : session.Sound) (step : Step) :
    session.store.Narrows (session.step step).1.store := by
  cases step with
  | act command name =>
    rw [step_act]
    exact act_narrows sound command name
  | fork fresh steps =>
    rw [step_fork]
    exact run_narrows (sound.forked fresh) steps

theorem run_narrows {session : Session} (sound : session.Sound) (steps : List Step) :
    session.store.Narrows (session.run steps).1.store := by
  cases steps with
  | nil =>
    rw [run]
    exact .refl session.store
  | cons first rest =>
    rw [run_cons]
    obtain ⟨-, still, onward⟩ := step_lawful sound first
    exact .trans onward (step_narrows sound first) (run_narrows still rest)

end

end TextScan.Session
