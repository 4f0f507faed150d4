import TextScan.Proofs.Grounds

namespace TextScan.Session

variable {session : Session} {store before middle after : Store} {id : Nat} {object : Object}
  {window : Cursor} {ground : Ground}

variable {done : Effect} {command : Command}

/-- What is cut from something stands on what that stands on. -/
theorem Effect.Steady.ties (steady : done.Steady session (some object)) (sound : session.Sound)
    (known : session.store.Knows object) (isCut : object.isCut = true)
    (kept : done.kept.isCut = true) (still : ∀ walk, done.kept ≠ .walk walk)
    (ties : session.store.Ties id object) : done.session.store.Ties id done.kept := by
  intro ground member
  obtain ⟨inner, goes, rfl⟩ := Store.window_of_ground kept still member
  obtain ⟨outer, there, inside⟩ := (steady.cut object rfl isCut).kept inner goes
  have holds := known.windows_hold sound.store there
  rw [inside.ground, Store.Grows.holds steady.moves.onward.toGrows holds.known]
  exact ties outer.ground (Store.ground_of_window there)

/-- What a view of memory stands on is that view. -/
theorem ties_buffer {other : Nat} (viewed : store.viewHolds id other = true) :
    store.Ties id (.buffer other) := by
  intro ground member
  cases List.mem_singleton.mp member
  exact viewed

theorem addBuffer_memory {holding : Holding} (memory : holding.buffer.backing.isMemory = true) :
    store.addBuffer holding =
      ({ store with holdings := store.holdings ++ [holding] }, store.holdings.length) := by
  have common : Store.isUnique holding.buffer = false := by
    unfold Backing.isMemory at memory
    unfold Store.isUnique
    split at memory
    · rename_i same
      rw [same]
    · cases memory
  unfold Store.addBuffer
  rw [common]
  rfl

/-- A view of a part of a buffer shows the memory that the buffer does. -/
theorem answerContent_ties {other : Nat} (owner : session.store.exporter other = id)
    (value : Value) :
    let done := session.answerContent other value
    done.session.store.isView done.kept = true → done.session.store.Ties id done.kept := by
  unfold answerContent
  split
  · rename_i content _
    unfold holdContent
    dsimp only
    split
    · -- a text or byte string that is itself shows no memory
      rename_i whole
      intro view
      have own := (Bool.and_eq_true_iff.mp whole).1
      have memory : (session.store.buffer other).backing.isMemory = true := view
      generalize (session.store.buffer other).backing = backing at own memory
      cases backing with
      | memory format unit readable => simp at own
      | _ => cases memory
    · obtain ⟨backing, units, bounded⟩ := content
      intro view
      cases backing with
      | memory format unit readable =>
        dsimp only
        rw [addBuffer_memory rfl]
        apply ties_buffer
        simp [Store.viewHolds, owner]
      | _ =>
        have added := (session.store.addBuffer_known ⟨⟨_, units, bounded⟩, none⟩).2
        rw [Store.isView, added] at view
        cases view
  · intro done view
    cases view

/-- A walk stands on what it is started over. -/
theorem walkOver_ties (ties : session.store.Ties id object)
    (ok : session.walkOver object = .ok done) : done.session.store.Ties id done.kept := by
  have started {walk : Walk} (ties : ∀ ground ∈ session.store.walkGrounds
      (session.store.opened walk), session.store.groundHolds id ground = true) :
      (session.startWalk walk).session.store.Ties id (session.startWalk walk).kept := by
    intro ground member
    obtain ⟨part, present, stands⟩ := List.mem_flatMap.mp member
    cases List.mem_singleton.mp present
    have last : (session.store.addWalk walk).1.walks[session.store.walks.length]? = some walk :=
      List.getElem?_concat_length
    change ground ∈ (((session.store.addWalk walk).1.walks[session.store.walks.length]?).map
      _).getD [] at stands
    rw [last] at stands
    exact ties ground stands
  unfold walkOver at ok
  split at ok
  · rename_i cursor
    cases ok
    apply started
    intro ground stands
    apply ties
    unfold Store.opened at stands
    dsimp only at stands
    split at stands
    · rename_i window found
      cases List.mem_singleton.mp stands
      have goes : window ∈ session.store.windows (.stream cursor) := Option.mem_toList.mpr found
      exact Store.ground_of_window goes
    · cases stands
  · cases ok
    apply started
    intro ground stands
    apply ties
    unfold Store.opened at stands
    dsimp only at stands
    split at stands
    · exact stands
    · exact stands
  · cases ok
    exact ties
  · cases ok
    exact started ties
  · rename_i cursors
    cases ok
    apply started
    intro ground stands
    obtain ⟨window, goes, rfl⟩ := List.mem_map.mp stands
    have goes : window ∈ session.store.windows (.streams cursors) := goes
    exact ties _ (Store.ground_of_window goes)
  · dsimp only at ok
    split at ok
    · cases ok
      exact started (List.forall_mem_nil _)
    · cases ok

theorem createOver_ties {other : Nat} {values : List Value}
    (view : session.store.isView (.buffer other) = true)
    (ties : session.store.Ties id (.buffer other))
    (ok : session.createOver (.buffer other) values = .ok done) :
    done.session.store.Ties id done.kept := by
  obtain ⟨window, -, ok⟩ := bind_eq_ok.mp ok
  have free : session.pins (session.store.buffer other) = false := by
    rw [pins, Backing.isGrowable_memory view, Bool.and_false]
  cases ok
  rw [free]
  intro ground member
  obtain ⟨inner, goes, rfl⟩ := Store.window_of_ground rfl (by nofun) member
  have last : (session.store.addCursor (.ofStream other false window)).1.cursors[
      session.store.cursors.length]? = some _ := List.getElem?_concat_length
  cases last.symm.trans (Option.mem_toList.mp goes)
  exact ties ⟨other, false⟩ (List.mem_singleton_self _)

/-- What is no view of anything, in any store. -/
def Object.isBare (object : Object) : Prop := ∀ store : Store, store.isView object = false

/-- A value that refers to something is no view of it. -/
theorem isBare_made (session : Session) (value : Value) (terms : List Term) :
    (session.made value terms).isBare := by
  intro store
  unfold made Object.ofValue
  split
  · rfl
  · rfl

theorem answerFrom_cases (session : Session) (cursor : Cursor) (method : Method)
    (arguments : List Term) (value : Value) :
    let done := session.answerFrom cursor method arguments value
    (done.kept.isCut = true ∧ ∀ walk, done.kept ≠ .walk walk) ∨ done.kept.isBare ∨
      done = ⟨session, .value value, .buffer cursor.buffer⟩ ∨
      done = session.answerContent cursor.buffer value := by
  unfold answerFrom
  split
  · exact .inl ⟨rfl, nofun⟩
  · exact .inl ⟨rfl, nofun⟩
  · split
    · exact .inr (.inr (.inl rfl))
    · split
      · exact .inr (.inr (.inr rfl))
      · split
        · exact .inr (.inl (isBare_made session value arguments))
        · exact .inr (.inl fun _ => rfl)

theorem answerOther_cases (session : Session) (object : Object) (method : Method)
    (key value : Value) :
    let done := session.answerOther object method key value
    (object.isCut = true ∧ done.kept.isCut = true ∧ ∀ walk, done.kept ≠ .walk walk) ∨
      done.kept.isBare ∨ (done.session = session ∧ done.kept = object) ∨
      ∃ id, object = .buffer id ∧ done = session.answerContent id value := by
  unfold answerOther
  split
  · exact .inr (.inr (.inr ⟨_, rfl, rfl⟩))
  · exact .inr (.inr (.inr ⟨_, rfl, rfl⟩))
  · exact .inr (.inr (.inr ⟨_, rfl, rfl⟩))
  · unfold answerAmong
    split
    · split
      · exact .inl ⟨rfl, rfl, nofun⟩
      · exact .inr (.inl fun _ => rfl)
    · exact .inl ⟨rfl, rfl, nofun⟩
    · exact .inr (.inl fun _ => rfl)
  · exact .inl ⟨rfl, rfl, nofun⟩
  · exact .inr (.inr (.inl ⟨rfl, rfl⟩))
  · unfold answerList
    split
    · exact .inr (.inl fun _ => rfl)
    · exact .inr (.inl fun _ => rfl)
    · rename_i listed _
      refine .inl ⟨?_, rfl, nofun⟩
      cases object with
      | lines window separator forms => rfl
      | walk walk => rfl
      | streams cursors => rfl
      | stream cursor => rfl
      | _ => exact absurd rfl listed
  · exact .inr (.inl fun _ => rfl)

/-- What is asked of a register that holds something cut, or a view of memory. -/
theorem call_ties (sound : session.Sound) {on : String} {method : Method} {arguments : List Term}
    (held : session.registers.lookup on = some object)
    (ok : session.effect (.call on method arguments) = .ok done)
    (view : done.session.store.isView done.kept = true) (ties : session.store.Ties id object) :
    done.session.store.Ties id done.kept := by
  have steady : done.Steady session (some object) := held ▸ effect_steady sound ok nofun
  obtain ⟨own, values, found, -, cases⟩ := call_ok ok
  cases held.symm.trans (lookup_eq_ok found)
  have known := sound.lookup found
  rcases cases with ⟨cursor, window, operation, outcome, rest, rfl, there, -, -, same⟩ |
    ⟨other, answer, -, same⟩
  · have goes : window ∈ session.store.windows (.stream cursor) := Option.mem_toList.mpr there
    have stands := Store.ground_of_window goes
    have holds := ties _ stands
    cases outcome with
    | itself =>
      cases same
      exact steady.ties sound known rfl rfl (by nofun) ties
    | value value =>
      dsimp only at same
      rcases answerFrom_cases _ window method arguments value with
        ⟨cut, still⟩ | bare | memory | content
      · rw [← same] at cut still
        exact steady.ties sound known rfl cut still ties
      · rw [← same] at bare
        exact absurd (view.symm.trans (bare _)) nofun
      · rw [same, memory] at view ⊢
        apply ties_buffer
        rcases Bool.or_eq_true_iff.mp holds with pinned | viewed
        · have grows := (sound.store.holds there).growable (Bool.and_eq_true_iff.mp pinned).1
          have fixed := Backing.isGrowable_memory view
          exact absurd (grows.symm.trans fixed) nofun
        · exact viewed
      · rw [same, content] at view ⊢
        apply answerContent_ties _ value view
        exact Store.exporter_of_holds sound.store known stands holds
  · rcases answerOther_cases session object method (values.headD .null) answer with
      ⟨isCut, cut, still⟩ | bare | ⟨still, itself⟩ | ⟨buffer, rfl, content⟩
    · rw [← same] at cut still
      exact steady.ties sound known isCut cut still ties
    · rw [← same] at bare
      exact absurd (view.symm.trans (bare _)) nofun
    · rw [same, still, itself]
      exact ties
    · rw [same, content] at view ⊢
      have stands : ⟨buffer, false⟩ ∈ session.store.grounds (.buffer buffer) :=
        List.mem_singleton_self _
      apply answerContent_ties _ answer view
      exact Store.exporter_of_holds sound.store known stands (ties _ stands)

theorem advance_kept (session : Session) (id : Nat) (gives : Option (Yield × Walk)) :
    (∃ value, (session.advance id gives).kept = .value value) ∨
      ∃ cursor, (session.advance id gives).kept = .stream cursor := by
  unfold advance
  split
  · exact .inl ⟨_, rfl⟩
  · dsimp only
    split
    · exact .inl ⟨_, rfl⟩
    · exact .inr ⟨_, rfl⟩
    · exact .inr ⟨_, rfl⟩

/-- A new stream is made over what a register holds, if over anything that may be a view. -/
theorem asked_create (sound : session.Sound) {arguments : List Term} {own : Object}
    (asked : session.asked? (.create arguments) = some object)
    (held : session.sourceOf arguments = .ok own) :
    own = object ∧ session.store.Knows own := by
  cases arguments with
  | nil => cases asked
  | cons term rest =>
    refine ⟨?_, sound.hold held⟩
    cases term with
    | register name => exact Option.some.inj ((lookup_eq_ok held).symm.trans asked)
    | _ => cases asked

theorem createOver_kept {values : List Value} (ok : session.createOver object values = .ok done) :
    ∃ cursor, done.kept = .stream cursor := by
  unfold createOver at ok
  dsimp only at ok
  split at ok
  · split at ok
    · obtain ⟨window, -, ok⟩ := bind_eq_ok.mp ok
      cases ok
      exact ⟨_, rfl⟩
    · cases ok
  · obtain ⟨window, -, ok⟩ := bind_eq_ok.mp ok
    cases ok
    exact ⟨_, rfl⟩
  · obtain ⟨buffer, -, ok⟩ := bind_eq_ok.mp ok
    obtain ⟨window, -, ok⟩ := bind_eq_ok.mp ok
    cases ok
    exact ⟨_, rfl⟩

theorem Effect.Reading.isBare (reading : done.Reading session) : done.kept.isBare := by
  rcases reading.kept with ⟨value, kept⟩ | ⟨value, terms, kept⟩
  · rw [kept]
    exact fun _ => rfl
  · rw [kept]
    exact isBare_made session value terms

/-- What a command gives of something stands on what that stands on, be it the pin or the
memory. -/
theorem effect_ties (sound : session.Sound) (asked : session.asked? command = some object)
    (ok : session.effect command = .ok done) (source : session.store.isView object = true)
    (view : done.session.store.isView done.kept = true) (ties : session.store.Ties id object) :
    done.session.store.Ties id done.kept := by
  have bare {value : Value} (plain : done.kept = .value value) :
      done.session.store.Ties id done.kept := by
    rw [plain] at view
    cases view
  cases command with
  | call on method arguments => exact call_ties sound asked ok view ties
  | create arguments =>
    obtain ⟨values, -, made⟩ := bind_eq_ok.mp ok
    obtain ⟨_, -, made⟩ := bind_eq_ok.mp made
    obtain ⟨own, held, made⟩ := bind_eq_ok.mp made
    obtain ⟨rfl, known⟩ := asked_create sound asked held
    by_cases isCut : own.isCut = true
    · have steady : done.Steady session (some own) := asked ▸ effect_steady sound ok nofun
      obtain ⟨cursor, cut⟩ := createOver_kept made
      exact steady.ties sound known isCut (by rw [cut]; rfl) (by rw [cut]; nofun) ties
    · cases own with
      | buffer other => exact createOver_ties source ties made
      | value value => cases source
      | made value parts => cases source
      | _ => exact absurd rfl isCut
  | walk on =>
    obtain ⟨own, held, ok⟩ := bind_eq_ok.mp ok
    cases asked.symm.trans (lookup_eq_ok held)
    exact walkOver_ties ties ok
  | next on =>
    obtain ⟨walk, there, held, found, rfl⟩ := next_ok ok
    cases asked.symm.trans held
    have steady := advance_steady sound found
    have known : session.store.Knows (.walk walk) := (List.getElem?_eq_some_iff.mp found).1
    rcases advance_kept session walk (session.store.next? there) with ⟨value, plain⟩ | ⟨cursor, cut⟩
    · exact bare plain
    · exact steady.ties sound known rfl (by rw [cut]; rfl) (by rw [cut]; nofun) ties
  | append on code =>
    obtain ⟨found, -, ok⟩ := bind_eq_ok.mp ok
    obtain ⟨value, -, ok⟩ := bind_eq_ok.mp ok
    obtain ⟨code, fits, -, -, -, rfl⟩ := grow_ok ok
    exact bare rfl
  | compare | sameBuffer | same | withFile | properties =>
    exact absurd (view.symm.trans ((effect_reading ok rfl).isBare _)) nofun
  | _ => cases asked

end TextScan.Session
