import TextScan.Proofs.Answering

namespace TextScan.Session

open Scan

variable {session after : Session}

/-- A store into which what a walk gives was put: nothing that was there has moved, the cursors
that are new are lines among what was given, and what is named was given. -/
structure Store.Gathered (store : Store) (yields : List Yield) (after : Store) (ids : List Nat) :
    Prop where
  moves : store.Moves (fun _ => False) after
  known : ∀ id ∈ ids, id < after.cursors.length
  fresh : ∀ (id : Nat) (cursor : Cursor), store.cursors.length ≤ id →
    after.cursors[id]? = some cursor → .line cursor ∈ yields
  named : ∀ window ∈ after.windowsAt ids, ∃ given ∈ yields, store.yieldWindow? given = some window

namespace Store.Gathered

variable {store after : Store} {yields : List Yield} {ids : List Nat}

theorem nil (sound : store.Sound) : store.Gathered [] store [] where
  moves := .refl sound
  known := List.forall_mem_nil _
  fresh _ _ new there :=
    absurd (List.getElem?_eq_some_iff.mp there).1 (Nat.not_lt.mpr new)
  named := List.forall_mem_nil _

theorem skip (gathered : store.Gathered yields after ids) (given : Yield) :
    store.Gathered (given :: yields) after ids where
  moves := gathered.moves
  known := gathered.known
  fresh id cursor new there := .tail _ (gathered.fresh id cursor new there)
  named window member := by
    obtain ⟨given, present, same⟩ := gathered.named window member
    exact ⟨given, .tail _ present, same⟩

theorem stream (gathered : store.Gathered yields after ids) {id : Nat}
    (own : id < store.cursors.length) :
    store.Gathered (.stream id :: yields) after (id :: ids) where
  moves := gathered.moves
  known := by
    rw [List.forall_mem_cons]
    exact ⟨Nat.lt_of_lt_of_le own gathered.moves.onward.cursor_count, gathered.known⟩
  fresh := (gathered.skip _).fresh
  named window member := by
    obtain ⟨other, present, found⟩ := List.mem_filterMap.mp member
    rcases List.mem_cons.mp present with rfl | present
    · have there := List.getElem?_eq_getElem own
      have still := gathered.moves.spares.cursors other _ not_false there
      exact ⟨.stream other, .head _, there.trans (still.symm.trans found)⟩
    · exact (gathered.skip _).named window (List.mem_filterMap.mpr ⟨other, present, found⟩)

theorem line {window : Cursor} (sound : store.Sound) (holds : store.Holds window)
    (streams : ∀ id, .stream id ∈ yields → id < store.cursors.length)
    (gathered : (store.addCursor window).1.Gathered yields after ids) :
    store.Gathered (.line window :: yields) after (store.cursors.length :: ids) := by
  have last : (store.addCursor window).1.cursors[store.cursors.length]? = some window :=
    List.getElem?_concat_length
  have still := gathered.moves.spares.cursors _ _ not_false last
  constructor
  case moves => exact (Store.addCursor_moves sound holds).trans gathered.moves
  case known =>
    rw [List.forall_mem_cons]
    exact ⟨(List.getElem?_eq_some_iff.mp still).1, gathered.known⟩
  case fresh =>
    intro id cursor new there
    rcases Nat.eq_or_lt_of_le new with rfl | beyond
    · cases still.symm.trans there
      exact .head _
    · apply List.Mem.tail
      apply gathered.fresh id cursor _ there
      rw [Store.addCursor, List.length_append, List.length_singleton]
      exact beyond
  case named =>
    intro inner member
    obtain ⟨other, present, found⟩ := List.mem_filterMap.mp member
    rcases List.mem_cons.mp present with rfl | present
    · cases still.symm.trans found
      exact ⟨.line window, .head _, rfl⟩
    obtain ⟨given, present, same⟩ :=
      gathered.named inner (List.mem_filterMap.mpr ⟨other, present, found⟩)
    refine ⟨given, .tail _ present, ?_⟩
    -- A stream among what was given was there before the line, and has not moved.
    cases given with
    | value value => cases same
    | line cut => exact same
    | stream id =>
      have own := List.getElem?_eq_getElem (streams id present)
      exact own.trans ((Store.getElem?_addCursor own).symm.trans same)

end Store.Gathered

/-- Lines that are put into the store lie in it, and what is named with them was given. -/
theorem gather_gathered {store : Store} (sound : store.Sound) (yields : List Yield)
    (lines : ∀ window, .line window ∈ yields → store.Holds window)
    (streams : ∀ id, .stream id ∈ yields → id < store.cursors.length) :
    store.Gathered yields (store.gather yields).1 (store.gather yields).2 := by
  induction yields generalizing store with
  | nil => exact .nil sound
  | cons given rest later =>
    have restLines (window : Cursor) (member : .line window ∈ rest) :=
      lines window (.tail _ member)
    have restStreams (id : Nat) (member : .stream id ∈ rest) := streams id (.tail _ member)
    cases given with
    | value value => exact (later sound restLines restStreams).skip _
    | stream id => exact (later sound restLines restStreams).stream (streams id (.head _))
    | line window =>
      have holds := lines window (.head _)
      have added : store.Moves (fun _ => False) (store.addCursor window).1 :=
        Store.addCursor_moves sound holds
      apply Store.Gathered.line sound holds restStreams
      apply later added.sound
      · exact fun cut member => (restLines cut member).extends added.onward
      · exact fun id member =>
          Nat.lt_of_lt_of_le (restStreams id member) added.onward.cursor_count

/-- What a walk over something would give comes out of the windows of that. -/
theorem yields_within (sound : session.Sound) {object : Object}
    (known : session.store.Knows object) {given : Yield} (member : given ∈ session.yields object)
    {window : Cursor} (same : session.store.yieldWindow? given = some window) :
    ∃ outer ∈ session.store.windows object, window.Inside outer := by
  cases object with
  | lines own separator forms =>
    have guards : session.store.Guards (.waiting (.lines own separator)) := known
    have opened := Store.opened_guards sound.store guards
    have goes : (session.store.opened (.waiting (.lines own separator))).window? = some own := by
      unfold Store.opened
      dsimp only
      split
      · rfl
      · rfl
    have within := Store.remaining_within sound.store opened member same
    rwa [Store.walkWindows_of_window goes] at within
  | walk id =>
    have there := List.getElem?_eq_getElem known
    have opened := Store.opened_guards sound.store (sound.store.guards there)
    rw [Store.windows_walk there]
    unfold yields at member
    dsimp only at member
    rw [there] at member
    exact Store.remaining_within sound.store opened member same
  | streams cursors =>
    obtain ⟨id, present, rfl⟩ := List.mem_map.mp member
    have there : window ∈ session.store.windowsAt cursors :=
      List.mem_filterMap.mpr ⟨id, present, same⟩
    exact ⟨window, there, sound.store.windowsAt_inside there⟩
  | _ => cases member

theorem yields_stream (sound : session.Sound) {object : Object}
    (known : session.store.Knows object) {id : Nat}
    (member : .stream id ∈ session.yields object) : id < session.store.cursors.length := by
  have listed {walk : Walk} (guards : session.store.Guards walk)
      (left : .stream id ∈ session.store.remaining walk) : id < session.store.cursors.length := by
    cases walk with
    | streams cursors place =>
      obtain ⟨other, present, same⟩ := List.mem_map.mp left
      cases same
      exact guards id (List.mem_of_mem_drop present)
    | units rest =>
      obtain ⟨code, -, same⟩ := List.mem_map.mp left
      cases same
    | lines rest separator =>
      obtain ⟨piece, -, same⟩ := List.mem_map.mp left
      cases same
    | buffer buffer place =>
      obtain ⟨code, -, same⟩ := List.mem_map.mp left
      cases same
    | values rest =>
      obtain ⟨value, -, same⟩ := List.mem_map.mp left
      cases same
    | _ => cases left
  cases object with
  | lines own separator forms =>
    have guards : session.store.Guards (.waiting (.lines own separator)) := known
    exact listed (Store.opened_guards sound.store guards) member
  | walk walk =>
    have there := List.getElem?_eq_getElem known
    unfold yields at member
    dsimp only at member
    rw [there] at member
    exact listed (Store.opened_guards sound.store (sound.store.guards there)) member
  | streams cursors =>
    obtain ⟨other, present, same⟩ := List.mem_map.mp member
    cases same
    exact known id present
  | _ => cases member

section Other

variable {object : Object} {value : Value}

theorem shown_of_asked (shown : ∀ window, session.store.windowOf? object = some window →
      ∀ piece ∈ value.streams, session.store.Shows window piece) :
    ∀ asked window, some object = some asked → session.store.windowOf? asked = some window →
      ∀ piece ∈ value.streams, session.store.Shows window piece := by
  rintro asked window ⟨⟩
  exact shown window

theorem answerList_steady (sound : session.Sound) (known : session.store.Knows object)
    (shown : ∀ window, session.store.windowOf? object = some window →
      ∀ piece ∈ value.streams, session.store.Shows window piece) :
    (session.answerList value (session.yields object)).Steady session (some object) := by
  have shown' := shown_of_asked shown
  have plain : (session.answer value).Steady session (some object) := by
    refine steady_of_bare sound (.refl sound.store) rfl ?_ rfl shown'
    trivial
  unfold answerList
  split
  · exact plain
  · exact plain
  · have holds (window : Cursor) (member : .line window ∈ session.yields object) :
        session.store.Holds window := by
      obtain ⟨outer, present, inside⟩ := yields_within sound known member rfl
      exact (known.windows_hold sound.store present).of_inside inside
    have gathered := gather_gathered sound.store (session.yields object) holds
      fun id => yields_stream sound known
    have wider : session.store.Moves (some object = some ·) _ :=
      gathered.moves.mono fun _ => False.elim
    refine ⟨sound.move wider, wider, gathered.known, ?_, shown'⟩
    rintro asked ⟨⟩ -
    refine ⟨?_, ?_⟩
    · intro id cursor new found
      exact yields_within sound known (gathered.fresh id cursor new found) rfl
    · intro inner member
      obtain ⟨given, present, same⟩ := gathered.named inner member
      exact yields_within sound known present same

theorem answerAmong_steady (sound : session.Sound) {cursors : List Nat}
    (known : session.store.Knows (.streams cursors)) (key : Value) :
    (session.answerAmong cursors key value).Steady session (some (.streams cursors)) := by
  have shown : ∀ asked window, some (Object.streams cursors) = some asked →
      session.store.windowOf? asked = some window →
      ∀ piece ∈ value.streams, session.store.Shows window piece := by
    rintro asked window ⟨⟩ found
    cases found
  have plain : (session.answer value).Steady session (some (.streams cursors)) := by
    refine steady_of_bare sound (.refl sound.store) rfl ?_ rfl shown
    trivial
  unfold answerAmong
  split
  · split
    · rename_i id found
      have member := List.mem_of_getElem? found
      refine steady_of_kept sound (.refl sound.store) rfl (known id member) ?_ shown
      rintro asked ⟨⟩ - inner there
      have present : inner ∈ session.store.windowsAt cursors :=
        List.mem_filterMap.mpr ⟨id, member, Option.mem_toList.mp there⟩
      exact ⟨inner, present, sound.store.windowsAt_inside present⟩
    · exact plain
  · rename_i offsets _
    have picked {id : Nat} (member : id ∈ Value.pick cursors offsets) : id ∈ cursors := by
      obtain ⟨offset, -, found⟩ := List.mem_filterMap.mp member
      exact List.mem_of_getElem? found
    refine steady_of_kept sound (.refl sound.store) rfl (fun id member => known id (picked member))
      ?_ shown
    rintro asked ⟨⟩ - inner there
    obtain ⟨id, member, found⟩ := List.mem_filterMap.mp there
    have present : inner ∈ session.store.windowsAt cursors :=
      List.mem_filterMap.mpr ⟨id, picked member, found⟩
    exact ⟨inner, present, sound.store.windowsAt_inside present⟩
  · exact plain

/-- What was asked of anything but a stream, as a result and as what may be kept. -/
theorem answerOther_steady (sound : session.Sound) (known : session.store.Knows object)
    (method : Method) (key : Value)
    (shown : ∀ window, session.store.windowOf? object = some window →
      ∀ piece ∈ value.streams, session.store.Shows window piece) :
    (session.answerOther object method key value).Steady session (some object) := by
  have shown' := shown_of_asked shown
  unfold answerOther
  split
  · exact answerContent_steady sound (.refl sound.store) rfl known shown'
  · exact answerContent_steady sound (.refl sound.store) rfl known shown'
  · exact answerContent_steady sound (.refl sound.store) rfl known shown'
  · exact answerAmong_steady sound known key
  · exact named_steady sound known shown
  · exact named_steady sound known shown
  · exact answerList_steady sound known shown
  · refine steady_of_bare sound (.refl sound.store) rfl ?_ rfl shown'
    trivial

end Other

theorem call_stream_steady (sound : session.Sound) {id : Nat} {cursor : Cursor}
    (found : session.store.cursors[id]? = some cursor) (method : Method) (arguments : List Term)
    {operation : Operation} {outcome : Outcome} {rest : Stream}
    (done : (session.store.stream cursor).perform session.environment operation =
      .ok (outcome, rest)) :
    let moved := { session with
      store := session.store.setCursor id (.ofStream cursor.buffer cursor.pinned rest) }
    match outcome with
    | .itself => Effect.Steady session (some (.stream id)) ⟨moved, .itself, .stream id⟩
    | .value value =>
      (moved.answerFrom cursor method arguments value).Steady session (some (.stream id)) := by
  have holds := sound.store.holds found
  obtain ⟨⟨span, left⟩, answers⟩ := holds.valid.perform_windows done
  have inside : (Cursor.ofStream cursor.buffer cursor.pinned rest).Inside cursor :=
    (holds.shows left).inside
  have moves : session.store.Moves (some (.stream id) = some ·) _ :=
    Store.setCursor_moves sound.store found inside rfl
  cases outcome with
  | itself =>
    have reach := (List.getElem?_eq_some_iff.mp found).1
    refine steady_of_kept (sound.move moves) moves List.length_set ?_ ?_ (shown_plain rfl)
    · exact Nat.lt_of_lt_of_le reach moves.onward.cursor_count
    · rintro object ⟨⟩ - inner there
      cases (List.getElem?_set_self reach).symm.trans (Option.mem_toList.mp there)
      exact ⟨cursor, Option.mem_toList.mpr found, inside⟩
  | value value => exact answerFrom_steady sound found inside (answers value rfl)

/-- A call that succeeds performs an operation on a stream, or asks something else. -/
theorem call_ok {on : String} {method : Method} {arguments : List Term} {done : Effect}
    (ok : session.call on method arguments = .ok done) :
    ∃ object values, session.lookup on = .ok object ∧ session.evalMany arguments = .ok values ∧
      ((∃ id cursor operation outcome rest, object = .stream id ∧
          session.store.cursors[id]? = some cursor ∧ method.bind values = .ok operation ∧
          (session.store.stream cursor).perform session.environment operation =
            .ok (outcome, rest) ∧
          let moved := { session with
            store := session.store.setCursor id (.ofStream cursor.buffer cursor.pinned rest) }
          done = match outcome with
            | .itself => ⟨moved, .itself, .stream id⟩
            | .value value => moved.answerFrom cursor method arguments value) ∨
        (∀ id, object ≠ .stream id) ∧
          ∃ answer, askWith (session.valueOf object) method values = .ok answer ∧
            done = session.answerOther object method (values.headD .null) answer) := by
  obtain ⟨object, held, ok⟩ := bind_eq_ok.mp ok
  obtain ⟨values, read, ok⟩ := bind_eq_ok.mp ok
  refine ⟨object, values, held, read, ?_⟩
  cases object with
  | stream id =>
    dsimp only at ok
    cases found : session.store.cursors[id]? with
    | none =>
      rw [found] at ok
      cases ok
    | some cursor =>
      rw [found] at ok
      obtain ⟨operation, bound, ok⟩ := bind_eq_ok.mp ok
      obtain ⟨⟨outcome, rest⟩, performed, ok⟩ := bind_eq_ok.mp ok
      refine .inl ⟨id, cursor, operation, outcome, rest, rfl, found, bound, performed, ?_⟩
      cases outcome with
      | itself =>
        cases ok
        rfl
      | value value =>
        cases ok
        rfl
  | _ =>
    obtain ⟨answer, asked, ok⟩ := bind_eq_ok.mp ok
    cases ok
    exact .inr ⟨nofun, answer, asked, rfl⟩

theorem call_steady (sound : session.Sound) {on : String} {method : Method}
    {arguments : List Term} {done : Effect} (ok : session.call on method arguments = .ok done) :
    done.Steady session (session.asked? (.call on method arguments)) := by
  obtain ⟨object, values, held, -, cases⟩ := call_ok ok
  have asked : session.asked? (.call on method arguments) = some object := lookup_eq_ok held
  have known := sound.lookup held
  rw [asked]
  rcases cases with ⟨id, cursor, operation, outcome, rest, rfl, found, -, performed, rfl⟩ |
    ⟨other, answer, answered, rfl⟩
  · have steady := call_stream_steady sound found method arguments performed
    cases outcome with
    | itself => exact steady
    | value value => exact steady
  · exact answerOther_steady sound known method _ fun window found =>
      asked_shows sound known found other answered

end TextScan.Session
