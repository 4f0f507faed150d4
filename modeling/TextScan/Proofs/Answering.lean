import TextScan.Proofs.SessionInvariant

namespace TextScan.Session

open Scan

variable {session after : Session}

section Kept

variable {asked : Option Object}

/-- An effect that makes no cursor is judged by what it keeps and what it shows. -/
theorem steady_of_kept (moved : after.Sound)
    (moves : session.store.Moves (asked = some ·) after.store)
    (count : after.store.cursors.length = session.store.cursors.length) {result : Result}
    {kept : Object} (known : after.store.Knows kept)
    (inside : ∀ object, asked = some object → object.isCut = true →
      ∀ inner ∈ after.store.windows kept, ∃ outer ∈ session.store.windows object,
        inner.Inside outer)
    (shown : ∀ object window, asked = some object →
      session.store.windowOf? object = some window →
      ∀ piece ∈ result.streams, session.store.Shows window piece) :
    Effect.Steady session asked ⟨after, result, kept⟩ := by
  refine ⟨moved, moves, known, ?_, shown⟩
  intro object same isCut
  refine ⟨?_, inside object same isCut⟩
  intro id cursor new there
  have reach := (List.getElem?_eq_some_iff.mp there).1
  exact absurd (Nat.lt_of_lt_of_le reach (Nat.le_of_eq count)) (Nat.not_lt.mpr new)

/-- What is kept as a value or as a buffer goes over no window. -/
theorem steady_of_bare (moved : after.Sound)
    (moves : session.store.Moves (asked = some ·) after.store)
    (count : after.store.cursors.length = session.store.cursors.length) {result : Result}
    {kept : Object} (known : after.store.Knows kept) (none : after.store.windows kept = [])
    (shown : ∀ object window, asked = some object →
      session.store.windowOf? object = some window →
      ∀ piece ∈ result.streams, session.store.Shows window piece) :
    Effect.Steady session asked ⟨after, result, kept⟩ := by
  refine steady_of_kept moved moves count known ?_ shown
  intro object _ _
  rw [none]
  exact List.forall_mem_nil _

theorem shown_plain {result : Result} (plain : result.streams = []) (object : Object)
    (window : Cursor) (_ : asked = some object)
    (_ : session.store.windowOf? object = some window) :
    ∀ piece ∈ result.streams, session.store.Shows window piece := by
  rw [plain]
  exact List.forall_mem_nil _

theorem answer_steady (moved : after.Sound)
    (moves : session.store.Moves (asked = some ·) after.store)
    (count : after.store.cursors.length = session.store.cursors.length) {value : Value}
    (plain : value.streams = []) : (after.answer value).Steady session asked := by
  have bare : Result.streams (.value value) = [] := plain
  refine steady_of_bare moved moves count ?_ rfl (shown_plain bare)
  trivial

theorem windows_ofValue (store : Store) (value : Value) (parts : List Part) :
    store.windows (.ofValue value parts) = [] := by
  unfold Object.ofValue
  split
  · rfl
  · rfl

theorem Sound.partsNamed (sound : session.Sound) (names : List String) :
    ∀ part ∈ names.flatMap fun name =>
      ((session.registers.lookup name).map Object.parts).getD [],
      session.store.KnowsPart part := by
  intro part member
  obtain ⟨name, -, present⟩ := List.mem_flatMap.mp member
  cases found : session.registers.lookup name with
  | none =>
    rw [found] at present
    cases present
  | some object =>
    rw [found] at present
    obtain ⟨first, second, same, -⟩ := List.lookup_eq_some_iff.mp found
    have known := sound.registers (name, object) (same ▸ by simp)
    exact known.parts part present

theorem Sound.made (sound : session.Sound) (value : Value) (terms : List Term) :
    session.store.Knows (session.made value terms) :=
  Store.knows_ofValue (sound.partsNamed (namesAmong terms))

/-- A new cursor on a window of the store, inside one that was asked if there is one. -/
theorem answerStream_steady (sound : session.Sound) (moved : after.Sound)
    (moves : session.store.Moves (asked = some ·) after.store)
    (count : after.store.cursors.length = session.store.cursors.length) {cursor : Cursor}
    (holds : after.store.Holds cursor)
    (inside : ∀ object, asked = some object → object.isCut = true →
      session.store.Knows object ∧
        ∃ outer ∈ session.store.windows object, cursor.Inside outer) :
    (after.answerStream cursor).Steady session asked := by
  have added (touched : Object → Prop) : after.store.Moves touched _ :=
    Store.addCursor_moves moved.store holds
  have last : (after.store.addCursor cursor).1.cursors[after.store.cursors.length]? =
      some cursor := List.getElem?_concat_length
  refine ⟨moved.move (added (asked = some ·)), moves.trans (added _), ?_, ?_, ?_⟩
  · exact (List.getElem?_eq_some_iff.mp last).1
  · intro object same isCut
    obtain ⟨-, within⟩ := inside object same isCut
    refine ⟨?_, ?_⟩
    · intro id other new there
      have reach := (List.getElem?_eq_some_iff.mp there).1
      have only : id = after.store.cursors.length := by
        simp only [answerStream, Store.addCursor, List.length_append,
          List.length_singleton] at reach
        omega
      rw [only] at there
      cases last.symm.trans there
      exact within
    · intro inner there
      cases last.symm.trans (Option.mem_toList.mp there)
      exact within
  · intro object window same found piece member
    obtain ⟨isCut, only⟩ := Store.windows_of_windowOf found
    obtain ⟨known, outer, present, within⟩ := inside object same isCut
    rw [only] at present
    cases List.mem_singleton.mp present
    rw [List.mem_singleton.mp member]
    exact moves.shows (known.window_holds sound.store found) within

theorem holdContent_moves {touched : Object → Prop} (moved : after.Sound) {id : Nat}
    (known : id < after.store.holdings.length) (content : Buffer) :
    let (next, object) := after.holdContent id content
    next.Sound ∧ after.store.Moves touched next.store ∧
      next.store.cursors = after.store.cursors ∧ next.store.Knows object ∧
      next.store.windows object = [] := by
  unfold holdContent
  dsimp only
  split
  · exact ⟨moved, .refl moved.store, rfl, known, rfl⟩
  · suffices moves : after.store.Moves touched _ from
      ⟨moved.move moves, moves, (Store.addBuffer_cursors _).1, (Store.addBuffer_known _).1, rfl⟩
    refine Store.addBuffer_moves moved.store ?_
    dsimp only
    split
    · rename_i same
      rw [same]
      exact fun _ => rfl
    · exact fun some => by cases some

theorem answerContent_steady (moved : after.Sound)
    (moves : session.store.Moves (asked = some ·) after.store)
    (count : after.store.cursors.length = session.store.cursors.length) {id : Nat}
    (known : id < after.store.holdings.length) {value : Value}
    (shown : ∀ object window, asked = some object →
      session.store.windowOf? object = some window →
      ∀ piece ∈ value.streams, session.store.Shows window piece) :
    (after.answerContent id value).Steady session asked := by
  unfold answerContent
  split
  · rename_i content _
    obtain ⟨next, moves', cursors, known, none⟩ := holdContent_moves moved known content
    exact steady_of_bare next (moves.trans moves') (by rw [cursors]; exact count) known none shown
  · refine steady_of_bare moved moves count ?_ rfl shown
    trivial

end Kept

/-- What an operation on a cursor answers, kept for a session in which the cursor moved. -/
theorem answerFrom_steady (sound : session.Sound) {id : Nat} {cursor moved : Cursor}
    (found : session.store.cursors[id]? = some cursor) (inside : moved.Inside cursor)
    {method : Method} {arguments : List Term} {value : Value}
    (answers : (∃ part span, value = .stream part ∧ (session.store.stream cursor).On span part) ∨
      (∃ cut, value = .lines cut ∧ cut.stream = session.store.stream cursor) ∨
      value.streams = []) :
    (answerFrom { session with store := session.store.setCursor id moved } cursor method arguments
      value).Steady session (some (.stream id)) := by
  have moves : session.store.Moves (some (.stream id) = some ·) _ :=
    Store.setCursor_moves sound.store found inside rfl
  have still := sound.move moves
  have holds := sound.store.holds found
  have count : (session.store.setCursor id moved).cursors.length = session.store.cursors.length :=
    List.length_set
  have own : cursor ∈ session.store.windows (.stream id) := Option.mem_toList.mpr found
  rcases answers with ⟨part, span, rfl, on⟩ | ⟨cut, rfl, all⟩ | bare
  · have shown := holds.shows on
    apply answerStream_steady sound still moves count
    · exact (holds.of_inside shown.inside).extends moves.onward
    · intro object same _
      cases same
      exact ⟨(List.getElem?_eq_some_iff.mp found).1, cursor, own, shown.inside⟩
  · have self : Cursor.ofStream cursor.buffer cursor.pinned cut.stream = cursor := by
      rw [all]
      rfl
    rw [answerFrom, self]
    apply steady_of_kept still moves count
    · exact holds.extends moves.onward
    · intro object same _ inner there
      cases same
      cases List.mem_singleton.mp there
      exact ⟨cursor, own, holds.inside_self⟩
    · intro object asked same there piece member
      cases same
      cases found.symm.trans there
      rw [List.mem_singleton.mp member, all]
      exact holds.shows holds.valid.on_whole
  · have known := (holds.extends moves.onward).known
    have plain : Result.streams (.value value) = [] := bare
    unfold answerFrom
    split
    · cases bare
    · cases bare
    · split
      · exact steady_of_bare still moves count known rfl (shown_plain plain)
      · split
        · exact answerContent_steady still moves count known (shown_plain plain)
        · split
          · exact steady_of_bare still moves count (still.made _ _) (windows_ofValue _ _ _)
              (shown_plain plain)
          · exact answer_steady still moves count bare

/-- What is asked of a value shows the value itself, its elements, or nothing. -/
theorem ask_streams {value answer : Value} {method : Method}
    (done : ask value method = .ok answer) :
    answer.streams = [] ∨ answer = value ∨
      ∃ members, value.elements? = some members ∧ answer = .list members := by
  unfold ask at done
  split at done
  · cases done
    exact .inl rfl
  · cases done
    exact .inl rfl
  · cases done
    exact .inl rfl
  · split at done
    · rename_i members found
      cases done
      exact .inr (.inr ⟨members, found, rfl⟩)
    · cases done
  · split at done
    · cases done
      exact .inl rfl
    · cases done
  · cases done
    exact .inr (.inl rfl)
  · cases done
    exact .inr (.inl rfl)
  · cases done
    exact .inr (.inl rfl)
  · cases done
  · cases done
  · cases done
    exact .inr (.inl rfl)
  · split at done
    · cases done
      exact .inl rfl
    · cases checked : value.hashable? with
      | error fault => simp [checked, Except.bind] at done
      | ok value => simp [checked, Except.bind] at done
  · cases done

/-- What a walk over a window still gives shows only pieces of the window. -/
theorem left_shows (sound : session.Sound) {walk : Walk} (guards : session.store.Guards walk)
    {window : Cursor} (goes : (session.store.opened walk).window? = some window) {given : Yield}
    (left : given ∈ session.store.left walk) :
    ∀ piece ∈ (session.store.shown given).streams, session.store.Shows window piece := by
  intro piece member
  rcases Store.remaining_of_window goes left with ⟨unit, code, rfl⟩ | ⟨inner, rfl⟩
  · rw [show (session.store.shown (.value (.ofUnit unit code))).streams = [] from
      Value.streams_ofUnit unit code] at member
    cases member
  · have opened := Store.opened_guards sound.store guards
    obtain ⟨outer, present, inside⟩ := Store.remaining_within sound.store opened left rfl
    rw [Store.walkWindows_of_window goes] at present
    cases List.mem_singleton.mp present
    rw [List.mem_singleton.mp member]
    exact Store.shows_inside inside

/-- The streams that the object in a register shows lie in the window it goes over. -/
theorem valueOf_shows (sound : session.Sound) {object : Object} {window : Cursor}
    (known : session.store.Knows object) (found : session.store.windowOf? object = some window)
    (moved : ∀ id, object ≠ .stream id) :
    (∀ piece ∈ (session.valueOf object).streams, session.store.Shows window piece) ∧
      (session.valueOf object).sequence? = none ∧
      ∀ members, (session.valueOf object).elements? = some members →
        ∀ piece, Value.stream piece ∈ members → session.store.Shows window piece := by
  cases object with
  | stream id => exact absurd rfl (moved id)
  | lines own separator forms =>
    cases found
    have holds : session.store.Holds window := known
    refine ⟨?_, rfl, ?_⟩
    · intro piece member
      rw [List.mem_singleton.mp member]
      exact holds.shows holds.valid.on_whole
    · intro members same piece member
      cases same
      obtain ⟨line, cut, equal⟩ := List.mem_map.mp member
      cases equal
      obtain ⟨span, on⟩ := holds.valid.line_on cut
      exact holds.shows on
  | walk id =>
    obtain ⟨walk, there, goes⟩ := Option.bind_eq_some_iff.mp found
    have rest : session.valueOf (.walk id) =
        .generator id ((session.store.left walk).map session.store.shown) := by
      rw [valueOf, there]
      rfl
    rw [rest]
    refine ⟨List.forall_mem_nil _, rfl, ?_⟩
    intro members same piece member
    cases same
    obtain ⟨given, left, shown⟩ := List.mem_map.mp member
    apply left_shows sound (sound.store.guards there) goes left
    rw [shown]
    exact List.mem_singleton_self piece
  | _ => cases found

/-- What is asked of anything but a stream shows what lies in the window it goes over. -/
theorem asked_shows (sound : session.Sound) {object : Object} {window : Cursor}
    (known : session.store.Knows object) (found : session.store.windowOf? object = some window)
    (other : ∀ id, object ≠ .stream id) {method : Method} {values : List Value} {answer : Value}
    (done : askWith (session.valueOf object) method values = .ok answer) :
    ∀ piece ∈ answer.streams, session.store.Shows window piece := by
  obtain ⟨own, unsequenced, elements⟩ := valueOf_shows sound known found other
  intro piece member
  unfold askWith at done
  split at done
  · unfold Value.subscript at done
    rw [unsequenced] at done
    cases done
  · rcases ask_streams done with none | rfl | ⟨members, same, rfl⟩
    · rw [none] at member
      cases member
    · exact own piece member
    · obtain ⟨inner, present, shown⟩ := List.mem_filterMap.mp member
      cases inner with
      | stream window =>
        cases shown
        exact elements members same piece present
      | _ => cases shown

/-- What was there is named anew, beside what was shown of it. -/
theorem named_steady (sound : session.Sound) {object : Object}
    (known : session.store.Knows object) {result : Result}
    (shown : ∀ window, session.store.windowOf? object = some window →
      ∀ piece ∈ result.streams, session.store.Shows window piece) :
    Effect.Steady session (some object) ⟨session, result, object⟩ := by
  apply steady_of_kept sound (.refl sound.store) rfl known
  · intro asked same _ inner there
    cases same
    exact ⟨inner, there, (known.windows_hold sound.store there).inside_self⟩
  · intro asked window same found
    cases same
    exact shown window found

end TextScan.Session
