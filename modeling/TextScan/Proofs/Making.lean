import TextScan.Proofs.Calling

namespace TextScan.Session

open Scan

variable {session after : Session}

theorem hold_eq_ok {term : Term} {object : Object} (held : session.hold term = .ok object) :
    (∃ name, term = .register name ∧ session.lookup name = .ok object) ∨
      (∀ name, term ≠ .register name) ∧
        ∃ value, session.eval term = .ok value ∧ object = session.made value [term] := by
  unfold hold at held
  split at held
  · exact .inl ⟨_, rfl, held⟩
  · rename_i unnamed
    cases evaluated : session.eval term with
    | error fault =>
      rw [evaluated] at held
      cases held
    | ok value =>
      rw [evaluated] at held
      cases held
      exact .inr ⟨unnamed, value, rfl, rfl⟩

theorem Sound.hold (sound : session.Sound) {term : Term} {object : Object}
    (held : session.hold term = .ok object) : session.store.Knows object := by
  rcases hold_eq_ok held with ⟨name, -, found⟩ | ⟨-, value, -, rfl⟩
  · exact sound.lookup found
  · exact sound.made value [term]

theorem evalMany_register {name : String} {rest : List Term} {values : List Value}
    {object : Object} (evaluated : session.evalMany (.register name :: rest) = .ok values)
    (held : session.lookup name = .ok object) :
    values.headD (.text []) = session.valueOf object := by
  unfold evalMany evalAll at evaluated
  obtain ⟨first, read, evaluated⟩ := bind_eq_ok.mp evaluated
  obtain ⟨others, -, same⟩ := bind_eq_ok.mp evaluated
  rw [Term.eval, held] at read
  cases read
  cases same
  rfl

/-- Lines, walks and lists go over windows, but are no buffers. -/
theorem isCut_unread {object : Object} {buffer : Buffer} (isCut : object.isCut = true)
    (other : ∀ id, object ≠ .stream id) : (session.valueOf object).buffer ≠ .ok buffer := by
  cases object with
  | stream id => exact absurd rfl (other id)
  | lines => nofun
  | walk => nofun
  | streams => nofun
  | _ => cases isCut

theorem createOver_steady (sound : session.Sound) {object : Object} {values : List Value}
    {done : Effect} {asked : Option Object} (known : session.store.Knows object)
    (same : ∀ own, asked = some own → own.isCut = true →
      own = object ∧ values.headD (.text []) = session.valueOf own)
    (ok : session.createOver object values = .ok done) : done.Steady session asked := by
  unfold createOver at ok
  have still : session.store.Moves (asked = some ·) session.store := .refl sound.store
  have growable (buffer : Buffer) (pinned : session.pins buffer = true) :
      buffer.backing.isGrowable = true := (Bool.and_eq_true_iff.mp pinned).2
  cases object with
  | stream id =>
    dsimp only at ok
    cases found : session.store.cursors[id]? with
    | none =>
      rw [found] at ok
      cases ok
    | some cursor =>
      rw [found] at ok
      obtain ⟨part, cut, ok⟩ := bind_eq_ok.mp ok
      cases ok
      have holds := sound.store.holds found
      have agrees := holds.valid.part_agrees (values[1]?.getD (.int 0)) (values[2]?.getD .null)
      rw [cut] at agrees
      obtain ⟨span, -, on⟩ := agrees.answered
      have inside := (holds.shows on).inside
      apply answerStream_steady sound sound still rfl (holds.of_inside inside)
      intro own asks isCut
      obtain ⟨rfl, -⟩ := same own asks isCut
      exact ⟨known, cursor, Option.mem_toList.mpr found, inside⟩
  | buffer id =>
    obtain ⟨window, made, ok⟩ := bind_eq_ok.mp ok
    cases ok
    obtain ⟨buffer, valid⟩ := Stream.window_valid made
    apply answerStream_steady sound sound still rfl
    · have reach := valid.stop_le_size
      rw [buffer] at reach
      exact ⟨known, ⟨valid.start_le_stop, reach⟩, growable _⟩
    · intro own asks isCut
      obtain ⟨rfl, -⟩ := same own asks isCut
      cases isCut
  | _ =>
    obtain ⟨buffer, read, ok⟩ := bind_eq_ok.mp ok
    obtain ⟨window, made, ok⟩ := bind_eq_ok.mp ok
    cases ok
    obtain ⟨own, valid⟩ := Stream.window_valid made
    have added : session.store.Moves (asked = some ·) (session.store.addBuffer ⟨buffer, none⟩).1 :=
      Store.addBuffer_moves sound.store nofun
    obtain ⟨there, held⟩ : _ ∧ _ := session.store.addBuffer_known ⟨buffer, none⟩
    apply answerStream_steady sound (sound.move added) added
    · rw [(session.store.addBuffer_cursors ⟨buffer, none⟩).1]
    · have reach := valid.stop_le_size
      rw [own] at reach
      have size := congrArg Buffer.size held
      refine ⟨there, ⟨valid.start_le_stop, Nat.le_trans reach (Nat.le_of_eq size.symm)⟩, ?_⟩
      intro pinned
      exact (congrArg (·.backing.isGrowable) held).trans (growable buffer pinned)
    · intro other asks isCut
      obtain ⟨named, head⟩ := same other asks isCut
      rw [head] at read
      cases whole : (session.valueOf other).buffer with
      | error fault =>
        rw [whole] at read
        cases read
      | ok content =>
        refine absurd whole (isCut_unread isCut ?_)
        intro id equal
        cases named.symm.trans equal

theorem create_steady (sound : session.Sound) {arguments : List Term} {done : Effect}
    (ok : session.create arguments = .ok done) :
    done.Steady session (session.asked? (.create arguments)) := by
  obtain ⟨values, evaluated, ok⟩ := bind_eq_ok.mp ok
  obtain ⟨_, -, ok⟩ := bind_eq_ok.mp ok
  obtain ⟨object, held, made⟩ := bind_eq_ok.mp ok
  cases arguments with
  | nil =>
    cases held
    refine createOver_steady sound ?_ nofun made
    trivial
  | cons term rest =>
    refine createOver_steady sound (sound.hold held) ?_ made
    intro own asks _
    rcases hold_eq_ok held with ⟨name, rfl, found⟩ | ⟨unnamed, -⟩
    · have same := lookup_eq_ok found
      cases same.symm.trans asks
      exact ⟨rfl, evalMany_register evaluated found⟩
    · cases term with
      | register name => exact absurd rfl (unnamed name)
      | _ => cases asks

theorem startWalk_steady (sound : session.Sound) {object : Object} {walk : Walk}
    (guards : session.store.Guards walk)
    (goes : ∀ inner ∈ session.store.walkWindows (session.store.opened walk),
      inner ∈ session.store.windows object) :
    (session.startWalk walk).Steady session (some object) := by
  have added : session.store.Moves (some object = some ·) (session.store.addWalk walk).1 :=
    Store.addWalk_moves sound.store guards
  have last : (session.store.addWalk walk).1.walks[session.store.walks.length]? = some walk :=
    List.getElem?_concat_length
  refine steady_of_kept (sound.move added) added rfl (List.getElem?_eq_some_iff.mp last).1 ?_
    (shown_plain rfl)
  rintro asked ⟨⟩ - inner there
  rw [Store.windows_walk last] at there
  have opened := Store.opened_guards sound.store guards
  have holds := Store.walkWindows_hold sound.store opened there
  exact ⟨inner, goes inner there, holds.inside_self⟩

theorem walk_steady (sound : session.Sound) {on : String} {done : Effect}
    (ok : session.walk on = .ok done) : done.Steady session (session.asked? (.walk on)) := by
  obtain ⟨object, held, made⟩ := bind_eq_ok.mp ok
  have asked : session.asked? (.walk on) = some object := lookup_eq_ok held
  have known := sound.lookup held
  rw [asked]
  unfold walkOver at made
  split at made
  · rename_i id
    cases made
    have guards : session.store.Guards (.waiting (.units id)) := known
    apply startWalk_steady sound guards
    intro inner there
    change inner ∈ (session.store.cursors[id]?).toList
    unfold Store.opened at there
    dsimp only at there
    split at there
    · rename_i window found
      rw [found]
      exact there
    · cases there
  · rename_i window separator forms
    cases made
    have guards : session.store.Guards (.waiting (.lines window separator)) := known
    apply startWalk_steady sound guards
    intro inner there
    unfold Store.opened at there
    dsimp only at there
    split at there
    · exact there
    · exact there
  · cases made
    exact named_steady sound known fun window _ => List.forall_mem_nil _
  · cases made
    exact startWalk_steady sound known (List.forall_mem_nil _)
  · cases made
    exact startWalk_steady sound known fun inner there => there
  · dsimp only at made
    split at made
    · cases made
      exact startWalk_steady sound trivial (List.forall_mem_nil _)
    · cases made

/-- What a walk gives next, and the walk behind it, lie in the windows that the walk goes
over. -/
theorem advance_steady (sound : session.Sound) {id : Nat} {walk : Walk}
    (found : session.store.walks[id]? = some walk) :
    (session.advance id (session.store.next? walk)).Steady session (some (.walk id)) := by
  have opened := Store.opened_guards sound.store (sound.store.guards found)
  have known : session.store.Knows (.walk id) := (List.getElem?_eq_some_iff.mp found).1
  unfold Store.next?
  cases next : session.store.goOn (session.store.opened walk) with
  | none =>
    have guards : session.store.Guards .finished := trivial
    have moves : session.store.Moves (some (.walk id) = some ·) _ :=
      Store.setWalk_moves sound.store id guards rfl
    refine steady_of_bare (sound.move moves) moves rfl ?_ rfl (shown_plain rfl)
    trivial
  | some gives =>
    obtain ⟨given, later⟩ := gives
    have gives := Store.goOn_gives sound.store opened next
    have moves : session.store.Moves (some (.walk id) = some ·) _ :=
      Store.setWalk_moves sound.store id gives.guards rfl
    have member : given ∈ session.store.left walk := by
      rw [Store.left, gives.remaining]
      exact .head _
    have within {window : Cursor} (same : session.store.yieldWindow? given = some window) :
        ∃ outer ∈ session.store.windows (.walk id), window.Inside outer := by
      rw [Store.windows_walk found]
      exact Store.remaining_within sound.store opened member same
    have shown : ∀ asked window, some (Object.walk id) = some asked →
        session.store.windowOf? asked = some window →
        ∀ piece ∈ (session.store.shown given).streams, session.store.Shows window piece := by
      rintro asked window ⟨⟩ goes
      obtain ⟨under, there, goes⟩ := Option.bind_eq_some_iff.mp goes
      cases found.symm.trans there
      exact left_shows sound (sound.store.guards found) goes member
    cases given with
    | value value =>
      refine steady_of_bare (sound.move moves) moves rfl ?_ rfl shown
      trivial
    | line window =>
      obtain ⟨outer, present, inside⟩ := within rfl
      have holds := (known.windows_hold sound.store present).of_inside inside
      apply answerStream_steady sound (sound.move moves) moves rfl (holds.extends moves.onward)
      rintro asked ⟨⟩ -
      exact ⟨known, outer, present, inside⟩
    | stream cursor =>
      refine steady_of_kept (sound.move moves) moves rfl ?_ ?_ shown
      · have listed : .stream cursor ∈ session.yields (.walk id) := by
          unfold yields
          dsimp only
          rw [found]
          exact member
        exact Nat.lt_of_lt_of_le (yields_stream sound known listed) moves.onward.cursor_count
      · rintro asked ⟨⟩ - inner there
        exact within (Option.mem_toList.mp there)

theorem next_steady (sound : session.Sound) {on : String} {done : Effect}
    (ok : session.next on = .ok done) : done.Steady session (session.asked? (.next on)) := by
  obtain ⟨object, held, made⟩ := bind_eq_ok.mp ok
  have asked : session.asked? (.next on) = some object := lookup_eq_ok held
  rw [asked]
  split at made
  · split at made
    · rename_i walk found
      cases made
      exact advance_steady sound found
    · cases made
  · cases made

end TextScan.Session
