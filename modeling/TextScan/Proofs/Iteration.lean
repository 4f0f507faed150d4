import TextScan.Proofs.Frame

namespace TextScan.Session

mutual

/-- The calls on a walk that a step makes, within forks as well: the sessions they are made in
and their answers. -/
def heardIn (id : Nat) (session : Session) : Step → List (Session × Answer)
  | .act command name =>
    if session.asksNext id command then [(session, (session.act command name).2)] else []
  | .fork fresh steps => heard id (session.forked fresh) steps

def heard (id : Nat) (session : Session) : List Step → List (Session × Answer)
  | [] => []
  | first :: rest => heardIn id session first ++ heard id (session.step first).1 rest

end

/-- The law of commands that leave a walk alone: they do not go through it. -/
def Leaves (id : Nat) (session : Session) (command : Command) (_ : Option String) : Prop :=
  id ∉ session.walksUsed command

/-- A walk is told one result after the other, and then for good that it is at its end. A result
may show the buffer as it is in the session of the call. -/
def Tells (results : List (Session → Result)) (calls : List (Session × Answer)) : Prop :=
  ∀ (place : Nat) (session : Session) (answer : Answer), calls[place]? = some (session, answer) →
    answer = match results[place]? with
      | some result => .act (.ok (result session)) none []
      | none => .act (.ok .stopped) none []

/-- The answer to a call on a walk that gives something, or nothing more. -/
def told (store : Store) : Option Yield → Answer
  | some given => .act (.ok (.value (store.shown given))) none []
  | none => .act (.ok .stopped) none []

/-- Calls on a walk from one store to another. Between two calls the store goes on, and the walk
stays. -/
inductive Follows : Store → Walk → List (Session × Answer) → Store → Walk → Prop
  | idle {before after : Store} {walk : Walk} (onward : before.Extends after) :
    Follows before walk [] after walk
  | tell {before after last : Store} {session : Session} {walk final : Walk}
      {calls : List (Session × Answer)} (onward : before.Extends session.store)
      (sound : session.Sound) (next : session.store.Extends after)
      (rest : Follows after (((session.store.next? walk).map Prod.snd).getD .finished) calls
        last final) :
    Follows before walk
      ((session, told session.store ((session.store.next? walk).map Prod.fst)) :: calls) last final

variable {session : Session} {before middle after last : Store} {walk final : Walk}
  {calls later : List (Session × Answer)} {id : Nat}

section Follows

theorem Follows.earlier (onward : before.Extends middle)
    (follows : Follows middle walk calls after final) : Follows before walk calls after final := by
  cases follows with
  | idle next => exact .idle (onward.trans next)
  | tell next sound onward' rest => exact .tell (onward.trans next) sound onward' rest

theorem Follows.append {between : Walk} (first : Follows before walk calls middle between)
    (second : Follows middle between later after final) :
    Follows before walk (calls ++ later) after final := by
  induction first with
  | idle onward => exact second.earlier onward
  | tell onward sound next rest ih => exact .tell onward sound next (ih second)

/-- Every call is made in a store that came out of the first one. -/
theorem Follows.onward (follows : Follows before walk calls after final)
    {call : Session × Answer} (member : call ∈ calls) : before.Extends call.1.store := by
  induction follows with
  | idle onward => cases member
  | tell onward sound next rest ih =>
    rcases List.mem_cons.mp member with rfl | later
    · exact onward
    · exact onward.trans (next.trans (ih later))

/-- A walk underway tells what was left of it, each call one place further on. -/
theorem Follows.told_underway (follows : Follows before walk calls after final)
    (guards : before.Guards walk) (under : walk.isUnderway = true)
    (fixed : walk.readsBuffer = false) {place : Nat} {answer : Answer}
    (call : calls[place]? = some (session, answer)) :
    answer = told session.store (before.remaining walk)[place]? := by
  induction follows generalizing place with
  | idle onward => cases call
  | @tell before after last asked walk final calls onward sound next rest ih =>
    have guards' := guards.extends onward
    rw [← Store.remaining_extends guards onward fixed]
    unfold Store.next? at call ih
    rw [Store.opened_underway under] at call ih
    cases goes : asked.store.goOn walk with
    | none =>
      rw [Store.goOn_none guards' goes]
      rw [goes] at call ih
      cases place with
      | zero =>
        cases call
        rfl
      | succ place =>
        rw [List.getElem?_cons_succ] at call
        have ended : answer = told session.store ([] : List Yield)[place]? :=
          ih trivial rfl rfl call
        exact ended
    | some gives =>
      obtain ⟨given, behind⟩ := gives
      have gives := Store.goOn_gives sound.store guards' goes
      rw [gives.remaining]
      rw [goes] at call ih
      cases place with
      | zero =>
        cases call
        rfl
      | succ place =>
        have fixed' := gives.reads.trans fixed
        rw [List.getElem?_cons_succ] at call
        rw [List.getElem?_cons_succ, ← Store.remaining_extends gives.guards next fixed']
        exact ih (gives.guards.extends next) gives.underway fixed' call

/-- A walk tells what it had to give when it was first asked. -/
theorem Follows.told (follows : Follows before walk calls after final)
    (guards : before.Guards walk) (fixed : walk.readsBuffer = false) {first : Session}
    {answered : Answer} (begun : calls[0]? = some (first, answered)) {place : Nat}
    {answer : Answer} (call : calls[place]? = some (session, answer)) :
    first.Sound ∧ before.Extends first.store ∧
      answer = Session.told session.store (first.store.left walk)[place]? := by
  cases follows with
  | idle onward => cases begun
  | @tell before after last asked walk final calls onward sound next rest =>
    cases begun
    refine ⟨sound, onward, ?_⟩
    obtain ⟨under, reads⟩ := first.store.opened_fixed walk
    -- the same calls, with what the walk goes over fixed before the first of them
    have same : first.store.next? (first.store.opened walk) = first.store.next? walk := by
      rw [Store.next?, Store.opened_underway under]
      rfl
    rw [← same] at rest call
    have opened := Follows.tell (.refl sound.store) sound next rest
    exact opened.told_underway (Store.opened_guards sound.store (guards.extends onward)) under
      (reads.trans fixed) call

end Follows

section Calls

theorem act_next {on : String} (held : session.registers.lookup on = some (.walk id))
    (there : session.store.walks[id]? = some walk) (name : Option String) :
    (session.act (.next on) name).2 =
        told session.store ((session.store.next? walk).map Prod.fst) ∧
      (session.act (.next on) name).1.store.walks[id]? =
        some (((session.store.next? walk).map Prod.snd).getD .finished) := by
  have found : session.lookup on = .ok (.walk id) := by
    unfold lookup
    rw [held]
  have effected : session.effect (.next on) =
      .ok (session.advance id (session.store.next? walk)) := by
    change session.next on = _
    unfold Session.next
    rw [found]
    simp only [bind, Except.bind, there, pure, Except.pure]
  have reach := (List.getElem?_eq_some_iff.mp there).1
  have walks := (advance_walks session id (session.store.next? walk)).2
  constructor
  · unfold act
    simp only [effected, receiver?, Option.bind_some, held]
    cases session.store.next? walk with
    | none => rfl
    | some gives =>
      obtain ⟨given, behind⟩ := gives
      cases given with
      | _ => rfl
  · obtain ⟨moved, log, acted⟩ := act_ok effected name
    rw [acted, kept_store]
    change (session.advance id (session.store.next? walk)).session.store.walks[id]? = _
    rw [walks, List.getElem?_set_self reach]

theorem act_follows (sound : session.Sound) (there : session.store.walks[id]? = some walk)
    {command : Command} {name : Option String} (leaves : Leaves id session command name) :
    ∃ final, (session.act command name).1.store.walks[id]? = some final ∧
      Follows session.store walk (heardIn id session (.act command name))
        (session.act command name).1.store final := by
  have lawful := act_lawful sound command name
  rw [heardIn]
  by_cases asks : session.asksNext id command = true
  · rw [if_pos asks]
    obtain ⟨on, rfl, held⟩ := asksNext_eq asks
    obtain ⟨answered, behind⟩ := act_next held there name
    refine ⟨_, behind, ?_⟩
    rw [answered]
    exact .tell (.refl sound.store) sound lawful.onward (.idle (.refl lawful.sound.store))
  · rw [if_neg asks]
    have apart : ¬session.Touches command (.walk id) := fun touched =>
      touched.elim asks leaves
    exact ⟨walk, (act_spares sound command name).walks id walk apart there, .idle lawful.onward⟩

mutual

theorem step_follows {session : Session} {walk : Walk} (sound : session.Sound)
    (there : session.store.walks[id]? = some walk) (step : Step)
    (leaves : Along (Leaves id) session step) :
    ∃ final, (session.step step).1.store.walks[id]? = some final ∧
      Follows session.store walk (heardIn id session step) (session.step step).1.store final := by
  cases step with
  | act command name =>
    rw [Along] at leaves
    rw [step_act]
    exact act_follows sound there leaves
  | fork fresh steps =>
    rw [Along] at leaves
    rw [step_fork, heardIn]
    exact run_follows (sound.forked fresh) there steps leaves

/-- Over a whole run the calls on a walk follow one another, whatever is done between them. -/
theorem run_follows {session : Session} {walk : Walk} (sound : session.Sound)
    (there : session.store.walks[id]? = some walk) (steps : List Step)
    (leaves : AlongAll (Leaves id) session steps) :
    ∃ final, (session.run steps).1.store.walks[id]? = some final ∧
      Follows session.store walk (heard id session steps) (session.run steps).1.store final := by
  cases steps with
  | nil =>
    rw [run, heard]
    exact ⟨walk, there, .idle (.refl sound.store)⟩
  | cons first rest =>
    rw [AlongAll] at leaves
    obtain ⟨between, held, follows⟩ := step_follows sound there first leaves.1
    obtain ⟨final, last, onward⟩ :=
      run_follows (step_lawful sound first).2.1 held rest leaves.2
    rw [run_cons, heard]
    exact ⟨final, last, follows.append onward⟩

end

end Calls

section Sources

/-- What a walk over a stream tells: the units of its window. -/
def unitResults (stream : Stream) : List (Session → Result) :=
  stream.content.map fun code _ => .value (.ofUnit stream.unit code)

/-- What a walk over lines tells: views that lie where the lines do, of a buffer as it is. -/
def lineResults (buffer : Nat) (lines : List Stream) : List (Session → Result) :=
  lines.map fun line session => .value (.stream { line with buffer := session.store.buffer buffer })

theorem left_units {store : Store} {cursor : Nat} {window : Cursor}
    (found : store.cursors[cursor]? = some window) :
    store.left (.waiting (.units cursor)) =
      (store.stream window).content.map fun code =>
        .value (.ofUnit (store.stream window).unit code) := by
  simp only [Store.left, Store.opened, found, Store.remaining]

theorem left_lines (store : Store) (window : Cursor) (separator : List Nat) :
    store.left (.waiting (.lines window separator)) =
      (Lines.toList ⟨store.stream window, separator, []⟩).map fun line =>
        .line (.ofStream window.buffer window.pinned line) := by
  unfold Store.left Store.opened Lines.toList
  dsimp only
  by_cases empty : window.isEmpty = true
  · have none : (store.stream window).isEmpty = true := empty
    rw [if_pos empty, if_pos none]
    rfl
  · have some : ¬(store.stream window).isEmpty = true := empty
    rw [if_neg empty, if_neg some]
    rfl

/-- Lines are cut alike at any later time. -/
theorem left_lines_extends {window : Cursor} (holds : before.Holds window)
    (onward : before.Extends after) (separator : List Nat) :
    after.left (.waiting (.lines window separator)) =
      before.left (.waiting (.lines window separator)) := by
  unfold Store.left Store.opened
  dsimp only
  have passed : before.Guards (.passed window) := holds
  have underway : before.Guards (.lines window separator) := holds
  split
  · exact Store.remaining_extends passed onward rfl
  · exact Store.remaining_extends underway onward rfl

theorem Sound.kept_known (sound : session.Sound) {object : Object}
    (member : object ∈ session.kept) : session.store.Knows object := by
  rcases List.mem_append.mp member with member | outside
  · rcases List.mem_append.mp member with member | saved
    · rcases List.mem_append.mp member with held | configured
      · obtain ⟨entry, present, rfl⟩ := List.mem_map.mp held
        exact sound.registers entry present
      · exact sound.settings object configured
    · obtain ⟨entry, present, held⟩ := List.mem_flatMap.mp saved
      cases same : entry.2 with
      | none =>
        rw [same] at held
        cases held
      | some settings =>
        rw [same] at held
        exact sound.scopes entry present settings same object held
  · obtain ⟨settings, present, held⟩ := List.mem_flatMap.mp outside
    exact sound.outer settings present object held

/-- A walk that was just started, in a register; nothing that was there refers to it. -/
structure Begun (session : Session) (name : String) (id : Nat) (begun : Session) : Prop where
  held : begun.lookup name = .ok (.walk id)
  fresh : ∀ object ∈ session.kept, .walk id ∉ object.parts

theorem act_walk (sound : session.Sound) {on : String} {walk : Walk}
    (effected : session.effect (.walk on) = .ok (session.startWalk walk)) (name : String) :
    let begun := (session.act (.walk on) (some name)).1
    Begun session name session.store.walks.length begun ∧ begun.Sound ∧
      session.store.Extends begun.store ∧
      begun.store.walks[session.store.walks.length]? = some walk := by
  have lawful := act_lawful sound (.walk on) (some name)
  obtain ⟨moved, log, acted⟩ := act_ok effected (some name)
  refine ⟨⟨?_, ?_⟩, lawful.sound, lawful.onward, ?_⟩
  · rw [acted]
    unfold lookup
    simp only [kept?, keep, List.lookup_cons, beq_self_eq_true]
    rfl
  · intro object member named
    exact absurd ((sound.kept_known member).parts _ named) (Nat.lt_irrefl _)
  · rw [acted]
    exact List.getElem?_concat_length

/-- The lines of a stream, with the window as it is at the call and the separator that is given
or configured then. -/
theorem lines_ok {source : String} {arguments : List Term} {cursor : Nat} {made : Effect}
    (held : session.lookup source = .ok (.stream cursor))
    (ok : session.effect (.call source .lines arguments) = .ok made) :
    ∃ values window separator forms, session.evalMany arguments = .ok values ∧
      session.store.cursors[cursor]? = some window ∧
      (session.store.stream window).unit.text
        (session.environment.separating (values.headD .null)) = .ok separator ∧
      made.kept = .lines window separator forms := by
  obtain ⟨object, values, found, read, cases⟩ := call_ok ok
  cases held.symm.trans found
  rcases cases with ⟨id, window, operation, outcome, rest, same, there, bound, performed, rfl⟩ |
    ⟨other, -⟩
  · cases same
    have lines : operation = .lines (values.headD .null) := by
      unfold Method.bind at bound
      simp only [Method.signature?, bind, Except.bind, pure, Except.pure] at bound
      split at bound
      · cases bound
      · cases bound
        rfl
    rw [lines, Stream.perform] at performed
    obtain ⟨separator, coerced, answered⟩ := bind_eq_ok.mp performed
    cases answered
    refine ⟨values, window, separator, _, read, there, ?_, rfl⟩
    generalize (session.store.stream window).unit.text _ = text at coerced ⊢
    cases text with
    | error cause => cases coerced
    | ok codes =>
      cases coerced
      rfl
  · exact absurd rfl (other cursor)

/-- A walk over a stream tells the units of the window that it had at the first call. -/
theorem Follows.tells_units {cursor : Nat}
    (follows : Follows before (.waiting (.units cursor)) calls after final)
    (known : cursor < before.cursors.length) {first : Session} {answer : Answer}
    (asked : calls[0]? = some (first, answer)) :
    ∃ stream, first.streamOf? cursor = some stream ∧ Tells (unitResults stream) calls := by
  have guards : before.Guards (.waiting (.units cursor)) := known
  obtain ⟨sound, onward, -⟩ := follows.told guards rfl asked asked
  have known' : cursor < first.store.cursors.length :=
    Nat.lt_of_lt_of_le known onward.cursor_count
  have window := List.getElem?_eq_getElem known'
  refine ⟨first.store.stream first.store.cursors[cursor], ?_, ?_⟩
  · unfold streamOf?
    rw [window]
    rfl
  · intro place session answer call
    obtain ⟨-, -, told⟩ := follows.told guards rfl asked call
    rw [told, left_units window, List.getElem?_map, unitResults, List.getElem?_map]
    cases (first.store.stream first.store.cursors[cursor]).content[place]? with
    | none => rfl
    | some code => rfl

/-- How a separator was written is no matter of what it cuts. -/
theorem toList_forms (stream : Stream) (separator : List Nat) (forms : List NumberForm) :
    Lines.toList ⟨stream, separator, forms⟩ = Lines.toList ⟨stream, separator, []⟩ := rfl

/-- A walk over lines tells the pieces that the window had at any earlier time. -/
theorem Follows.tells_lines {earlier : Store} {window : Cursor} {separator : List Nat}
    (holds : earlier.Holds window) (onward : earlier.Extends before)
    (follows : Follows before (.waiting (.lines window separator)) calls after final)
    (forms : List NumberForm) :
    Tells (lineResults window.buffer
      (Lines.toList ⟨earlier.stream window, separator, forms⟩)) calls := by
  rw [toList_forms]
  intro place asked answer call
  have begins := Nat.lt_of_le_of_lt (Nat.zero_le place) (List.getElem?_eq_some_iff.mp call).1
  obtain ⟨-, later, told⟩ :=
    follows.told (holds.extends onward) rfl (List.getElem?_eq_getElem begins) call
  rw [told, left_lines_extends holds (onward.trans later), left_lines, List.getElem?_map,
    lineResults, List.getElem?_map]
  cases (Lines.toList ⟨earlier.stream window, separator, []⟩)[place]? with
  | none => rfl
  | some line => rfl

/-- A line shows the same, however its buffer has grown since it was cut. -/
theorem line_content {window : Cursor} {separator : List Nat} (holds : before.Holds window)
    (onward : before.Extends after) {line : Stream}
    (cut : line ∈ Lines.toList ⟨before.stream window, separator, []⟩) :
    ({ line with buffer := after.buffer window.buffer } : Stream).content = line.content := by
  obtain ⟨span, on⟩ := holds.valid.line_on cut
  have same : line.buffer = before.buffer window.buffer := on.buffer
  have grown : line.Grown { line with buffer := after.buffer window.buffer } := by
    refine ⟨rfl, rfl, rfl, rfl, ?_, ?_⟩
    · rw [same]
      exact onward.backings _ holds.known
    · rw [same]
      exact onward.units _ holds.known
  exact grown.content (on.valid holds.valid)

theorem walk_stream {on : String} {cursor : Nat} (held : session.lookup on = .ok (.stream cursor)) :
    session.effect (.walk on) = .ok (session.startWalk (.waiting (.units cursor))) := by
  change session.walk on = _
  unfold Session.walk
  rw [held]
  rfl

theorem walk_lines {on : String} {window : Cursor} {separator : List Nat}
    {forms : List NumberForm} (held : session.lookup on = .ok (.lines window separator forms)) :
    session.effect (.walk on) = .ok (session.startWalk (.waiting (.lines window separator))) := by
  change session.walk on = _
  unfold Session.walk
  rw [held]
  rfl

end Sources

/-- Whatever is done in between by commands that do not go through it: a walk over a stream tells
the units of the window that the stream had when the walk was first asked, and a walk over lines
tells the pieces of the window and by the separator that the lines were made with, and then for
good that it is at its end. Every walk is one of its own. -/
theorem iteration_stable :
    (∀ (session : Session) (on name : String) (cursor : Nat) (steps : List Step),
      session.Sound → session.lookup on = .ok (.stream cursor) →
      let id := session.store.walks.length
      let begun := (session.act (.walk on) (some name)).1
      Begun session name id begun ∧
        (AlongAll (Leaves id) begun steps → ∀ first answer,
          (heard id begun steps)[0]? = some (first, answer) →
          ∃ stream, first.streamOf? cursor = some stream ∧
            Tells (unitResults stream) (heard id begun steps))) ∧
    (∀ (earlier : Session) (source on name : String) (arguments : List Term)
      (keep : Option String) (between steps : List Step) (cursor : Nat) (made : Effect),
      earlier.Sound → earlier.lookup source = .ok (.stream cursor) →
      earlier.effect (.call source .lines arguments) = .ok made →
      let session := ((earlier.act (.call source .lines arguments) keep).1.run between).1
      session.lookup on = .ok made.kept →
      let id := session.store.walks.length
      let begun := (session.act (.walk on) (some name)).1
      ∃ values window separator, earlier.evalMany arguments = .ok values ∧
        earlier.store.cursors[cursor]? = some window ∧
        let captured := earlier.store.stream window
        captured.unit.text (earlier.environment.separating (values.headD .null)) = .ok separator ∧
        Begun session name id begun ∧
        (AlongAll (Leaves id) begun steps →
          let lines := Lines.toList ⟨captured, separator, []⟩
          Tells (lineResults window.buffer lines) (heard id begun steps) ∧
          ∀ call ∈ heard id begun steps, ∀ line ∈ lines,
            ({ line with buffer := call.1.store.buffer window.buffer } : Stream).content =
              line.content)) := by
  constructor
  · intro session on name cursor steps sound held id begun
    obtain ⟨started, still, onward, there⟩ := act_walk sound (walk_stream held) name
    refine ⟨started, ?_⟩
    intro leaves first answered asked
    obtain ⟨final, -, follows⟩ := run_follows still there steps leaves
    exact follows.tells_units (Nat.lt_of_lt_of_le (sound.lookup held) onward.cursor_count) asked
  · intro earlier source on name arguments keep between steps cursor made sound found ok session
      held id begun
    obtain ⟨values, window, separator, forms, read, there, text, kept⟩ := lines_ok found ok
    have holds := sound.store.holds there
    have lawful := act_lawful sound (.call source .lines arguments) keep
    obtain ⟨-, sound', onward⟩ := run_lawful lawful.sound between
    rw [kept] at held
    obtain ⟨started, still, onward', walking⟩ := act_walk sound' (walk_lines held) name
    refine ⟨values, window, separator, read, there, text, started, ?_⟩
    intro leaves lines
    have since := lawful.onward.trans (onward.trans onward')
    obtain ⟨final, -, follows⟩ := run_follows still walking steps leaves
    refine ⟨follows.tells_lines holds since [], ?_⟩
    exact fun call member line cut => line_content holds (since.trans (follows.onward member)) cut

/-- A stream over bytes that may grow, in a register. -/
def commaHeld : Step := .act (.create [.value (.byteArray [97, 44, 98])]) (some "s")

/-- A walk is asked, its stream moves on and the buffer grows, and it is asked to the end. -/
def askedThroughout : List Step :=
  [.act (.next "i") none, .act (.call "s" .drop [.value (.int 2)]) none,
    .act (.append "s" (.value (.int 99))) none, .act (.next "i") none,
    .act (.setConfig [("assertions", .value (.bool true))]) none, .act (.next "i") none,
    .act (.next "i") none, .act (.next "i") none]

theorem iteration_stable_moved :
    (let session := ((start "linux").step commaHeld).1
    let begun := (session.act (.walk "s") (some "i")).1
    ∃ first answer stream, (heard 0 begun askedThroughout)[0]? = some (first, answer) ∧
      first.streamOf? 0 = some stream ∧ stream.content = [97, 44, 98] ∧
      Tells (unitResults stream) (heard 0 begun askedThroughout)) ∧
    (let earlier := ((start "linux").step commaHeld).1
    let lined := (earlier.act (.call "s" .lines [.value (.bytes [44])]) (some "l")).1
    let begun := (lined.act (.walk "l") (some "i")).1
    Tells (lineResults 0 (Lines.toList ⟨.ofBuffer (.ofByteArray [97, 44, 98]), [44], []⟩))
      (heard 0 begun askedThroughout)) := by
  have sound : ((start "linux").step commaHeld).1.Sound := (run_windows "linux" [commaHeld]).2
  constructor
  · obtain ⟨-, tells⟩ := iteration_stable.1 ((start "linux").step commaHeld).1 "s" "i" 0
      askedThroughout sound rfl
    have leaves : AlongAll (Leaves 0) ((((start "linux").step commaHeld).1).act (.walk "s")
        (some "i")).1 askedThroughout := by
      unfold askedThroughout
      simp only [AlongAll, Along, Leaves]
      decide
    obtain ⟨stream, found, told⟩ := tells leaves _ _ rfl
    refine ⟨_, _, stream, rfl, found, ?_, told⟩
    cases found
    rfl
  · obtain ⟨values, window, separator, read, there, text, -, tells⟩ :=
      iteration_stable.2 ((start "linux").step commaHeld).1 "s" "l" "i" [.value (.bytes [44])]
        (some "l") [] askedThroughout 0 _ sound rfl rfl rfl
    have leaves : AlongAll (Leaves 0) (((((start "linux").step commaHeld).1.act
        (.call "s" .lines [.value (.bytes [44])]) (some "l")).1).act (.walk "l")
        (some "i")).1 askedThroughout := by
      unfold askedThroughout
      simp only [AlongAll, Along, Leaves]
      decide
    cases read
    cases there
    cases text
    exact (tells leaves).1

/-- A walk that is given to an operation is gone through, and has nothing to tell afterwards. -/
def askedAfterSearch : List Step :=
  [.act (.next "i") none, .act (.call "s" .startsWith [.register "i"]) none, .act (.next "i") none]

theorem walk_told_short :
    let session := ((start "linux").step commaHeld).1
    let begun := (session.act (.walk "s") (some "i")).1
    ∃ first answer stream, (heard 0 begun askedAfterSearch)[0]? = some (first, answer) ∧
      first.streamOf? 0 = some stream ∧
      ¬Tells (unitResults stream) (heard 0 begun askedAfterSearch) := by
  refine ⟨_, _, _, rfl, rfl, ?_⟩
  intro tells
  have last := tells 1 _ _ rfl
  cases last

end TextScan.Session
