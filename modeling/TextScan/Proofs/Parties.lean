import TextScan.Proofs.Aliasing

namespace TextScan.Session

section Parties

variable {base : Session} {own : Bool → Nat} {walks : Bool → Set Nat}
  {steps : Bool → List (Command × Option String)}

def oneByOne (first : Bool) (steps : Bool → List (Command × Option String)) :
    List (Bool × Command × Option String) :=
  (steps first).map (first, ·) ++ (steps !first).map (!first, ·)

theorem part_oneByOne (first who : Bool) (steps : Bool → List (Command × Option String)) :
    part who (oneByOne first steps) = steps who := by
  have all (party : Bool) : part party ((steps party).map (party, ·)) = steps party := by
    simp [part, List.filterMap_map]
  have none (party : Bool) : part (!party) ((steps party).map (party, ·)) = [] := by
    simp [part, List.filterMap_map]
  have split : part who (oneByOne first steps) =
      part who ((steps first).map (first, ·)) ++ part who ((steps !first).map (!first, ·)) :=
    List.filterMap_append
  rw [split]
  by_cases turn : who = first
  · subst turn
    have others := none !who
    rw [Bool.not_not] at others
    rw [all, others, List.append_nil]
  · obtain rfl : who = !first := Bool.eq_not.mpr turn
    rw [none, all, List.nil_append]

theorem mem_part {who : Bool} {turns : List (Bool × Command × Option String)}
    {turn : Bool × Command × Option String} (member : turn ∈ turns) (own : turn.1 = who) :
    turn.2 ∈ part who turns :=
  List.mem_filterMap.mpr ⟨turn, member, if_pos own⟩

theorem Object.Avoids.mono {cursor : Nat} {walks wider : Set Nat} {object : Object}
    (avoids : object.Avoids cursor walks) (more : walks ⊆ wider) : object.Avoids cursor wider := by
  cases object with
  | stream id => exact avoids
  | walk id => exact more avoids
  | streams cursors => exact avoids
  | value value => exact Value.Within.mono avoids more
  | made value parts => exact Value.Within.mono avoids more
  | _ => trivial

/-- Before the first turn each party sees in the session what it would see alone in it. -/
theorem Apart.woven (sound : base.Sound) (apart : Apart base own walks steps) :
    Woven base own (fun who => { on | ∃ step ∈ steps who, on ∈ step.1.names }) walks
      (fun _ => Equiv.refl Nat) base (fun _ => base) := by
  refine ⟨fun who => ?_, apart.disjoint⟩
  have still : base.store.Moves (fun _ => True) base.store := .refl sound.store
  refine ⟨sound, sound, ⟨still, still, fun _ _ _ => rfl, ?_⟩, ⟨rfl, rfl⟩, ⟨rfl, rfl⟩, ?_, ?_⟩
  · intro number mine
    obtain ⟨walk, found, avoids⟩ := (apart.confined who).reached number mine
    refine ⟨walk, found, found.trans ?_, sound.store.walks walk (List.mem_of_getElem? found),
      avoids⟩
    cases walk with
    | values rest =>
      have same : rest.map (Value.rename id) = rest :=
        (List.map_congr_left fun value _ => Value.rename_id value).trans (List.map_id rest)
      exact congrArg (fun rest => some (Walk.values rest)) same.symm
    | _ => rfl
  · intro object configured
    refine .of_known (sound.settings object configured)
      (Object.Avoids.mono ?_ fun _ none => False.elim none)
    exact apart.settings object configured !who
  · rintro on ⟨step, member, named⟩
    cases held : base.registers.lookup on with
    | none => exact .none
    | some object =>
      have known : base.lookup on = .ok object := by
        unfold lookup
        rw [held]
      exact .some (.of_known (sound.lookup known)
        ((apart.confined who).named step member on named object held))

/-- Every turn mentions what is the party's alone. -/
theorem Apart.fair (apart : Apart base own walks steps)
    {turns : List (Bool × Command × Option String)} (parts : ∀ who, part who turns = steps who) :
    ∀ turn ∈ turns, Fair (fun who => { on | ∃ step ∈ steps who, on ∈ step.1.names }) turn := by
  intro turn member
  have among : turn.2 ∈ steps turn.1 := parts turn.1 ▸ mem_part member rfl
  refine ⟨fun on named => ⟨turn.2, among, named⟩, (apart.confined turn.1).written turn.2 among, ?_⟩
  rintro on kept ⟨step, other, named⟩
  refine apart.registers (!turn.1) step other on named turn.2 ?_ kept
  rw [Bool.not_not]
  exact among

/-- However the turns are interleaved, each party gets the answers and the cursor that it gets
alone, its walks being numbered in their own order. -/
theorem Apart.run_alone (sound : base.Sound) (apart : Apart base own walks steps)
    {turns : List (Bool × Command × Option String)} (parts : ∀ who, part who turns = steps who) :
    ∃ names : Bool → Equiv.Perm Nat, ∀ who,
      let alone := base.run (acts (steps who))
      let woven := base.run (acts (turns.map Prod.snd))
      alone.2 = (heardBy who turns woven.2).map (Answer.rename (names who)) ∧
        alone.1.store.cursors[own who]? = woven.1.store.cursors[own who]? ∧
        alone.1.streamOf? (own who) = woven.1.streamOf? (own who) := by
  obtain ⟨mine, names, after, -, heard⟩ := (apart.woven sound).run sound.store apart.known
    apart.cursors turns (apart.fair parts) fun who => by
      rw [parts who]
      exact (apart.confined who).asks
  refine ⟨names, fun who => ?_⟩
  rw [← parts who]
  have mirrors := (after.mirrors who).store
  have cursors := mirrors.cursors (own who) (apart.known who) (apart.cursors who)
  refine ⟨heard who, cursors, ?_⟩
  unfold streamOf?
  rw [cursors]
  cases found : (base.run (acts (turns.map Prod.snd))).1.store.cursors[own who]? with
  | none => rfl
  | some cursor =>
    have known := mirrors.cursor_known sound.store (apart.known who) found
    exact congrArg some (mirrors.stream_same known)

end Parties

section Streams

theorem Answer.rename_id (answer : Answer) : answer.rename id = answer := by
  cases answer with
  | fork answers => rfl
  | act result window log =>
    cases result with
    | error fault => rfl
    | ok result =>
      cases result with
      | value value =>
        exact congrArg (fun value => Answer.act (.ok (.value value)) window log)
          (Value.rename_id value)
      | _ => rfl

/-- Answers that come to the same by two numberings come to one another by one. -/
theorem Answer.map_rename_eq {names names' : Equiv.Perm Nat} {answers answers' : List Answer}
    (same : answers.map (Answer.rename names) = answers'.map (Answer.rename names')) :
    answers = answers'.map (Answer.rename (names'.trans names.symm)) := by
  have back : (answers.map (Answer.rename names)).map (Answer.rename names.symm) = answers := by
    rw [List.map_map]
    refine (List.map_congr_left fun answer _ => ?_).trans (List.map_id answers)
    have whole : ⇑names.symm ∘ names = id := funext names.symm_apply_apply
    rw [Function.comp_apply, rename_rename, whole]
    exact answer.rename_id
  rw [← back, same, List.map_map]
  refine List.map_congr_left fun answer _ => ?_
  rw [Function.comp_apply, rename_rename]
  rfl

/-- Streams are apart from one another. Two parties with a stream each get the same answers and
leave the same windows however their operations are interleaved; what no command is asked of stays
as it is; a call is the same through all names of its receiver, which hold what it gave as itself;
and any other stream that is given has one name only. -/
theorem streams_apart :
    (∀ (base : Session) (own : Bool → Nat) (walks : Bool → Set Nat)
      (steps : Bool → List (Command × Option String)), base.Sound → Apart base own walks steps →
      ∀ turns, (∀ who, part who turns = steps who) → ∀ first,
        let woven := base.run (acts (turns.map Prod.snd))
        let parted := base.run (acts ((oneByOne first steps).map Prod.snd))
        ∃ names : Bool → Equiv.Perm Nat, ∀ who,
          heardBy who (oneByOne first steps) parted.2 =
              (heardBy who turns woven.2).map (Answer.rename (names who)) ∧
            parted.1.store.cursors[own who]? = woven.1.store.cursors[own who]? ∧
            parted.1.streamOf? (own who) = woven.1.streamOf? (own who)) ∧
    (∀ (session : Session) (steps : List Step) (id : Nat) (cursor : Cursor), session.Sound →
      AlongAll (fun session command _ => session.receiving? command ≠ some (.stream id))
        session steps →
      session.store.cursors[id]? = some cursor →
      (session.run steps).1.store.cursors[id]? = some cursor) ∧
    ∀ (session : Session) (on : String) (id : Nat), session.Sound →
      session.registers.lookup on = some (.stream id) →
      (∀ other method arguments name, session.registers.lookup other = some (.stream id) →
        session.act (.call on method arguments) name =
          session.act (.call other method arguments) name) ∧
      (∀ method arguments name done, session.effect (.call on method arguments) = .ok done →
        let after := (session.act (.call on method arguments) (some name)).1
        if method.returnsItself then
          done.result = .itself ∧ after.registers.lookup name = some (.stream id)
        else done.result ≠ .itself ∧ ∀ piece, done.result = .value (.stream piece) →
          ∃ new ≠ id, HoldsNew session after name new) ∧
      ∀ rest name done, session.effect (.create (.register on :: rest)) = .ok done →
        let after := (session.act (.create (.register on :: rest)) (some name)).1
        ∃ new ≠ id, HoldsNew session after name new := by
  refine ⟨?_, ?_, ?_⟩
  · intro base own walks steps sound apart turns parts first
    obtain ⟨names, heard⟩ := apart.run_alone sound parts
    obtain ⟨names', heard'⟩ := apart.run_alone sound fun who => part_oneByOne first who steps
    refine ⟨fun who => (names who).trans (names' who).symm, fun who => ?_⟩
    obtain ⟨answers, cursor, stream⟩ := heard who
    obtain ⟨answers', cursor', stream'⟩ := heard' who
    exact ⟨Answer.map_rename_eq (answers'.symm.trans answers), cursor'.symm.trans cursor,
      stream'.symm.trans stream⟩
  · intro session steps id cursor sound apart there
    exact run_cursor sound steps apart there
  · intro session on id sound held
    have other : session.store.cursors.length ≠ id := Nat.ne_of_gt (sound.lookup_known held)
    refine ⟨fun other method arguments name held' => act_alias held held' name, ?_, ?_⟩
    · intro method arguments name done ok
      have hands := call_hands held ok
      have keeps := act_keeps ok name
      cases itself : method.returnsItself with
      | true =>
        rw [itself] at hands
        obtain ⟨result, kept⟩ := hands
        exact ⟨result, kept ▸ keeps⟩
      | false =>
        rw [itself] at hands
        obtain ⟨result, fresh⟩ := hands
        refine ⟨result, fun piece given => ⟨_, other, ?_⟩⟩
        exact act_holdsNew sound ok rfl (by intro _ _ same; cases same) (fresh piece given) name
    · intro rest name done ok
      refine ⟨_, other, ?_⟩
      exact act_holdsNew sound ok rfl (by intro _ _ same; cases same) (create_fresh held ok) name

theorem defaultSettings_avoids {cursor : Nat} {walks : Set Nat} :
    ∀ object ∈ defaultSettings.toList, object.Avoids cursor walks := by
  intro object member
  simp only [defaultSettings, Settings.map, Settings.toList, List.mem_cons, List.not_mem_nil,
    or_false] at member
  rcases member with rfl | rfl | rfl
  · exact Value.within_of_same fun _ => rfl
  · exact Value.within_of_same fun _ => rfl
  · exact Value.within_of_same fun _ => rfl

/-- A stream over bytes, and a copy of it. -/
def copied : List Step :=
  [.act (.create [.value (.bytes [97, 44, 98, 32])]) (some "s"),
    .act (.call "s" .copy []) (some "t")]

/-- One party cuts the stream and looks for what it cut off; the other one trims the copy, takes
from it, walks over it and makes a stream over it. -/
def copiedParts (who : Bool) : List (Command × Option String) :=
  if who then
    [(.call "s" (.takeTo ⟨false, false, false⟩) [.value (.bytes [44])], some "u"),
      (.call "s" .drop [.value (.int 1)], none), (.call "s" .startsWith [.register "u"], none)]
  else
    [(.call "t" .trimBack [], none), (.call "t" .take [.value (.int 1)], some "v"),
      (.walk "t", some "i"), (.create [.register "t"], some "w")]

def copiedTurns : List (Bool × Command × Option String) :=
  [(true, .call "s" (.takeTo ⟨false, false, false⟩) [.value (.bytes [44])], some "u"),
    (false, .call "t" .trimBack [], none), (false, .call "t" .take [.value (.int 1)], some "v"),
    (true, .call "s" .drop [.value (.int 1)], none), (false, .walk "t", some "i"),
    (true, .call "s" .startsWith [.register "u"], none), (false, .create [.register "t"], some "w")]

def copiedOwn (who : Bool) : Nat := if who then 0 else 1

theorem copied_streams_apart :
    let base := ((start "linux").run copied).1
    let woven := base.run (acts (copiedTurns.map Prod.snd))
    let parted := base.run (acts ((oneByOne true copiedParts).map Prod.snd))
    base.Sound ∧ Apart base copiedOwn (fun _ => ∅) copiedParts ∧
      (∀ who, part who copiedTurns = copiedParts who) ∧
      (∀ who, parted.1.streamOf? (copiedOwn who) = woven.1.streamOf? (copiedOwn who)) ∧
      AlongAll (fun session command _ => session.receiving? command ≠ some (.stream 1)) base
        (acts (copiedParts true)) ∧
      (base.run (acts (copiedParts true))).1.store.cursors[1]? = base.store.cursors[1]? ∧
      base.registers.lookup "s" = some (.stream 0) ∧
      (base.act (.call "s" .drop [.value (.int 1)]) (some "a")).1.registers.lookup "a" =
        some (.stream 0) := by
  have sound : ((start "linux").run copied).1.Sound := (run_windows "linux" copied).2
  have parts : ∀ who, part who copiedTurns = copiedParts who := by
    intro who
    cases who with
    | true => rfl
    | false => rfl
  have plain (who : Bool) (values : List Value)
      (among : (copiedParts who).flatMap (fun step => literalsAmong step.1.terms) = values)
      (free : ∀ value ∈ values, ∀ names, value.rename names = value) :
      ∀ step ∈ copiedParts who, ∀ value ∈ literalsAmong step.1.terms, value.Within ∅ := by
    intro step member value written
    refine Value.within_of_same (free value ?_)
    rw [← among]
    exact List.mem_flatMap.mpr ⟨step, member, written⟩
  have confined (who : Bool) : Confined ((start "linux").run copied).1 (copiedOwn who)
      (copiedOwn !who) ∅ (copiedParts who) := by
    cases who with
    | true =>
      have named : ∀ step ∈ copiedParts true, ∀ on ∈ step.1.names, on = "s" ∨ on = "u" := by decide
      have written := plain true [.bytes [44], .int 1] rfl (by simp [Value.rename])
      refine ⟨⟨rfl, rfl, rfl, trivial⟩, ?_, written, fun _ none => False.elim none⟩
      intro step member on asked object held
      rcases named step member on asked with rfl | rfl
      · cases held
        exact Nat.zero_ne_one
      · cases held
    | false =>
      have named : ∀ step ∈ copiedParts false, ∀ on ∈ step.1.names, on = "t" := by decide
      have written := plain false [.int 1] rfl (by simp [Value.rename])
      refine ⟨⟨rfl, rfl, rfl, rfl, trivial⟩, ?_, written, fun _ none => False.elim none⟩
      intro step member on asked object held
      cases named step member on asked
      cases held
      exact Nat.one_ne_zero
  have apart : Apart ((start "linux").run copied).1 copiedOwn (fun _ => ∅) copiedParts :=
    ⟨by decide, by decide, fun _ _ none => False.elim none, by decide,
      fun object configured who => defaultSettings_avoids object configured, confined⟩
  have others : AlongAll (fun session command _ => session.receiving? command ≠ some (.stream 1))
      ((start "linux").run copied).1 (acts (copiedParts true)) := by
    refine ⟨?_, ?_, ?_, trivial⟩
    · intro same
      cases same
    · intro same
      cases same
    · intro same
      cases same
  obtain ⟨names, heard⟩ := streams_apart.1 _ _ _ _ sound apart copiedTurns parts true
  obtain ⟨-, itself, -⟩ := streams_apart.2.2 _ "s" 0 sound rfl
  exact ⟨sound, apart, parts, fun who => (heard who).2.2, others,
    streams_apart.2.1 _ _ 1 _ sound others rfl, rfl, (itself .drop _ "a" _ rfl).2⟩

/-- Two streams, and two walks over a third one that both parties are to search with. -/
def walksLent : List Step :=
  [.act (.create [.value (.bytes [121])]) (some "s"), .act (.call "s" .copy []) (some "t"),
    .act (.create [.value (.bytes [120])]) (some "o"), .act (.walk "o") (some "v"),
    .act (.walk "o") (some "w")]

def lentParts (who : Bool) : List (Command × Option String) :=
  if who then
    [(.call "s" .startsWith [.register "v"], none), (.call "s" .startsWith [.register "w"], none)]
  else
    [(.call "t" .startsWith [.register "w"], none), (.call "t" .startsWith [.register "v"], none)]

def lentTurns : List (Bool × Command × Option String) :=
  [(true, .call "s" .startsWith [.register "v"], none),
    (false, .call "t" .startsWith [.register "w"], none),
    (true, .call "s" .startsWith [.register "w"], none),
    (false, .call "t" .startsWith [.register "v"], none)]

/-- Which cursor an object is can be computed. -/
theorem stream_of_cursor {object : Option Object} {id : Nat} :
    object.bind Object.cursor? = some id ↔ object = some (.stream id) := by
  constructor
  · intro found
    obtain ⟨object, rfl, same⟩ := Option.bind_eq_some_iff.mp found
    cases object with
    | stream other =>
      cases same
      rfl
    | _ => cases same
  · intro same
    rw [same]
    rfl

def Answer.isTrue : Answer → Bool
  | .act (.ok (.value (.bool truth))) _ _ => truth
  | _ => false

theorem Answer.isTrue_rename (names : Nat → Nat) :
    Answer.isTrue ∘ Answer.rename names = Answer.isTrue := by
  funext answer
  cases answer with
  | fork answers => rfl
  | act result window log =>
    cases result with
    | error fault => rfl
    | ok result =>
      cases result with
      | value value =>
        cases value with
        | _ => rfl
      | _ => rfl

/-- A walk that both parties go through tells one of them what the other one did: whoever comes
second finds it at its end. -/
theorem lent_walks_interfere :
    ¬∀ (base : Session) (own : Bool → Nat) (steps : Bool → List (Command × Option String)),
      base.Sound → (∀ who, own who < base.store.cursors.length) → (∀ who, own who ≠ own !who) →
      (∀ who, AlongAll (fun session command _ => session.OperatesOn (own who) command) base
        (acts (steps who))) →
      (∀ who, ∀ step ∈ steps who, step.2 = none ∧ ∀ on ∈ step.1.names,
        base.registers.lookup on ≠ some (.stream (own !who))) →
      ∀ turns, (∀ who, part who turns = steps who) → ∀ first, ∃ names : Bool → Equiv.Perm Nat,
        ∀ who, heardBy who (oneByOne first steps)
            (base.run (acts ((oneByOne first steps).map Prod.snd))).2 =
          (heardBy who turns (base.run (acts (turns.map Prod.snd))).2).map
            (Answer.rename (names who)) := by
  intro undisturbed
  have sound : ((start "linux").run walksLent).1.Sound := (run_windows "linux" walksLent).2
  have asked (who : Bool) : AlongAll
      (fun session command _ => session.OperatesOn (copiedOwn who) command)
      ((start "linux").run walksLent).1 (acts (lentParts who)) := by
    have read (session : Session) (on : String) (arguments : List Term)
        (found : (session.receiving? (.call on .startsWith arguments)).bind Object.cursor? =
          some (copiedOwn who)) :
        session.OperatesOn (copiedOwn who) (.call on .startsWith arguments) :=
      stream_of_cursor.mp found
    cases who with
    | true =>
      simp only [acts, lentParts, if_true, List.map, AlongAll, Along]
      exact ⟨read _ _ _ (by decide +kernel), read _ _ _ (by decide +kernel), trivial⟩
    | false =>
      simp only [acts, lentParts, Bool.false_eq_true, if_false, List.map, AlongAll, Along]
      exact ⟨read _ _ _ (by decide +kernel), read _ _ _ (by decide +kernel), trivial⟩
  have apart : ∀ who, ∀ step ∈ lentParts who, step.2 = none ∧ ∀ on ∈ step.1.names,
      (((start "linux").run walksLent).1.registers.lookup on).bind Object.cursor? ≠
        some (copiedOwn !who) := by
    decide +kernel
  have parts : ∀ who, part who lentTurns = lentParts who := by
    intro who
    cases who with
    | true => rfl
    | false => rfl
  obtain ⟨names, heard⟩ := undisturbed _ copiedOwn lentParts sound (by decide +kernel)
    (by decide) asked (fun who step member => ⟨(apart who step member).1, fun on named held =>
      (apart who step member).2 on named (stream_of_cursor.mpr held)⟩) lentTurns parts true
  -- The truth of the answers is what differs; it does not depend on how walks are numbered.
  have truths := congrArg (List.map Answer.isTrue) (heard true)
  rw [List.map_map, Answer.isTrue_rename] at truths
  exact absurd truths (by decide +kernel)

end Streams

end TextScan.Session
