import TextScan.Proofs.WalkGrounds
import TextScan.Proofs.Readback

namespace TextScan

/-- Whether a number is one that the items of a growing buffer hold. -/
def Buffer.admits (buffer : Buffer) (code : Int) : Bool :=
  decide (0 ≤ code) && decide (code.toNat ≤ buffer.unit.maxValue) &&
    match buffer.backing with
    | .byteArray => true
    | .array format _ _ => (format.refusing? code).isNone
    | _ => false

namespace Session

/-- Something alive is pinned on a buffer, or shows its memory. -/
def IsHeld (session : Session) (id : Nat) : Prop :=
  ∃ holder ∈ session.kept, ∃ ground ∈ session.store.grounds holder,
    session.store.groundHolds id ground = true

/-- Something is alive while all that it refers to is referred to by what is kept. -/
def IsAlive (session : Session) (object : Object) : Prop :=
  ∃ holder ∈ session.kept, ∀ part ∈ object.parts, part ∈ holder.parts

/-- What comes of something by a chain of commands, in the course of a run: each command is asked
of what the one before it gave, and gives a stream, lines, a walk or a view of memory. In between
the run goes on, into forks and out of them. -/
inductive Derived (first : Session) (source : Object) : Session → Object → Prop
  | self : Derived first source first source
  | given {session : Session} {object : Object} {command : Command} {done : Effect}
      (chain : Derived first source session object)
      (asked : session.asked? command = some object) (ok : session.effect command = .ok done)
      (view : done.session.store.isView done.kept = true) (name : Option String) :
    Derived first source (session.act command name).1 done.kept
  | later {session : Session} {object : Object} (chain : Derived first source session object)
      (step : Step) : Derived first source (session.step step).1 object
  | entered {session : Session} {object : Object} (chain : Derived first source session object)
      (fresh : Bool) : Derived first source (session.forked fresh) object
  | left {session : Session} {object : Object} {fresh : Bool} {steps : List Step}
      (sound : session.Sound)
      (chain : Derived first source ((session.forked fresh).run steps).1 object) :
    Derived first source (session.step (.fork fresh steps)).1 object

variable {session : Session} {before after : Store} {id : Nat} {object : Object} {window : Cursor}

theorem isExported_iff (session : Session) (id : Nat) :
    session.isExported id = true ↔ session.IsHeld id := by
  simp only [isExported, IsHeld, Store.grounds, Store.partHolds_eq, List.any_eq_true,
    List.mem_flatMap]
  constructor
  · rintro ⟨holder, kept, part, member, ground, present, holds⟩
    exact ⟨holder, kept, ground, ⟨part, member, present⟩, holds⟩
  · rintro ⟨holder, kept, ground, ⟨part, member, present⟩, holds⟩
    exact ⟨holder, kept, part, member, ground, present, holds⟩

section Chains

/-- Something in a sound session that stands on nothing but what keeps a buffer from growing. -/
structure Tied (session : Session) (id : Nat) (object : Object) : Prop where
  sound : session.Sound
  known : session.store.Knows object
  view : session.store.isView object = true
  ties : session.store.Ties id object

theorem Store.Extends.isView (onward : before.Extends after) (known : before.Knows object) :
    after.isView object = before.isView object := by
  cases object with
  | buffer other => exact congrArg Backing.isMemory (onward.backings other known)
  | _ => rfl

theorem Tied.onward {later : Session} (tied : session.Tied id object) (sound : later.Sound)
    (onward : session.store.Extends later.store) (narrows : session.store.Narrows later.store) :
    later.Tied id object := by
  refine ⟨sound, tied.known.extends onward, ?_, ?_⟩
  · rw [onward.isView tied.known]
    exact tied.view
  · intro ground member
    obtain ⟨part, present, stands⟩ := List.mem_flatMap.mp member
    have stood : ground ∈ session.store.grounds object :=
      List.mem_flatMap.mpr ⟨part, present, narrows part (tied.known.parts part present) ground stands⟩
    have known := (Store.ground_known tied.sound.store tied.known stood).1
    rw [Store.Grows.holds onward.toGrows known]
    exact tied.ties ground stood

theorem Derived.tied {first : Session} {source : Object} (derived : Derived first source session object)
    (tied : first.Tied id source) : session.Tied id object := by
  induction derived with
  | self => exact tied
  | @given session object command done chain asked ok view name ih =>
    have lawful := effect_lawful ih.sound ok
    have given : done.session.Tied id done.kept :=
      ⟨lawful.sound, lawful.known, view, effect_ties ih.sound asked ok ih.view view ih.ties⟩
    obtain ⟨moved, log, acted⟩ := act_ok ok name
    have moves := finish_moves lawful.sound.store (session.walksUsed command)
    have sound := (act_lawful ih.sound command name).sound
    rw [acted] at sound ⊢
    refine given.onward sound ?_ ?_
    · rw [kept_store]
      exact moves.onward
    · rw [kept_store]
      exact finish_narrows lawful.sound.store _
  | later chain step ih =>
    obtain ⟨-, sound, onward⟩ := step_lawful ih.sound step
    exact ih.onward sound onward (step_narrows ih.sound step)
  | entered chain fresh ih =>
    exact ⟨ih.sound.forked fresh, ih.known, ih.view, ih.ties⟩
  | @left session object fresh steps sound chain ih =>
    have still := (step_lawful sound (.fork fresh steps)).2.1
    rw [step_fork] at still ⊢
    exact ⟨still, ih.known, ih.view, ih.ties⟩

theorem Tied.held (tied : session.Tied id object) (stands : session.store.grounds object ≠ [])
    (alive : session.IsAlive object) : session.IsHeld id := by
  obtain ⟨ground, rest, some⟩ := List.exists_cons_of_ne_nil stands
  have member : ground ∈ session.store.grounds object := some ▸ .head rest
  obtain ⟨holder, kept, within⟩ := alive
  obtain ⟨part, present, there⟩ := List.mem_flatMap.mp member
  exact ⟨holder, kept, ground, List.mem_flatMap.mpr ⟨part, within part present, there⟩,
    tied.ties ground member⟩

end Chains

/-- What a command does to pins, in any session. -/
structure KeepsPins (session : Session) (command : Command) (name : Option String) : Prop where
  /-- A stream over a buffer is pinned on it just if the buffer grows and assertions are checked. -/
  built : ∀ arguments own done, command = .create arguments →
    session.sourceOf arguments = .ok own → (∀ cursor, own ≠ .stream cursor) →
    session.effect command = .ok done →
    ∃ cursor window, done.kept = .stream cursor ∧
      done.session.store.cursors[cursor]? = some window ∧
      (∀ buffer, own = .buffer buffer → window.buffer = buffer) ∧
      (session.valueOf own).buffer = .ok (done.session.store.buffer window.buffer) ∧
      (window.pinned = true ↔ session.environment.checksAssertions = true ∧
        (done.session.store.buffer window.buffer).backing.isGrowable = true)
  /-- What is cut from something has its pin, and is on its buffer. -/
  derived : ∀ object done, session.asked? command = some object → object.isCut = true →
    session.effect command = .ok done →
    (∀ (cursor : Nat) (window : Cursor), session.store.cursors.length ≤ cursor →
      done.session.store.cursors[cursor]? = some window →
      ∃ outer ∈ session.store.windows object, window.ground = outer.ground) ∧
    ∀ inner ∈ done.session.store.windows done.kept,
      ∃ outer ∈ session.store.windows object, inner.ground = outer.ground
  /-- A stream keeps its pin, and its buffer. -/
  constant : ∀ (cursor : Nat) (window : Cursor), session.store.cursors[cursor]? = some window →
    ∃ moved, (session.act command name).1.store.cursors[cursor]? = some moved ∧
      moved.ground = window.ground
  /-- The buffer of a pinned stream is held while anything is alive that comes of the stream. -/
  tied : ∀ (earlier : Session) (cursor : Nat) (window : Cursor) (object : Object),
    earlier.Sound → earlier.store.cursors[cursor]? = some window → window.pinned = true →
    Derived earlier (.stream cursor) session object → session.store.grounds object ≠ [] →
    session.IsAlive object → session.IsHeld window.buffer
  /-- A buffer that is held does not grow, and of a value that it would hold that is said. -/
  refused : ∀ on code cursor window, command = .append on code →
    session.cursorIn on "buffer" = .ok (cursor, window) → session.IsHeld window.buffer →
    (session.act command name).1 = session ∧
      ∃ fault, session.effect command = .error fault ∧
        ∀ value number, session.eval code = .ok value → value.int? = some number →
          (session.store.buffer window.buffer).admits number = true → fault.kind = .buffer
  /-- A buffer that nothing holds grows by what it admits, and all windows show what they did. -/
  granted : ∀ on code cursor window value number, command = .append on code →
    session.cursorIn on "buffer" = .ok (cursor, window) → session.eval code = .ok value →
    value.int? = some number → (session.store.buffer window.buffer).admits number = true →
    ¬session.IsHeld window.buffer →
    let after := (session.act command name).1
    (∃ done, session.effect command = .ok done ∧ done.kept = .value .null) ∧
      (after.store.buffer window.buffer).units =
        (session.store.buffer window.buffer).units ++ [number.toNat] ∧
      (∀ other, other ≠ window.buffer → after.store.buffer other = session.store.buffer other) ∧
      after.store.cursors = session.store.cursors ∧ after.store.walks = session.store.walks ∧
      ∀ held, session.store.Holds held →
        (after.store.stream held).content = (session.store.stream held).content

section Law

variable {done : Effect} {command : Command}

theorem valueOf_made (session : Session) (value : Value) (terms : List Term) :
    session.valueOf (session.made value terms) = value := by
  unfold made Object.ofValue
  split
  · rfl
  · rfl

/-- What a new stream is made over has the value of the first argument. -/
theorem valueOf_source {arguments : List Term} {values : List Value} {own : Object}
    (read : session.evalMany arguments = .ok values)
    (held : session.sourceOf arguments = .ok own) :
    values.headD (.text []) = session.valueOf own := by
  cases arguments with
  | nil =>
    cases read
    cases held
    rfl
  | cons term rest =>
    rcases hold_eq_ok held with ⟨name, rfl, found⟩ | ⟨-, value, evaluated, rfl⟩
    · exact evalMany_register read found
    · obtain ⟨first, same, read⟩ := bind_eq_ok.mp read
      obtain ⟨others, -, read⟩ := bind_eq_ok.mp read
      cases read
      cases evaluated.symm.trans same
      exact (valueOf_made session value [term]).symm

theorem create_built {arguments : List Term} {own : Object}
    (held : session.sourceOf arguments = .ok own) (other : ∀ cursor, own ≠ .stream cursor)
    (ok : session.effect (.create arguments) = .ok done) :
    ∃ cursor window, done.kept = .stream cursor ∧
      done.session.store.cursors[cursor]? = some window ∧
      (∀ buffer, own = .buffer buffer → window.buffer = buffer) ∧
      (session.valueOf own).buffer = .ok (done.session.store.buffer window.buffer) ∧
      (window.pinned = true ↔ session.environment.checksAssertions = true ∧
        (done.session.store.buffer window.buffer).backing.isGrowable = true) := by
  obtain ⟨values, read, made⟩ := bind_eq_ok.mp ok
  obtain ⟨_, -, made⟩ := bind_eq_ok.mp made
  obtain ⟨same, given, made⟩ := bind_eq_ok.mp made
  cases held.symm.trans given
  have value := valueOf_source read held
  have pinned (buffer : Buffer) : session.pins buffer = true ↔
      session.environment.checksAssertions = true ∧ buffer.backing.isGrowable = true :=
    Bool.and_eq_true_iff
  cases own with
  | stream cursor => exact absurd rfl (other cursor)
  | buffer id =>
    obtain ⟨window, -, made⟩ := bind_eq_ok.mp made
    cases made
    refine ⟨_, _, rfl, List.getElem?_concat_length, ?_, ?_, pinned _⟩
    · rintro buffer ⟨⟩
      rfl
    · exact (session.store.buffer id).buffer_ofBuffer
  | _ =>
    obtain ⟨buffer, whole, made⟩ := bind_eq_ok.mp made
    obtain ⟨window, -, made⟩ := bind_eq_ok.mp made
    cases made
    have there : (session.store.addBuffer ⟨buffer, none⟩).1.buffer
        (session.store.addBuffer ⟨buffer, none⟩).2 = buffer :=
      (session.store.addBuffer_known ⟨buffer, none⟩).2
    refine ⟨_, _, rfl, List.getElem?_concat_length, nofun, ?_, ?_⟩
    · rw [← value]
      cases units : (values.headD (.text [])).buffer with
      | error fault =>
        rw [units] at whole
        cases whole
      | ok content =>
        rw [units] at whole
        cases whole
        exact congrArg Except.ok there.symm
    · exact (pinned buffer).trans (Iff.of_eq (congrArg (fun content : Buffer =>
        session.environment.checksAssertions = true ∧ content.backing.isGrowable = true)
        there.symm))

/-- What is cut from something stands where that does. -/
theorem effect_derived (sound : session.Sound) (asked : session.asked? command = some object)
    (isCut : object.isCut = true) (ok : session.effect command = .ok done) :
    (∀ (cursor : Nat) (window : Cursor), session.store.cursors.length ≤ cursor →
      done.session.store.cursors[cursor]? = some window →
      ∃ outer ∈ session.store.windows object, window.ground = outer.ground) ∧
    ∀ inner ∈ done.session.store.windows done.kept,
      ∃ outer ∈ session.store.windows object, inner.ground = outer.ground := by
  by_cases append : ∃ on code, command = .append on code
  · obtain ⟨on, code, rfl⟩ := append
    obtain ⟨found, -, ok⟩ := bind_eq_ok.mp ok
    obtain ⟨value, -, ok⟩ := bind_eq_ok.mp ok
    obtain ⟨code, fits, -, -, -, rfl⟩ := grow_ok ok
    refine ⟨?_, List.forall_mem_nil _⟩
    intro cursor window new there
    exact absurd (List.getElem?_eq_some_iff.mp there).1 (Nat.not_lt.mpr new)
  · have steady := effect_steady sound ok fun on code same => append ⟨on, code, same⟩
    obtain ⟨fresh, kept⟩ := steady.cut object asked isCut
    constructor
    · intro cursor window new there
      obtain ⟨outer, goes, inside⟩ := fresh cursor window new there
      exact ⟨outer, goes, inside.ground⟩
    · intro inner there
      obtain ⟨outer, goes, inside⟩ := kept inner there
      exact ⟨outer, goes, inside.ground⟩

/-- What is said of a number that a pinned buffer would hold. -/
theorem pinnedFault_admits {buffer : Buffer} {code : Int} (admitted : buffer.admits code = true) :
    buffer.backing.isGrowable = true ∧
      (0 ≤ code ∧ code.toNat ≤ buffer.unit.maxValue) ∧
      ∃ fault, pinnedFault buffer code = .ok fault ∧ fault.kind = .buffer := by
  obtain ⟨backing, units, bounded⟩ := buffer
  simp only [Buffer.admits, Bool.and_eq_true, decide_eq_true_eq] at admitted
  obtain ⟨fits, held⟩ := admitted
  cases backing with
  | byteArray =>
    have high : code.toNat ≤ 255 := fits.2
    have byte : 0 ≤ code ∧ code < 256 := by omega
    exact ⟨rfl, fits, .pinnedBytes, if_pos byte, rfl⟩
  | array format unit readable =>
    refine ⟨rfl, fits, .pinnedItems, ?_, rfl⟩
    simp only [pinnedFault, Option.isNone_iff_eq_none.mp held]
  | _ => cases held

/-- Nothing is put into a buffer that something keeps from growing. -/
theorem grow_exported {id : Nat} (exported : session.isExported id = true) (value : Value) :
    ∃ fault, session.grow id value = .error fault ∧ ∀ number, value.int? = some number →
      (session.store.buffer id).admits number = true → fault.kind = .buffer := by
  unfold grow
  dsimp only
  split
  · rename_i fixed
    refine ⟨_, rfl, fun number _ admitted => ?_⟩
    rw [(pinnedFault_admits admitted).1] at fixed
    cases fixed
  · split
    · rename_i none
      refine ⟨_, rfl, fun number whole _ => ?_⟩
      cases none.symm.trans whole
    · rename_i code whole
      cases said : pinnedFault (session.store.buffer id) code with
      | error fault =>
        refine ⟨fault, rfl, fun number same admitted => ?_⟩
        cases whole.symm.trans same
        obtain ⟨-, -, pinned, allowed, -⟩ := pinnedFault_admits admitted
        cases said.symm.trans allowed
      | ok fault =>
        refine ⟨fault, rfl, fun number same admitted => ?_⟩
        cases whole.symm.trans same
        obtain ⟨-, -, pinned, allowed, buffer⟩ := pinnedFault_admits admitted
        cases said.symm.trans allowed
        exact buffer

/-- A number that a buffer holds is put at its end, where nothing keeps it from growing. -/
theorem grow_admitted {id : Nat} {value : Value} {number : Int}
    (free : session.isExported id = false) (whole : value.int? = some number)
    (admitted : (session.store.buffer id).admits number = true) :
    ∃ fits, session.grow id value = .ok (answer { session with
      store := session.store.setBuffer id
        ((session.store.buffer id).push number.toNat fits) } .null) := by
  obtain ⟨growable, fits, pinned, allowed, -⟩ := pinnedFault_admits admitted
  refine ⟨fits.2, ?_⟩
  unfold grow
  simp only [growable, Bool.not_true, Bool.false_eq_true, if_false, whole, allowed, bind,
    Except.bind, free, dif_pos fits]
  rfl

theorem append_refused (name : Option String) {on : String} {code : Term} {cursor : Nat}
    (found : session.cursorIn on "buffer" = .ok (cursor, window))
    (held : session.IsHeld window.buffer) :
    (session.act (.append on code) name).1 = session ∧
      ∃ fault, session.effect (.append on code) = .error fault ∧
        ∀ value number, session.eval code = .ok value → value.int? = some number →
          (session.store.buffer window.buffer).admits number = true → fault.kind = .buffer := by
  have exported := (session.isExported_iff window.buffer).mpr held
  have faulted : ∃ fault, session.append on code = .error fault ∧
      ∀ value number, session.eval code = .ok value → value.int? = some number →
        (session.store.buffer window.buffer).admits number = true → fault.kind = .buffer := by
    unfold Session.append
    rw [found]
    cases read : session.eval code with
    | error fault => exact ⟨fault, rfl, nofun⟩
    | ok value =>
      obtain ⟨fault, faulted, buffer⟩ := grow_exported exported value
      refine ⟨fault, faulted, ?_⟩
      rintro own number ⟨⟩
      exact buffer number
  obtain ⟨fault, faulted, buffer⟩ := faulted
  have refused : session.effect (.append on code) = .error fault := faulted
  obtain ⟨moved, log, acted⟩ := act_error refused name
  refine ⟨?_, fault, faulted, buffer⟩
  rw [acted]
  rfl

theorem append_granted (sound : session.Sound) (name : Option String) {on : String} {code : Term}
    {cursor : Nat} {value : Value} {number : Int}
    (found : session.cursorIn on "buffer" = .ok (cursor, window))
    (read : session.eval code = .ok value) (whole : value.int? = some number)
    (admitted : (session.store.buffer window.buffer).admits number = true)
    (free : ¬session.IsHeld window.buffer) :
    let after := (session.act (.append on code) name).1
    (∃ done, session.effect (.append on code) = .ok done ∧ done.kept = .value .null) ∧
      (after.store.buffer window.buffer).units =
        (session.store.buffer window.buffer).units ++ [number.toNat] ∧
      (∀ other, other ≠ window.buffer → after.store.buffer other = session.store.buffer other) ∧
      after.store.cursors = session.store.cursors ∧ after.store.walks = session.store.walks ∧
      ∀ held, session.store.Holds held →
        (after.store.stream held).content = (session.store.stream held).content := by
  have exported : session.isExported window.buffer = false := by
    rw [← Bool.not_eq_true, isExported_iff]
    exact free
  obtain ⟨fits, grown⟩ := grow_admitted exported whole admitted
  have effected : session.effect (.append on code) = session.grow window.buffer value := by
    change session.append on code = _
    unfold Session.append
    rw [found]
    dsimp only [bind, Except.bind]
    rw [read]
  rw [grown] at effected
  have known := (sound.cursorIn found).2.2.known
  have pushed := session.store.push_buffer known fits
  obtain ⟨moved, log, acted⟩ := act_ok effected name
  have lawful := act_lawful sound (.append on code) name
  have onward := lawful.onward
  dsimp only
  rw [acted] at onward ⊢
  rw [kept_store] at onward ⊢
  refine ⟨⟨_, effected, rfl⟩, ?_, ?_, rfl, rfl, ?_⟩
  · exact congrArg Buffer.units ((pushed window.buffer).trans (if_pos rfl))
  · exact fun other different => (pushed other).trans (if_neg different)
  · exact fun held holds => (holds.grown onward).content holds.valid

theorem act_pins (sound : session.Sound) (command : Command) (name : Option String) :
    KeepsPins session command name := by
  have lawful := act_lawful sound command name
  constructor
  · rintro arguments own done rfl held other ok
    exact create_built held other ok
  · intro object done asked isCut ok
    exact effect_derived sound asked isCut ok
  · intro cursor window there
    obtain ⟨moved, here, inside⟩ := lawful.onward.cursors cursor window there
    exact ⟨moved, here, inside.ground⟩
  · intro earlier cursor window object still there pinned derived stands alive
    have tied : earlier.Tied window.buffer (.stream cursor) := by
      refine ⟨still, (List.getElem?_eq_some_iff.mp there).1, rfl, ?_⟩
      intro ground member
      obtain ⟨own, goes, rfl⟩ := Store.window_of_ground rfl (by nofun) member
      cases there.symm.trans (Option.mem_toList.mp goes)
      simp [Store.groundHolds, Cursor.ground, pinned]
    exact (derived.tied tied).held stands alive
  · rintro on code cursor window rfl found held
    exact append_refused name found held
  · rintro on code cursor window value number rfl found read whole admitted free
    exact append_granted sound name found read whole admitted free

/-- Over every run from a session's start, streams over buffers are pinned just while assertions
are checked, pins stay with what is cut, and a buffer grows just when nothing alive holds it. -/
theorem run_pins (platform : String) (steps : List Step) :
    AlongAll KeepsPins (start platform) steps :=
  alongAll_of_sound (fun _ command name sound => act_pins sound command name)
    (start_sound platform) steps

/-- A view keeps the buffer pinned when the stream it was taken from is gone and assertions are no
longer checked. -/
example : ((start "linux").run [.act (.setConfig [("assertions", .value (.bool true))]) none,
    .act (.create [.value (.byteArray [97])]) (some "s"), .act .resetConfig none,
    .act (.call "s" .take [.value (.int 1)]) (some "s")]).1.effect
      (.append "s" (.value (.int 98))) = .error .pinnedBytes := rfl

def pinnedByte : List Step :=
  [.act (.setConfig [("assertions", .value (.bool true))]) none,
    .act (.create [.value (.byteArray [97])]) (some "s")]

/-- A number that is no byte is refused before the pin is looked at. -/
theorem pinned_append_beyond :
    let session := ((start "linux").run pinnedByte).1
    session.lookup "s" = .ok (.stream 0) ∧
      (∃ window, session.store.cursors[0]? = some window ∧ window.pinned = true) ∧
      ∃ fault, session.effect (.append "s" (.value (.int 300))) = .error fault ∧
        fault.kind ≠ .buffer :=
  ⟨rfl, ⟨_, rfl, rfl⟩, .byteRange, rfl, by decide⟩

end Law

end Session

end TextScan
