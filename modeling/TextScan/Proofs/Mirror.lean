import Mathlib.Logic.Equiv.Basic
import TextScan.Proofs.Assertions
import TextScan.Proofs.TransportedCalls

/-! Mirrors: two sessions that show one party the same, though they number what was made since
differently. One cursor is not the party's to see, and neither are walks that are not its own. -/

namespace TextScan

/-- Numbers that keep those of some walks. -/
def Fixes (walks : Set Nat) (names : Equiv.Perm Nat) : Prop := ∀ id ∈ walks, names id = id

/-- Numbers that agree on some walks come to one another by numbers that keep those. -/
theorem numbered_alike {walks : Set Nat} {names names' : Equiv.Perm Nat}
    (agree : ∀ id ∈ walks, names id = names' id) :
    Fixes walks (names.trans names'.symm) ∧ names' ∘ names.trans names'.symm = names := by
  refine ⟨fun id member => ?_, funext fun id => names'.apply_symm_apply (names id)⟩
  rw [Equiv.trans_apply, agree id member, Equiv.symm_apply_apply]

/-- A value in which there are no walks but some: it stays as it is when all others are
numbered differently. -/
def Value.Within (walks : Set Nat) (value : Value) : Prop :=
  ∀ names : Equiv.Perm Nat, Fixes walks names → value.rename names = value

namespace Value

variable {value : Value} {walks wider : Set Nat} {names names' : Equiv.Perm Nat}

theorem Within.mono (within : value.Within walks) (more : walks ⊆ wider) : value.Within wider :=
  fun names fixes => within names fun id member => fixes id (more member)

theorem within_of_same (same : ∀ names, value.rename names = value) : value.Within walks :=
  fun names _ => same names

/-- Only the numbers of the walks in a value matter to it. -/
theorem Within.agree (within : value.Within walks) (agree : ∀ id ∈ walks, names id = names' id) :
    value.rename names = value.rename names' := by
  obtain ⟨fixes, whole⟩ := numbered_alike agree
  calc
    value.rename names = (value.rename (names.trans names'.symm)).rename names' := by
      rw [rename_rename, whole]
    _ = value.rename names' := by rw [within _ fixes]

theorem map_within {values : List Value} (within : ∀ value ∈ values, value.Within walks)
    (fixes : Fixes walks names) : values.map (rename names) = values := by
  rw [List.map_congr_left fun value member => within value member names fixes]
  exact List.map_id _

/-- Values that are the same but for the numbers of the walks in them, which are some. -/
structure Renumbered (walks : Set Nat) (names : Nat → Nat) (values values' : List Value) :
    Prop where
  same : values' = values.map (rename names)
  within : ∀ value ∈ values, value.Within walks

theorem renumbered_of_same {values values' : List Value} {names : Nat → Nat}
    (same : values' = values) (free : ∀ value ∈ values, ∀ names, value.rename names = value) :
    Renumbered walks names values values' where
  same := by
    rw [same, List.map_congr_left fun value member => free value member names]
    exact (List.map_id _).symm
  within value member := within_of_same fun names => free value member names

theorem within_generator {id : Nat} {rest : List Value} (own : id ∈ walks)
    (within : ∀ value ∈ rest, value.Within walks) : (generator id rest).Within walks := by
  intro names fixes
  rw [rename, renameAll_eq, map_within within fixes, fixes id own]

end Value

/-- Numbers that stay as they are, whatever becomes of those outside a set, are in that set. -/
theorem mem_of_fixed {walks : Set Nat} {bound : Nat} (below : ∀ id ∈ walks, id < bound)
    {used : List Nat} (fixed : ∀ names, Fixes walks names → used.map names = used) {id : Nat}
    (member : id ∈ used) : id ∈ walks := by
  by_contra foreign
  have beyond : ∃ fresh, bound ≤ fresh ∧ ∀ other ∈ used, other < fresh := by
    clear member fixed
    induction used with
    | nil => exact ⟨bound, Nat.le_refl _, List.forall_mem_nil _⟩
    | cons first rest later =>
      obtain ⟨fresh, least, above⟩ := later
      refine ⟨max fresh (first + 1), by omega, ?_⟩
      rw [List.forall_mem_cons]
      exact ⟨by omega, fun other member => by have := above other member; omega⟩
  obtain ⟨fresh, least, above⟩ := beyond
  have fixes : Fixes walks (Equiv.swap id fresh) := by
    intro other own
    refine Equiv.swap_apply_of_ne_of_ne ?_ ?_
    · rintro rfl
      exact foreign own
    · have := below other own
      omega
  have moved : fresh ∈ used := by
    rw [← fixed _ fixes]
    exact List.mem_map.mpr ⟨id, member, Equiv.swap_apply_left id fresh⟩
  exact Nat.lt_irrefl _ (above fresh moved)

namespace Session

/-- An object that does not lead to a cursor, nor to walks but some. -/
def Object.Avoids (cursor : Nat) (walks : Set Nat) : Object → Prop
  | .stream id => id ≠ cursor
  | .walk id => id ∈ walks
  | .streams cursors => cursor ∉ cursors
  | .value given => given.Within walks
  | .made given _ => given.Within walks
  | _ => True

/-- A walk that does not lead to a cursor, nor to walks but some. -/
def Walk.Avoids (cursor : Nat) (walks : Set Nat) : Walk → Prop
  | .waiting (.units id) => id ≠ cursor
  | .streams cursors _ => cursor ∉ cursors
  | .values rest => ∀ value ∈ rest, value.Within walks
  | _ => True

/-- The walk with other numbers for those in what it is to give. -/
def Walk.rename (names : Nat → Nat) : Walk → Walk
  | .values rest => .values (rest.map (Value.rename names))
  | walk => walk

def Object.value? : Object → Option Value
  | .value given => some given
  | .made given _ => some given
  | _ => none

def Object.cursor? : Object → Option Nat
  | .stream id => some id
  | _ => none

/-- Two stores that came out of one. The cursors that were there stand alike in them, but for
one, and so do some walks, which go by other numbers in the second store. -/
structure Store.Mirrors (base : Store) (other : Nat) (mine : Set Nat) (names : Equiv.Perm Nat)
    (here there : Store) : Prop where
  came : base.Moves (fun _ => True) here
  came' : base.Moves (fun _ => True) there
  cursors : ∀ id < base.cursors.length, id ≠ other → there.cursors[id]? = here.cursors[id]?
  walks : ∀ id ∈ mine, ∃ walk, here.walks[id]? = some walk ∧
    there.walks[names id]? = some (walk.rename names) ∧ base.Guards walk ∧ walk.Avoids other mine

/-- What is held in two such stores and shows the same. -/
inductive Twin (base : Store) (other : Nat) (mine : Set Nat) (names : Equiv.Perm Nat)
    (here there : Store) : Object → Object → Prop
  | stream {id : Nat} (known : id < base.cursors.length) (apart : id ≠ other) :
    Twin base other mine names here there (.stream id) (.stream id)
  | fresh {id id' : Nat} {cursor : Cursor} (new : base.cursors.length ≤ id)
    (new' : base.cursors.length ≤ id') (found : here.cursors[id]? = some cursor)
    (found' : there.cursors[id']? = some cursor) (known : cursor.buffer < base.holdings.length) :
    Twin base other mine names here there (.stream id) (.stream id')
  | lines {window : Cursor} {separator : List Nat} {forms : List NumberForm}
    (known : window.buffer < base.holdings.length) :
    Twin base other mine names here there (.lines window separator forms)
      (.lines window separator forms)
  | walk {id : Nat} (own : id ∈ mine) :
    Twin base other mine names here there (.walk id) (.walk (names id))
  | buffer {id id' : Nat} (known : id < here.holdings.length) (known' : id' < there.holdings.length)
    (same : there.buffer id' = here.buffer id) :
    Twin base other mine names here there (.buffer id) (.buffer id')
  | streams {cursors : List Nat} (known : ∀ id ∈ cursors, id < base.cursors.length)
    (apart : other ∉ cursors) :
    Twin base other mine names here there (.streams cursors) (.streams cursors)
  | value {object object' : Object} {value : Value} (is : object.value? = some value)
    (is' : object'.value? = some (value.rename names)) (within : value.Within mine) :
    Twin base other mine names here there object object'

theorem rename_shownStream (store : Store) (id : Nat) (names : Nat → Nat) :
    (store.shown (.stream id)).rename names = store.shown (.stream id) := by
  unfold Store.shown
  dsimp only
  cases store.cursors[id]? with
  | none => rfl
  | some cursor => rfl

section Values

variable {base : Store} {other : Nat} {mine : Set Nat} {names : Equiv.Perm Nat}
  {here there : Session} {object object' : Object}

namespace Store.Mirrors

variable (sound : base.Sound) (mirrors : base.Mirrors other mine names here.store there.store)

include mirrors in
theorem stream_same {window : Cursor} (known : window.buffer < base.holdings.length) :
    there.store.stream window = here.store.stream window := by
  unfold stream
  rw [mirrors.came.keeps.buffers _ known, mirrors.came'.keeps.buffers _ known]

include sound mirrors in
theorem cursor_known {id : Nat} (known : id < base.cursors.length) {cursor : Cursor}
    (found : here.store.cursors[id]? = some cursor) : cursor.buffer < base.holdings.length := by
  have old : base.cursors[id]? = some base.cursors[id] := List.getElem?_eq_getElem known
  obtain ⟨moved, found', inside⟩ := mirrors.came.onward.cursors id _ old
  cases found.symm.trans found'
  rw [inside.buffer]
  exact (sound.holds old).known

include sound mirrors in
theorem shown_same {id : Nat} (known : id < base.cursors.length) (apart : id ≠ other) :
    there.store.shown (.stream id) = here.store.shown (.stream id) := by
  unfold shown
  dsimp only
  rw [mirrors.cursors id known apart]
  cases found : here.store.cursors[id]? with
  | none => rfl
  | some cursor =>
    simp only [Option.map_some, Option.getD_some]
    rw [mirrors.stream_same (mirrors.cursor_known sound known found)]

theorem units_renumbered (before after : Store) (unit : CharUnit) (codes : List Nat) :
    Value.Renumbered mine names
      ((codes.map fun code => Yield.value (.ofUnit unit code)).map before.shown)
      ((codes.map fun code => Yield.value (.ofUnit unit code)).map after.shown) := by
  rw [List.map_map, List.map_map]
  refine Value.renumbered_of_same rfl fun value member names => ?_
  obtain ⟨code, -, rfl⟩ := List.mem_map.mp member
  exact Value.rename_ofUnit names unit code

include mirrors in
theorem remaining_units {rest : Cursor} (known : rest.buffer < base.holdings.length) :
    Value.Renumbered mine names ((here.store.remaining (.units rest)).map here.store.shown)
      ((there.store.remaining (.units rest)).map there.store.shown) := by
  unfold remaining
  dsimp only
  rw [mirrors.stream_same known]
  exact units_renumbered here.store there.store _ _

include mirrors in
theorem remaining_lines {rest : Cursor} (known : rest.buffer < base.holdings.length)
    (separator : List Nat) :
    Value.Renumbered mine names
      ((here.store.remaining (.lines rest separator)).map here.store.shown)
      ((there.store.remaining (.lines rest separator)).map there.store.shown) := by
  unfold remaining
  dsimp only
  rw [mirrors.stream_same known, List.map_map, List.map_map]
  apply Value.renumbered_of_same
  · apply List.map_congr_left
    exact fun piece _ => congrArg Value.stream (mirrors.stream_same known)
  · intro value member names
    obtain ⟨piece, -, rfl⟩ := List.mem_map.mp member
    rfl

include sound mirrors in
theorem remaining_streams {cursors : List Nat} (known : ∀ id ∈ cursors, id < base.cursors.length)
    (apart : other ∉ cursors) (place : Nat) :
    Value.Renumbered mine names
      ((here.store.remaining (.streams cursors place)).map here.store.shown)
      ((there.store.remaining (.streams cursors place)).map there.store.shown) := by
  unfold remaining
  dsimp only
  rw [List.map_map, List.map_map]
  apply Value.renumbered_of_same
  · refine List.map_congr_left fun id member => ?_
    have among := List.mem_of_mem_drop member
    exact mirrors.shown_same sound (known id among) fun same => apart (same ▸ among)
  · intro value member names
    obtain ⟨id, -, rfl⟩ := List.mem_map.mp member
    exact rename_shownStream here.store id names

theorem remaining_values (store : Store) (values : List Value) :
    (store.remaining (.values values)).map store.shown = values := by
  unfold remaining
  dsimp only
  rw [List.map_map]
  exact List.map_id _

include sound mirrors in
/-- What a walk has still to give shows the same, however the walks among that are numbered. -/
theorem left_same {walk : Walk} (guards : base.Guards walk) (avoids : walk.Avoids other mine) :
    Value.Renumbered mine names ((here.store.left walk).map here.store.shown)
      ((there.store.left (walk.rename names)).map there.store.shown) := by
  cases walk with
  | waiting source =>
    cases source with
    | units cursor =>
      have known : cursor < base.cursors.length := guards
      unfold left opened Walk.rename
      dsimp only
      rw [mirrors.cursors cursor known avoids]
      cases found : here.store.cursors[cursor]? with
      | none => exact ⟨rfl, List.forall_mem_nil _⟩
      | some rest => exact mirrors.remaining_units (mirrors.cursor_known sound known found)
    | lines rest separator =>
      unfold left opened Walk.rename
      dsimp only
      cases rest.isEmpty with
      | true => exact ⟨rfl, List.forall_mem_nil _⟩
      | false => exact mirrors.remaining_lines guards.known separator
  | units rest => exact mirrors.remaining_units guards.known
  | lines rest separator => exact mirrors.remaining_lines guards.known separator
  | passed rest => exact ⟨rfl, List.forall_mem_nil _⟩
  | buffer id place =>
    have known : id < base.holdings.length := guards
    unfold left opened Walk.rename remaining
    dsimp only
    rw [mirrors.came.keeps.buffers id known, mirrors.came'.keeps.buffers id known]
    exact units_renumbered here.store there.store _ _
  | values rest =>
    have mirrored := remaining_values there.store (rest.map (Value.rename names))
    have shown := remaining_values here.store rest
    exact ⟨mirrored.trans (congrArg _ shown.symm), shown.symm ▸ avoids⟩
  | streams cursors place => exact mirrors.remaining_streams sound guards avoids place
  | finished => exact ⟨rfl, List.forall_mem_nil _⟩

end Store.Mirrors

theorem valueOf_stream (session : Session) (id : Nat) :
    session.valueOf (.stream id) = session.store.shown (.stream id) := by
  unfold valueOf streamOf? Store.shown
  dsimp only
  rw [Option.map_map]
  rfl

theorem valueOf_value (session : Session) {value : Value} (is : object.value? = some value) :
    session.valueOf object = value := by
  cases object with
  | value given =>
    cases is
    rfl
  | made given parts =>
    cases is
    rfl
  | _ => cases is

/-- Twins read the same, the walks in them being numbered otherwise. -/
theorem Twin.valueOf (sound : base.Sound)
    (mirrors : base.Mirrors other mine names here.store there.store)
    (twin : Twin base other mine names here.store there.store object object') :
    there.valueOf object' = (here.valueOf object).rename names ∧
      (here.valueOf object).Within mine := by
  have plain {value value' : Value} (same : value' = value)
      (free : ∀ names, value.rename names = value) :
      value' = value.rename names ∧ value.Within mine :=
    ⟨same.trans (free names).symm, Value.within_of_same fun names => free names⟩
  cases twin with
  | @stream id known apart =>
    rw [valueOf_stream, valueOf_stream]
    exact plain (mirrors.shown_same sound known apart) fun names => rename_shownStream _ id names
  | @fresh id id' cursor new new' found found' known =>
    rw [valueOf_stream, valueOf_stream]
    refine plain ?_ fun names => rename_shownStream _ id names
    unfold Store.shown
    dsimp only
    rw [found, found']
    exact congrArg Value.stream (mirrors.stream_same known)
  | lines known =>
    refine plain ?_ fun names => rfl
    unfold Session.valueOf
    dsimp only
    rw [mirrors.stream_same known]
  | @walk id own =>
    obtain ⟨walk, found, found', guards, avoids⟩ := mirrors.walks id own
    obtain ⟨same, within⟩ := mirrors.left_same sound guards avoids
    unfold Session.valueOf
    dsimp only
    rw [found, found']
    simp only [Option.map_some, Option.getD_some]
    rw [same]
    exact ⟨congrArg (Value.generator _) (Value.renameAll_eq names _).symm,
      Value.within_generator own within⟩
  | @buffer id id' known known' same =>
    refine plain ?_ fun names => Value.rename_ofBuffer names _
    exact congrArg Value.ofBuffer same
  | @streams cursors known apart =>
    refine plain (congrArg Value.list (List.map_congr_left fun id member => ?_)) fun names => ?_
    · exact mirrors.shown_same sound (known id member) fun same => apart (same ▸ member)
    · refine congrArg Value.list ((Value.renameAll_eq names _).trans ?_)
      exact Value.map_rename_of_same names (rename_shownStream here.store · names) cursors
  | value is is' within =>
    rw [valueOf_value here is, valueOf_value there is']
    exact ⟨rfl, within⟩

end Values

section Carried

variable {base here here' there there' : Store} {other : Nat} {mine mine' : Set Nat}
  {names names' : Equiv.Perm Nat} {object object' : Object}

/-- A store that went on with all its buffers as they were, and all cursors made since. -/
structure Store.Carries (base before after : Store) : Prop where
  keeps : before.Keeps after
  fresh : ∀ (id : Nat) (cursor : Cursor), base.cursors.length ≤ id →
    before.cursors[id]? = some cursor → after.cursors[id]? = some cursor

theorem Store.Carries.of_moves {touched : Object → Prop} (moves : here.Moves touched here')
    (old : ∀ id, touched (.stream id) → id < base.cursors.length) : base.Carries here here' :=
  ⟨moves.keeps, fun id cursor new found =>
    moves.spares.cursors id cursor (fun hit => Nat.not_lt.mpr new (old id hit)) found⟩

theorem Twin.carry (twin : Twin base other mine names here there object object')
    (carries : base.Carries here here') (carries' : base.Carries there there')
    (wider : mine ⊆ mine') (agree : ∀ id ∈ mine, names id = names' id) :
    Twin base other mine' names' here' there' object object' := by
  cases twin with
  | stream known apart => exact .stream known apart
  | fresh new new' found found' known =>
    exact .fresh new new' (carries.fresh _ _ new found) (carries'.fresh _ _ new' found') known
  | lines known => exact .lines known
  | walk own =>
    rw [agree _ own]
    exact .walk (wider own)
  | buffer known known' same =>
    refine .buffer (Nat.lt_of_lt_of_le known carries.keeps.count)
      (Nat.lt_of_lt_of_le known' carries'.keeps.count) ?_
    rw [carries.keeps.buffers _ known, carries'.keeps.buffers _ known', same]
  | streams known apart => exact .streams known apart
  | value is is' within =>
    refine .value is ?_ (within.mono wider)
    rw [is', within.agree agree]

/-- At first, before anything is numbered differently, an object is its own twin. -/
theorem Twin.of_known (known : base.Knows object) (avoids : object.Avoids other mine) :
    Twin base other mine (Equiv.refl Nat) base base object object := by
  cases object with
  | stream id => exact .stream known avoids
  | lines window separator forms => exact .lines known.known
  | walk id => exact .walk avoids
  | buffer id => exact .buffer known known rfl
  | streams cursors => exact .streams known avoids
  | value value => exact .value rfl (congrArg some (Value.rename_id value).symm) avoids
  | made value parts => exact .value rfl (congrArg some (Value.rename_id value).symm) avoids

end Carried

/-- Two sessions that came out of one and show alike what registers of some names hold, and what
is configured. -/
structure Mirrors (base : Session) (other : Nat) (mine : Set Nat) (names : Equiv.Perm Nat)
    (used : Set String) (here there : Session) : Prop where
  sound : here.Sound
  sound' : there.Sound
  store : base.store.Mirrors other mine names here.store there.store
  settings : here.settings = base.settings ∧ there.settings = base.settings
  platform : here.platform = base.platform ∧ there.platform = base.platform
  configured : ∀ object ∈ base.settings.toList,
    Twin base.store other mine names here.store there.store object object
  registers : ∀ on ∈ used, Option.Rel (Twin base.store other mine names here.store there.store)
    (here.registers.lookup on) (there.registers.lookup on)

section Reading

variable {base here there : Session} {other : Nat} {mine : Set Nat} {names : Equiv.Perm Nat}
  {used : Set String} (sound : base.store.Sound)
  (mirrors : base.Mirrors other mine names used here there)

namespace Mirrors

include mirrors in
theorem walk_known {id : Nat} (own : id ∈ mine) : id < here.store.walks.length := by
  obtain ⟨walk, found, -⟩ := mirrors.store.walks id own
  exact (List.getElem?_eq_some_iff.mp found).1

include mirrors in
theorem lookup {on : String} (named : on ∈ used) :
    Agree Eq (Twin base.store other mine names here.store there.store) (here.lookup on)
      (there.lookup on) := by
  have held := mirrors.registers on named
  unfold Session.lookup
  generalize here.registers.lookup on = found at held ⊢
  generalize there.registers.lookup on = found' at held ⊢
  cases held with
  | none => exact .fault rfl
  | some twin => exact .done twin

include sound mirrors in
theorem environment : there.environment = here.environment.rename names ∧
    ∀ names, Fixes mine names → here.environment.rename names = here.environment := by
  have each : ∀ object ∈ base.settings.toList,
      there.valueOf object = (here.valueOf object).rename names ∧
        (here.valueOf object).Within mine :=
    fun object member => (mirrors.configured object member).valueOf sound mirrors.store
  simp only [Settings.toList, List.forall_mem_cons] at each
  obtain ⟨assertions, lineSeparator, whitespace, -⟩ := each
  unfold Session.environment Environment.rename
  rw [mirrors.settings.1, mirrors.settings.2, mirrors.platform.1, mirrors.platform.2]
  refine ⟨?_, fun names fixes => ?_⟩
  · simp only [Settings.map, assertions.1, lineSeparator.1, whitespace.1]
  · simp only [Settings.map, assertions.2 names fixes, lineSeparator.2 names fixes,
      whitespace.2 names fixes]

include sound mirrors in
theorem named {on : String} (member : on ∈ used) :
    (there.lookup on).map there.valueOf =
        ((here.lookup on).map here.valueOf).map (Value.rename names) ∧
      ∀ names, Fixes mine names →
        ((here.lookup on).map here.valueOf).map (Value.rename names) =
          (here.lookup on).map here.valueOf := by
  have agree := mirrors.lookup member
  generalize here.lookup on = found at agree ⊢
  generalize there.lookup on = found' at agree ⊢
  cases agree with
  | fault same => exact ⟨congrArg Except.error same.symm, fun _ _ => rfl⟩
  | done twin =>
    obtain ⟨same, within⟩ := twin.valueOf sound mirrors.store
    exact ⟨congrArg Except.ok same, fun names fixes => congrArg Except.ok (within names fixes)⟩

variable {term : Term} {terms : List Term}

include sound mirrors in
theorem eval (names_used : ∀ on ∈ term.names, on ∈ used)
    (plain : ∀ value ∈ term.literals, value.Within ∅) :
    there.eval term = (here.eval term).map (Value.rename names) ∧
      ∀ names, Fixes mine names → (here.eval term).map (Value.rename names) = here.eval term := by
  have free (names : Equiv.Perm Nat) : ∀ value ∈ term.literals, value.rename names = value :=
    fun value member => plain value member names nofun
  refine ⟨?_, fun names fixes => ?_⟩
  · exact eval_rename names.injective term
      (fun on member => (mirrors.named sound (names_used on member)).1) (free names)
  · refine (eval_rename names.injective term (fun on member => ?_) (free names)).symm
    exact ((mirrors.named sound (names_used on member)).2 names fixes).symm

include sound mirrors in
theorem evalMany (names_used : ∀ on ∈ namesAmong terms, on ∈ used)
    (plain : ∀ value ∈ literalsAmong terms, value.Within ∅) :
    there.evalMany terms = (here.evalMany terms).map (List.map (Value.rename names)) ∧
      ∀ names, Fixes mine names →
        (here.evalMany terms).map (List.map (Value.rename names)) = here.evalMany terms := by
  have free (names : Equiv.Perm Nat) : ∀ value ∈ literalsAmong terms, value.rename names = value :=
    fun value member => plain value member names nofun
  refine ⟨?_, fun names fixes => ?_⟩
  · exact evalAll_rename names.injective terms
      (fun on member => (mirrors.named sound (names_used on member)).1) (free names)
  · refine (evalAll_rename names.injective terms (fun on member => ?_) (free names)).symm
    exact ((mirrors.named sound (names_used on member)).2 names fixes).symm

end Mirrors

end Reading

end Session

end TextScan
