import TextScan.Proofs.Assertions

/-! Erasure: a session without its pins, in which no assertion is checked. What is left of a
session, and of what is in it, answers everything that a pin does not decide; each function on
sessions commutes with leaving out the pins. -/

namespace TextScan

/-- What is found by a name where each entry was changed. -/
theorem lookup_changed {α β : Type} (change : α → β) (name : String) (entries : List (String × α)) :
    (entries.map fun entry => (entry.1, change entry.2)).lookup name =
      (entries.lookup name).map change := by
  induction entries with
  | nil => rfl
  | cons entry entries each =>
    rw [List.map_cons, List.lookup_cons, List.lookup_cons]
    cases name == entry.1 with
    | true => rfl
    | false => exact each

namespace Settings

variable {α β : Type}

/-- The settings with another value for whether assertions are checked. -/
def asserting (value : α) (settings : Settings α) : Settings α :=
  { settings with assertions := value }

theorem ofFields_map (change : α → β) (base : Settings α) (fields : List (String × α)) :
    (base.ofFields fields).map change =
      (base.map change).ofFields (fields.map fun field => (field.1, change field.2)) := by
  have looked (name : String) (usual : α) : change ((fields.lookup name).getD usual) =
      ((fields.map fun field => (field.1, change field.2)).lookup name).getD (change usual) := by
    rw [lookup_changed]
    cases fields.lookup name with
    | none => rfl
    | some given => rfl
  simp only [ofFields, map, looked]

end Settings

def Environment.unchecked (environment : Environment) : Environment :=
  { environment with config := environment.config.asserting (.bool false) }

namespace Session

def Cursor.bare (window : Cursor) : Cursor := { window with pinned := false }

def WalkSource.bare : WalkSource → WalkSource
  | .units cursor => .units cursor
  | .lines window separator => .lines window.bare separator

def Walk.bare : Walk → Walk
  | .waiting source => .waiting source.bare
  | .units rest => .units rest.bare
  | .lines rest separator => .lines rest.bare separator
  | .passed window => .passed window.bare
  | walk => walk

def Yield.bare : Yield → Yield
  | .line window => .line window.bare
  | given => given

def Part.bare : Part → Part
  | .lines window => .lines window.bare
  | part => part

def Object.bare : Object → Object
  | .lines window separator forms => .lines window.bare separator forms
  | .made given parts => .made given (parts.map Part.bare)
  | object => object

/-- The settings without pins, and with assertions not checked. -/
def bareSettings (settings : Settings Object) : Settings Object :=
  (settings.map Object.bare).asserting (.value (.bool false))

def Store.bare (store : Store) : Store :=
  { store with cursors := store.cursors.map Cursor.bare, walks := store.walks.map Walk.bare }

/-- A session without its pins, in which no assertion is checked. -/
def bare (session : Session) : Session :=
  { session with
    store := session.store.bare
    registers := session.registers.map fun entry => (entry.1, entry.2.bare)
    settings := bareSettings session.settings
    scopes := session.scopes.map fun entry => (entry.1, entry.2.map bareSettings)
    outer := session.outer.map bareSettings }

def Effect.bare (done : Effect) : Effect := ⟨done.session.bare, done.result, done.kept.bare⟩

/-- What a walk gives and the walk behind it, without pins. -/
def bareGives (gives : Yield × Walk) : Yield × Walk := (gives.1.bare, gives.2.bare)

section Twice

@[simp]
theorem Cursor.bare_bare (window : Cursor) : window.bare.bare = window.bare := rfl

@[simp]
theorem Walk.bare_bare (walk : Walk) : walk.bare.bare = walk.bare := by
  cases walk with
  | waiting source =>
    cases source with
    | _ => rfl
  | _ => rfl

@[simp]
theorem Part.bare_bare (part : Part) : part.bare.bare = part.bare := by
  cases part with
  | _ => rfl

@[simp]
theorem Object.bare_bare (object : Object) : object.bare.bare = object.bare := by
  cases object with
  | made value parts =>
    simp only [Object.bare, List.map_map, Object.made.injEq, true_and]
    exact List.map_congr_left fun part _ => Part.bare_bare part
  | _ => rfl

@[simp]
theorem bareSettings_bare (settings : Settings Object) :
    bareSettings (bareSettings settings) = bareSettings settings := by
  simp only [bareSettings, Settings.asserting, Settings.map, Object.bare_bare]

@[simp]
theorem Store.bare_bare (store : Store) : store.bare.bare = store.bare := by
  have cursors : Cursor.bare ∘ Cursor.bare = Cursor.bare := funext Cursor.bare_bare
  have walks : Walk.bare ∘ Walk.bare = Walk.bare := funext Walk.bare_bare
  simp only [Store.bare, List.map_map, cursors, walks]

@[simp]
theorem bare_bare (session : Session) : session.bare.bare = session.bare := by
  have settings : bareSettings ∘ bareSettings = bareSettings := funext bareSettings_bare
  simp only [bare, Store.bare_bare, bareSettings_bare, List.map_map, settings]
  congr 1
  · refine List.map_congr_left fun entry _ => ?_
    simp only [Function.comp_apply, Object.bare_bare]
  · refine List.map_congr_left fun entry _ => ?_
    simp only [Function.comp_apply, Option.map_map, settings]

@[simp]
theorem Effect.bare_bare (done : Effect) : done.bare.bare = done.bare := by
  simp only [Effect.bare, Session.bare_bare, Object.bare_bare]

end Twice

namespace Store

variable (store : Store)

theorem bare_getElem? (id : Nat) :
    store.bare.cursors[id]? = (store.cursors[id]?).map Cursor.bare := List.getElem?_map

theorem bare_walk? (id : Nat) :
    store.bare.walks[id]? = (store.walks[id]?).map Walk.bare := List.getElem?_map

theorem bare_addBuffer (holding : Holding) :
    store.bare.addBuffer holding =
      ((store.addBuffer holding).1.bare, (store.addBuffer holding).2) := by
  unfold addBuffer
  dsimp only [bare]
  split
  · rfl
  · rfl

theorem bare_addCursor (window : Cursor) :
    store.bare.addCursor window.bare =
      ((store.addCursor window).1.bare, (store.addCursor window).2) := by
  simp only [addCursor, bare, List.map_append, List.map_cons, List.map_nil, List.length_map]

theorem bare_addWalk (walk : Walk) :
    store.bare.addWalk walk.bare = ((store.addWalk walk).1.bare, (store.addWalk walk).2) := by
  simp only [addWalk, bare, List.map_append, List.map_cons, List.map_nil, List.length_map]

theorem bare_setCursor (id : Nat) (window : Cursor) :
    (store.setCursor id window).bare = store.bare.setCursor id window.bare := by
  simp only [setCursor, bare, List.map_set]

theorem bare_setWalk (id : Nat) (walk : Walk) :
    (store.setWalk id walk).bare = store.bare.setWalk id walk.bare := by
  simp only [setWalk, bare, List.map_set]

theorem bare_opened (walk : Walk) : store.bare.opened walk.bare = (store.opened walk).bare := by
  cases walk with
  | waiting source =>
    cases source with
    | units id =>
      simp only [Walk.bare, WalkSource.bare, opened, bare_getElem?]
      cases store.cursors[id]? with
      | none => rfl
      | some window => rfl
    | lines window separator =>
      simp only [Walk.bare, WalkSource.bare, opened]
      cases empty : window.isEmpty with
      | true => rw [if_pos rfl, if_pos (show window.bare.isEmpty = true from empty)]
      | false =>
        rw [if_neg Bool.false_ne_true, if_neg]
        exact fun full => Bool.false_ne_true (empty.symm.trans full)
  | _ => rfl

theorem bare_nextLine (rest : Cursor) (separator : List Nat) :
    store.bare.nextLine rest.bare separator =
      (store.nextLine rest separator).map bareGives := by
  unfold nextLine
  split
  · split
    · rename_i empty
      rw [if_pos (show rest.isEmpty = true from empty)]
      rfl
    · rename_i filled
      rw [if_neg (show ¬rest.isEmpty = true from filled)]
      rfl
  · rw [show store.bare.stream rest.bare = store.stream rest from rfl,
      show rest.bare.start = rest.start from rfl]
    split
    · rfl
    · rfl

theorem bare_goOn (walk : Walk) :
    store.bare.goOn walk.bare = (store.goOn walk).map bareGives := by
  cases walk with
  | units rest =>
    simp only [Walk.bare, goOn, Option.map_map]
    rfl
  | lines rest separator => exact store.bare_nextLine rest separator
  | buffer id place =>
    simp only [Walk.bare, goOn, Option.map_map]
    rfl
  | streams cursors place =>
    simp only [Walk.bare, goOn, Option.map_map]
    rfl
  | values rest =>
    cases rest with
    | nil => rfl
    | cons value rest => rfl
  | waiting source => rfl
  | passed window => rfl
  | finished => rfl

theorem bare_next? (walk : Walk) :
    store.bare.next? walk.bare = (store.next? walk).map bareGives := by
  rw [next?, bare_opened, bare_goOn]
  rfl

theorem bare_left (walk : Walk) : store.bare.left walk.bare = (store.left walk).map Yield.bare := by
  rw [left, left, bare_opened]
  cases store.opened walk with
  | units rest =>
    simp only [Walk.bare, remaining, List.map_map]
    rfl
  | lines rest separator =>
    simp only [Walk.bare, remaining, List.map_map]
    rfl
  | buffer id place =>
    simp only [Walk.bare, remaining, List.map_map]
    rfl
  | values rest =>
    simp only [Walk.bare, remaining, List.map_map]
    rfl
  | streams cursors place =>
    simp only [Walk.bare, remaining, List.map_map]
    rfl
  | waiting source => rfl
  | passed window => rfl
  | finished => rfl

theorem bare_shown (given : Yield) : store.bare.shown given.bare = store.shown given := by
  cases given with
  | stream id =>
    simp only [Yield.bare, shown, bare_getElem?, Option.map_map]
    rfl
  | _ => rfl

theorem bare_gather (yields : List Yield) :
    store.bare.gather (yields.map Yield.bare) =
      ((store.gather yields).1.bare, (store.gather yields).2) := by
  induction yields generalizing store with
  | nil => rfl
  | cons given rest later =>
    cases given with
    | value value => exact later store
    | line window =>
      simp only [List.map_cons, Yield.bare, gather, bare_addCursor, later]
    | stream id => simp only [List.map_cons, Yield.bare, gather, later]

end Store

section Values

variable (session : Session)

theorem bare_find (name : String) :
    session.bare.registers.lookup name = (session.registers.lookup name).map Object.bare :=
  lookup_changed Object.bare name session.registers

theorem bare_lookup (name : String) :
    session.bare.lookup name = (session.lookup name).map Object.bare := by
  unfold lookup
  rw [bare_find]
  cases session.registers.lookup name with
  | none => rfl
  | some object => rfl

theorem bare_streamOf? (id : Nat) : session.bare.streamOf? id = session.streamOf? id := by
  unfold streamOf?
  change (session.store.bare.cursors[id]?).map session.store.bare.stream = _
  rw [Store.bare_getElem?, Option.map_map]
  rfl

theorem bare_valueOf (object : Object) : session.bare.valueOf object.bare = session.valueOf object := by
  cases object with
  | stream id =>
    simp only [Object.bare, valueOf, bare_streamOf?]
  | walk id =>
    change Value.generator id (((session.store.bare.walks[id]?).map fun walk =>
      (session.store.bare.left walk).map session.store.bare.shown).getD []) = _
    rw [Store.bare_walk?, Option.map_map]
    have left : (fun walk => (session.store.bare.left walk).map session.store.bare.shown) ∘
        Walk.bare = fun walk => (session.store.left walk).map session.store.shown := by
      funext walk
      simp only [Function.comp_apply, Store.bare_left, List.map_map]
      exact List.map_congr_left fun given _ => session.store.bare_shown given
    rw [left]
    rfl
  | streams cursors =>
    simp only [Object.bare, valueOf]
    congr 1
    exact List.map_congr_left fun id _ => session.store.bare_shown (.stream id)
  | lines window separator forms => rfl
  | buffer id => rfl
  | value value => rfl
  | made value parts => rfl

theorem bare_environment : session.bare.environment = session.environment.unchecked := by
  simp only [environment, Environment.unchecked]
  change Environment.mk ((bareSettings session.settings).map session.bare.valueOf) _ = _
  simp only [bareSettings, Settings.asserting, Settings.map, bare_valueOf]
  rfl

theorem bare_read (name : String) :
    (session.bare.lookup name).map session.bare.valueOf =
      (session.lookup name).map session.valueOf := by
  rw [bare_lookup]
  cases session.lookup name with
  | error fault => rfl
  | ok object => exact congrArg Except.ok (session.bare_valueOf object)

theorem bare_eval (term : Term) : session.bare.eval term = session.eval term := by
  unfold eval
  rw [show (fun name => (session.bare.lookup name).map session.bare.valueOf) = _ from
    funext session.bare_read]

theorem bare_evalMany (terms : List Term) : session.bare.evalMany terms = session.evalMany terms := by
  unfold evalMany
  rw [show (fun name => (session.bare.lookup name).map session.bare.valueOf) = _ from
    funext session.bare_read]

theorem Object.bare_parts (object : Object) : object.bare.parts = object.parts.map Part.bare := by
  cases object with
  | streams cursors =>
    simp only [Object.bare, Object.parts, List.map_map]
    rfl
  | _ => rfl

theorem Object.bare_ofValue (value : Value) (parts : List Part) :
    (Object.ofValue value parts).bare = .ofValue value (parts.map Part.bare) := by
  cases parts with
  | nil => rfl
  | cons part rest => rfl

theorem bare_made (value : Value) (terms : List Term) :
    session.bare.made value terms = (session.made value terms).bare := by
  unfold made
  rw [Object.bare_ofValue, List.map_flatMap]
  congr 2
  funext name
  rw [bare_find]
  cases session.registers.lookup name with
  | none => rfl
  | some object => exact object.bare_parts

theorem bare_hold (term : Term) : session.bare.hold term = (session.hold term).map Object.bare := by
  cases term with
  | register name => exact session.bare_lookup name
  | _ =>
    unfold hold
    dsimp only
    rw [bare_eval]
    cases session.eval _ with
    | error fault => rfl
    | ok value => exact congrArg Except.ok (session.bare_made value _)

end Values

end Session

end TextScan
