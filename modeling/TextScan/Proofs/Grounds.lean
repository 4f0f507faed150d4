import TextScan.Proofs.Frame

/-! Grounds: where the things of a session stand, on which buffers and with which pins. What is
obtained from something stands where that does, be it by the pin or by the memory it shows, and in
the course of a run nothing comes to stand anywhere else. -/

namespace TextScan

/-- What shows the memory of something else. -/
def Backing.isMemory : Backing → Bool
  | .memory .. => true
  | _ => false

theorem Backing.isGrowable_memory {backing : Backing} (memory : backing.isMemory = true) :
    backing.isGrowable = false := by
  cases backing with
  | memory format unit readable => rfl
  | _ => cases memory

namespace Session

/-- What something stands on: a buffer, and whether it is pinned there. -/
structure Ground where
  buffer : Nat
  pinned : Bool

def Cursor.ground (window : Cursor) : Ground := ⟨window.buffer, window.pinned⟩

theorem Cursor.Inside.ground {inner outer : Cursor} (inside : inner.Inside outer) :
    inner.ground = outer.ground := by
  rw [Cursor.ground, Cursor.ground, inside.buffer, inside.pinned]

namespace Store

/-- Whether what stands there keeps a buffer from growing: by a pin on it, or as it lies on a
view of its memory. -/
def groundHolds (store : Store) (id : Nat) (ground : Ground) : Bool :=
  (ground.pinned && ground.buffer == id) || store.viewHolds id ground.buffer

/-- What a walk underway stands on. -/
def walkGrounds (store : Store) : Walk → List Ground
  | .buffer id _ => [⟨id, false⟩]
  | walk => (store.walkWindows walk).map Cursor.ground

def partGrounds (store : Store) : Part → List Ground
  | .stream cursor => (store.cursors[cursor]?).toList.map Cursor.ground
  | .lines window => [window.ground]
  | .walk id => ((store.walks[id]?).map fun walk => store.walkGrounds (store.opened walk)).getD []
  | .buffer id => [⟨id, false⟩]

/-- What all that an object refers to stands on. -/
def grounds (store : Store) (object : Object) : List Ground :=
  object.parts.flatMap store.partGrounds

/-- Everything that an object stands on keeps a buffer from growing. -/
def Ties (store : Store) (id : Nat) (object : Object) : Prop :=
  ∀ ground ∈ store.grounds object, store.groundHolds id ground = true

/-- Streams and what goes over them, and views of memory. -/
def isView (store : Store) : Object → Bool
  | .buffer id => (store.buffer id).backing.isMemory
  | object => object.isCut

end Store

variable {session : Session} {store before middle after : Store} {id : Nat} {object : Object}
  {window : Cursor} {ground : Ground}

namespace Store

section Grounds

theorem windowHolds_eq (store : Store) (id : Nat) (window : Cursor) :
    store.windowHolds id window = [window.ground].any (store.groundHolds id) :=
  (Bool.or_false _).symm

theorem cursorHolds_eq (store : Store) (id cursor : Nat) :
    store.cursorHolds id cursor =
      ((store.cursors[cursor]?).toList.map Cursor.ground).any (store.groundHolds id) := by
  unfold cursorHolds
  cases store.cursors[cursor]? with
  | none => rfl
  | some window => exact store.windowHolds_eq id window

theorem walkHolds_eq (store : Store) (id : Nat) (walk : Walk) :
    store.walkHolds id walk =
      (store.walkGrounds (store.opened walk)).any (store.groundHolds id) := by
  cases walk with
  | waiting source =>
    cases source with
    | units cursor =>
      unfold walkHolds opened
      dsimp only
      rw [cursorHolds_eq]
      cases store.cursors[cursor]? with
      | none => rfl
      | some window => rfl
    | lines window separator =>
      unfold walkHolds opened
      dsimp only
      split
      · exact store.windowHolds_eq id window
      · exact store.windowHolds_eq id window
  | units rest => exact store.windowHolds_eq id rest
  | lines rest separator => exact store.windowHolds_eq id rest
  | passed window => exact store.windowHolds_eq id window
  | buffer other place => exact (Bool.or_false _).symm
  | streams cursors place =>
    simp only [walkHolds, opened, walkGrounds, walkWindows, windowsAt, List.any_map,
      List.any_filterMap]
    rfl
  | values rest => rfl
  | finished => rfl

theorem partHolds_eq (store : Store) (id : Nat) (part : Part) :
    store.partHolds id part = (store.partGrounds part).any (store.groundHolds id) := by
  cases part with
  | stream cursor => exact store.cursorHolds_eq id cursor
  | lines window => exact store.windowHolds_eq id window
  | walk other =>
    unfold partHolds partGrounds
    dsimp only
    cases store.walks[other]? with
    | none => rfl
    | some walk => exact store.walkHolds_eq id walk
  | buffer other => exact (Bool.or_false _).symm

theorem ground_of_window (member : window ∈ store.windows object) :
    window.ground ∈ store.grounds object := by
  cases object with
  | stream cursor =>
    have found : store.cursors[cursor]? = some window := Option.mem_toList.mp member
    simp [grounds, Object.parts, partGrounds, found]
  | lines own separator forms =>
    cases List.mem_singleton.mp member
    exact List.mem_singleton_self _
  | walk walk =>
    unfold windows at member
    dsimp only at member
    cases there : store.walks[walk]? with
    | none =>
      rw [there] at member
      cases member
    | some walk =>
      rw [there] at member
      simp only [grounds, Object.parts, List.flatMap_cons, List.flatMap_nil, List.append_nil,
        partGrounds, there, Option.map_some, Option.getD_some]
      cases under : store.opened walk with
      | buffer other place =>
        simp [under, walkWindows, Walk.window?] at member
      | _ =>
        simp only [Option.map_some, Option.getD_some, under] at member
        exact List.mem_map_of_mem member
  | streams cursors =>
    obtain ⟨cursor, present, found⟩ := List.mem_filterMap.mp member
    refine List.mem_flatMap.mpr ⟨.stream cursor, List.mem_map_of_mem present, ?_⟩
    simp [partGrounds, found]
  | _ => cases member

/-- What is cut stands on the windows that it goes over; a walk may go over a buffer too. -/
theorem window_of_ground (isCut : object.isCut = true) (still : ∀ walk, object ≠ .walk walk)
    (member : ground ∈ store.grounds object) :
    ∃ window ∈ store.windows object, window.ground = ground := by
  obtain ⟨part, present, stands⟩ := List.mem_flatMap.mp member
  cases object with
  | stream cursor =>
    cases List.mem_singleton.mp present
    obtain ⟨window, found, same⟩ := List.mem_map.mp stands
    exact ⟨window, found, same⟩
  | lines window separator forms =>
    cases List.mem_singleton.mp present
    cases List.mem_singleton.mp stands
    exact ⟨window, List.mem_singleton_self window, rfl⟩
  | walk walk => exact absurd rfl (still walk)
  | streams cursors =>
    obtain ⟨cursor, listed, rfl⟩ := List.mem_map.mp present
    obtain ⟨window, found, same⟩ := List.mem_map.mp stands
    exact ⟨window, List.mem_filterMap.mpr ⟨cursor, listed, Option.mem_toList.mp found⟩, same⟩
  | _ => cases isCut

/-- Where a known object stands, there is a buffer, and one that grows if it is pinned. -/
theorem ground_known (sound : store.Sound) (known : store.Knows object)
    (member : ground ∈ store.grounds object) : ground.buffer < store.holdings.length ∧
      (ground.pinned = true → (store.buffer ground.buffer).backing.isGrowable = true) := by
  have ofHolds {window : Cursor} (holds : store.Holds window) :
      window.ground.buffer < store.holdings.length ∧ (window.ground.pinned = true →
        (store.buffer window.ground.buffer).backing.isGrowable = true) :=
    ⟨holds.known, holds.growable⟩
  obtain ⟨part, present, stands⟩ := List.mem_flatMap.mp member
  have there := known.parts part present
  cases part with
  | stream cursor =>
    obtain ⟨window, found, rfl⟩ := List.mem_map.mp stands
    exact ofHolds (sound.holds (Option.mem_toList.mp found))
  | lines window =>
    cases List.mem_singleton.mp stands
    exact ofHolds there
  | buffer other =>
    cases List.mem_singleton.mp stands
    exact ⟨there, nofun⟩
  | walk walk =>
    have found := List.getElem?_eq_getElem there
    have guards := opened_guards sound (sound.guards found)
    simp only [partGrounds, found, Option.map_some, Option.getD_some] at stands
    cases under : store.opened store.walks[walk] with
    | buffer other place =>
      rw [under] at stands guards
      cases List.mem_singleton.mp stands
      exact ⟨guards, nofun⟩
    | _ =>
      rw [under] at stands guards
      obtain ⟨window, goes, rfl⟩ := List.mem_map.mp stands
      exact ofHolds (walkWindows_hold sound guards goes)

/-- Nothing but the buffer itself, or a view of it, keeps a buffer from growing. -/
theorem exporter_of_holds (sound : store.Sound) (known : store.Knows object)
    (member : ground ∈ store.grounds object) (holds : store.groundHolds id ground = true) :
    store.exporter ground.buffer = id := by
  rcases Bool.or_eq_true_iff.mp holds with pinned | viewed
  · obtain ⟨pinned, same⟩ := Bool.and_eq_true_iff.mp pinned
    have growable := (ground_known sound known member).2 pinned
    cases shows : (store.holdings[ground.buffer]?).bind Holding.exporter with
    | none =>
      rw [exporter, shows]
      exact beq_iff_eq.mp same
    | some other =>
      have viewed : store.viewHolds other ground.buffer = true := by
        rw [viewHolds, shows]
        exact beq_self_eq_true _
      rw [sound.views _ other viewed] at growable
      cases growable
  · rw [exporter, beq_iff_eq.mp viewed]
    rfl

theorem Grows.holds (grows : before.Grows after) (known : ground.buffer < before.holdings.length) :
    after.groundHolds id ground = before.groundHolds id ground := by
  rw [groundHolds, groundHolds, grows.views _ known]

end Grounds

end Store

end Session

end TextScan
