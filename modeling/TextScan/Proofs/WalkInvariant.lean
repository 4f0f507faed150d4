import TextScan.Proofs.Cutting
import TextScan.Proofs.StoreInvariant

/-! Walks: what a walk gives next is the first of what it has still to give, and comes out of
the window it goes over. Once a walk is underway, nothing that is done to the store changes
what is left of it, unless it reads a buffer as it grows. -/

namespace TextScan

theorem Stream.Valid.front?_cons {stream : Stream} (valid : stream.Valid) {code : Nat}
    (found : stream.front? = some code) : stream.start < stream.stop ∧
      stream.content = code :: (stream.onFrom (stream.start + 1)).content := by
  unfold Stream.front? at found
  split at found
  · cases found
  · rename_i filled
    have different : stream.start ≠ stream.stop := fun same => filled (beq_iff_eq.mpr same)
    have some := Nat.lt_of_le_of_ne valid.start_le_stop different
    have size : stream.size = (stream.onFrom (stream.start + 1)).size + 1 := by
      simp only [Stream.size, Stream.onFrom]
      omega
    obtain ⟨inside, rfl⟩ := List.getElem?_eq_some_iff.mp found
    refine ⟨some, ?_⟩
    rw [Stream.content, size, List.drop_eq_getElem_cons inside, List.take_succ_cons]
    rfl

namespace Session

/-- A walk that has fixed what it goes over. -/
def Walk.isUnderway : Walk → Bool
  | .waiting _ => false
  | _ => true

/-- A walk that reads a buffer as it is at each step, and not a window fixed before. -/
def Walk.readsBuffer : Walk → Bool
  | .buffer _ _ => true
  | _ => false

namespace Store

variable {store before after : Store} {walk later : Walk} {given : Yield} {window : Cursor}

def windowsAt (store : Store) (cursors : List Nat) : List Cursor :=
  cursors.filterMap fun id => store.cursors[id]?

/-- The windows that a walk underway goes over. -/
def walkWindows (store : Store) : Walk → List Cursor
  | .streams cursors _ => store.windowsAt cursors
  | walk => walk.window?.toList

theorem walkWindows_of_window (goes : walk.window? = some window) :
    store.walkWindows walk = [window] := by
  cases walk with
  | streams cursors place => cases goes
  | _ =>
    rw [walkWindows, goes]
    · rfl
    · nofun

def yieldWindow? (store : Store) : Yield → Option Cursor
  | .value _ => none
  | .line window => some window
  | .stream id => store.cursors[id]?

theorem opened_underway (under : walk.isUnderway = true) : store.opened walk = walk := by
  cases walk with
  | waiting source => cases under
  | _ => rfl

/-- A walk that goes on has fixed what it goes over, and reads a buffer if it did. -/
theorem opened_fixed (store : Store) (walk : Walk) :
    (store.opened walk).isUnderway = true ∧
      (store.opened walk).readsBuffer = walk.readsBuffer := by
  cases walk with
  | waiting source =>
    cases source with
    | units id =>
      unfold opened
      dsimp only
      split
      · exact ⟨rfl, rfl⟩
      · exact ⟨rfl, rfl⟩
    | lines window separator =>
      unfold opened
      dsimp only
      split
      · exact ⟨rfl, rfl⟩
      · exact ⟨rfl, rfl⟩
  | _ => exact ⟨rfl, rfl⟩

/-- What a walk gives is the first of what it has still to give. The walk behind it lies in the
store, goes over nothing else, and has the rest to give. -/
structure Gives (store : Store) (walk : Walk) (given : Yield) (later : Walk) : Prop where
  remaining : store.remaining walk = given :: store.remaining later
  guards : store.Guards later
  underway : later.isUnderway = true
  reads : later.readsBuffer = walk.readsBuffer
  windows : ∀ inner ∈ store.walkWindows later, ∃ outer ∈ store.walkWindows walk, inner.Inside outer

theorem Sound.windowsAt_inside (sound : store.Sound) {cursors : List Nat}
    (member : window ∈ store.windowsAt cursors) : window.Inside window := by
  obtain ⟨id, -, found⟩ := List.mem_filterMap.mp member
  exact (sound.holds found).inside_self

/-- All that a walk has to give comes out of the windows it goes over. -/
theorem remaining_within (sound : store.Sound) (guards : store.Guards walk) (member : given ∈ store.remaining walk)
    (same : store.yieldWindow? given = some window) :
    ∃ outer ∈ store.walkWindows walk, window.Inside outer := by
  cases walk with
  | units rest =>
    obtain ⟨code, -, rfl⟩ := List.mem_map.mp member
    cases same
  | lines rest separator =>
    have holds : store.Holds rest := guards
    obtain ⟨piece, cut, rfl⟩ := List.mem_map.mp member
    obtain ⟨span, on⟩ := holds.valid.piece_on cut
    cases same
    exact ⟨rest, List.mem_singleton_self rest, (holds.shows on).inside⟩
  | buffer id place =>
    obtain ⟨code, -, rfl⟩ := List.mem_map.mp member
    cases same
  | values rest =>
    obtain ⟨value, -, rfl⟩ := List.mem_map.mp member
    cases same
  | streams cursors place =>
    obtain ⟨id, there, rfl⟩ := List.mem_map.mp member
    have present : window ∈ store.windowsAt cursors :=
      List.mem_filterMap.mpr ⟨id, List.mem_of_mem_drop there, same⟩
    exact ⟨window, present, sound.windowsAt_inside present⟩
  | _ => cases member

theorem remaining_of_window (goes : walk.window? = some window)
    (member : given ∈ store.remaining walk) :
    (∃ unit code, given = .value (.ofUnit unit code)) ∨ ∃ inner, given = .line inner := by
  cases walk with
  | units rest =>
    obtain ⟨code, -, rfl⟩ := List.mem_map.mp member
    exact .inl ⟨_, code, rfl⟩
  | lines rest separator =>
    obtain ⟨piece, -, rfl⟩ := List.mem_map.mp member
    exact .inr ⟨_, rfl⟩
  | passed rest => cases member
  | _ => cases goes

section Lines

theorem nextLine_none {separator : List Nat} (ended : store.nextLine window separator = none) :
    store.remaining (.lines window separator) = [] := by
  unfold nextLine at ended
  split at ended
  · rename_i bare
    split at ended
    · rename_i empty
      have none : window.start = window.stop := beq_iff_eq.mp empty
      rw [List.isEmpty_iff.mp bare, remaining, Stream.pieces_empty none]
      rfl
    · cases ended
  · split at ended
    · cases ended
    · cases ended

theorem Holds.nextLine_gives (holds : store.Holds window) {separator : List Nat}
    (next : store.nextLine window separator = some (given, later)) :
    store.Gives (.lines window separator) given later := by
  unfold nextLine at next
  have bounds : window.start ≤ window.stop := holds.valid.start_le_stop
  split at next
  · rename_i bare
    split at next
    · cases next
    · rename_i filled
      cases next
      have different : window.start ≠ window.stop := fun same => filled (beq_iff_eq.mpr same)
      have some : window.start < window.stop := Nat.lt_of_le_of_ne bounds different
      have inside := Cursor.inside_onFrom (Nat.le_succ window.start) some
      refine ⟨?_, holds.of_inside inside, rfl, rfl, ?_⟩
      · rw [List.isEmpty_iff.mp bare, remaining, Stream.pieces_units some]
        rfl
      · intro inner member
        cases List.mem_singleton.mp member
        exact ⟨window, List.mem_singleton_self window, inside⟩
  · rename_i filled
    have nonempty : separator ≠ [] := fun same => filled (List.isEmpty_iff.mpr same)
    split at next
    · rename_i place found
      cases next
      obtain ⟨start, stop⟩ := holds.valid.found_bounds found
      have inside := Cursor.inside_onFrom
        (Nat.le_trans start (Nat.le_add_right place separator.length)) stop
      refine ⟨?_, holds.of_inside inside, rfl, rfl, ?_⟩
      · rw [remaining, holds.valid.pieces_found nonempty found]
        rfl
      · intro inner member
        cases List.mem_singleton.mp member
        exact ⟨window, List.mem_singleton_self window, inside⟩
    · rename_i absent
      cases next
      refine ⟨?_, holds, rfl, rfl, ?_⟩
      · rw [remaining, Stream.pieces_last nonempty absent]
        rfl
      · intro inner member
        cases List.mem_singleton.mp member
        exact ⟨window, List.mem_singleton_self window, holds.inside_self⟩

end Lines

theorem goOn_none (guards : store.Guards walk) (ended : store.goOn walk = none) :
    store.remaining walk = [] := by
  cases walk with
  | units rest =>
    have holds : store.Holds rest := guards
    have empty : (store.stream rest).content = [] := by
      rw [← List.head?_eq_none_iff, ← holds.valid.front?_eq]
      exact Option.map_eq_none_iff.mp ended
    rw [remaining, empty]
    rfl
  | lines rest separator => exact nextLine_none ended
  | buffer id place =>
    have beyond := List.getElem?_eq_none_iff.mp (Option.map_eq_none_iff.mp ended)
    rw [remaining, List.drop_eq_nil_of_le beyond]
    rfl
  | values rest =>
    cases rest with
    | nil => rfl
    | cons value rest => cases ended
  | streams cursors place =>
    have beyond := List.getElem?_eq_none_iff.mp (Option.map_eq_none_iff.mp ended)
    rw [remaining, List.drop_eq_nil_of_le beyond]
    rfl
  | _ => rfl

theorem goOn_gives (sound : store.Sound) (guards : store.Guards walk) (next : store.goOn walk = some (given, later)) :
    store.Gives walk given later := by
  cases walk with
  | units rest =>
    have holds : store.Holds rest := guards
    obtain ⟨code, found, same⟩ := Option.map_eq_some_iff.mp next
    cases same
    obtain ⟨some, units⟩ := holds.valid.front?_cons found
    have inside := Cursor.inside_onFrom (Nat.le_succ rest.start) some
    refine ⟨?_, holds.of_inside inside, rfl, rfl, ?_⟩
    · rw [remaining, units]
      rfl
    · intro inner member
      cases List.mem_singleton.mp member
      exact ⟨rest, List.mem_singleton_self rest, inside⟩
  | lines rest separator =>
    have holds : store.Holds rest := guards
    exact holds.nextLine_gives next
  | buffer id place =>
    obtain ⟨code, found, same⟩ := Option.map_eq_some_iff.mp next
    cases same
    obtain ⟨inside, rfl⟩ := List.getElem?_eq_some_iff.mp found
    refine ⟨?_, guards, rfl, rfl, List.forall_mem_nil _⟩
    rw [remaining, List.drop_eq_getElem_cons inside]
    rfl
  | values rest =>
    cases rest with
    | nil => cases next
    | cons value rest =>
      cases next
      exact ⟨rfl, trivial, rfl, rfl, List.forall_mem_nil _⟩
  | streams cursors place =>
    obtain ⟨id, found, same⟩ := Option.map_eq_some_iff.mp next
    cases same
    obtain ⟨inside, rfl⟩ := List.getElem?_eq_some_iff.mp found
    refine ⟨?_, guards, rfl, rfl, ?_⟩
    · rw [remaining, List.drop_eq_getElem_cons inside]
      rfl
    · exact fun inner member => ⟨inner, member, sound.windowsAt_inside member⟩
  | waiting source => cases next
  | passed window => cases next
  | finished => cases next

theorem Holds.grown (holds : before.Holds window) (onward : before.Extends after) :
    (before.stream window).Grown (after.stream window) :=
  ⟨rfl, rfl, rfl, rfl, onward.backings _ holds.known, onward.units _ holds.known⟩

/-- What is left of a walk underway stays so, whatever comes out of the store. -/
theorem remaining_extends (guards : before.Guards walk) (onward : before.Extends after)
    (fixed : walk.readsBuffer = false) : after.remaining walk = before.remaining walk := by
  cases walk with
  | units rest =>
    have holds : before.Holds rest := guards
    have grown := holds.grown onward
    rw [remaining, remaining, grown.content holds.valid, grown.unit]
  | lines rest separator =>
    have holds : before.Holds rest := guards
    have pieces : List.Forall₂ Stream.Grown (Lines.pieces ⟨before.stream rest, separator, []⟩) _ :=
      (holds.grown onward).pieces holds.valid
    unfold remaining
    dsimp only
    generalize Lines.pieces ⟨before.stream rest, separator, []⟩ = first at pieces
    generalize Lines.pieces ⟨after.stream rest, separator, []⟩ = second at pieces
    induction pieces with
    | nil => rfl
    | cons same rest later =>
      rw [List.map_cons, List.map_cons, later]
      simp only [Cursor.ofStream, same.start, same.stop, same.startForm, same.stopForm]
  | buffer id place => cases fixed
  | _ => rfl

end Store

end Session

end TextScan
