import TextScan.Proofs.Refinement
import TextScan.Session.Term

/-! What a store keeps true: every window in it lies in its buffer, buffers only grow, a
cursor that moves stays in the window it had, and pins stay with what is cut from a window. -/

namespace TextScan.Session

open Scan

/-- A window that lies inside another one on the same buffer, pinned as that one is. -/
structure Cursor.Inside (inner outer : Cursor) : Prop where
  buffer : inner.buffer = outer.buffer
  pinned : inner.pinned = outer.pinned
  start : outer.start ≤ inner.start
  ordered : inner.start ≤ inner.stop
  stop : inner.stop ≤ outer.stop

theorem Cursor.Inside.trans {inner middle outer : Cursor} (first : inner.Inside middle)
    (second : middle.Inside outer) : inner.Inside outer :=
  ⟨first.buffer.trans second.buffer, first.pinned.trans second.pinned,
    Nat.le_trans second.start first.start, first.ordered, Nat.le_trans first.stop second.stop⟩

/-- The window that a walk underway goes over, as far as it is left. -/
def Walk.window? : Walk → Option Cursor
  | .units rest => some rest
  | .lines rest _ => some rest
  | .passed window => some window
  | _ => none

namespace Store

/-- A window on a buffer of the store that lies in it. Only growable buffers are pinned. -/
structure Holds (store : Store) (window : Cursor) : Prop where
  known : window.buffer < store.holdings.length
  valid : (store.stream window).Valid
  growable : window.pinned = true →
    (store.buffer window.buffer).backing.isGrowable = true

/-- A piece that was cut from a window when the buffer was what it is now or shorter. -/
structure Shows (store : Store) (window : Cursor) (piece : Stream) : Prop where
  start : window.start ≤ piece.start
  ordered : piece.start ≤ piece.stop
  stop : piece.stop ≤ window.stop
  buffer : piece.buffer.units <+: (store.buffer window.buffer).units

/-- What a walk goes over lies in the store. -/
def Guards (store : Store) : Walk → Prop
  | .waiting (.units cursor) => cursor < store.cursors.length
  | .waiting (.lines window _) => store.Holds window
  | .units rest => store.Holds rest
  | .lines rest _ => store.Holds rest
  | .passed window => store.Holds window
  | .buffer id _ => id < store.holdings.length
  | .streams cursors _ => ∀ id ∈ cursors, id < store.cursors.length
  | _ => True

/-- What is referred to is in the store. -/
def KnowsPart (store : Store) : Part → Prop
  | .stream cursor => cursor < store.cursors.length
  | .lines window => store.Holds window
  | .walk id => id < store.walks.length
  | .buffer id => id < store.holdings.length

/-- What a register holds is in the store. -/
def Knows (store : Store) : Object → Prop
  | .stream cursor => cursor < store.cursors.length
  | .lines window _ _ => store.Holds window
  | .walk id => id < store.walks.length
  | .buffer id => id < store.holdings.length
  | .streams cursors => ∀ id ∈ cursors, id < store.cursors.length
  | .value _ => True
  | .made _ parts => ∀ part ∈ parts, store.KnowsPart part

/-- Every cursor and every walk of the store lies in its buffer, and no view of memory grows. -/
structure Sound (store : Store) : Prop where
  cursors : ∀ cursor ∈ store.cursors, store.Holds cursor
  walks : ∀ walk ∈ store.walks, store.Guards walk
  views : ∀ id other, store.viewHolds other id = true →
    (store.buffer id).backing.isGrowable = false

/-- Every buffer is what it was. -/
structure Keeps (before after : Store) : Prop where
  count : before.holdings.length ≤ after.holdings.length
  buffers : ∀ id < before.holdings.length, after.buffer id = before.buffer id

/-- Buffers that may have got units at their ends, and are held as they were. -/
structure Grows (before after : Store) : Prop where
  holdings : before.holdings.length ≤ after.holdings.length
  units : ∀ id < before.holdings.length,
    (before.buffer id).units <+: (after.buffer id).units
  backings : ∀ id < before.holdings.length,
    (after.buffer id).backing = (before.buffer id).backing
  views : ∀ id < before.holdings.length, ∀ other,
    after.viewHolds other id = before.viewHolds other id

/-- A store that came out of another one: no buffer lost a unit, no start went back and no
stop went forward. -/
structure Extends (before after : Store) : Prop extends before.Grows after where
  cursors : ∀ (id : Nat) (cursor : Cursor), before.cursors[id]? = some cursor →
    ∃ moved : Cursor, after.cursors[id]? = some moved ∧ moved.Inside cursor
  walks : before.walks.length ≤ after.walks.length

/-- Cursors and walks that stayed as they were, but for those that may have been touched. -/
structure Spares (touched : Object → Prop) (before after : Store) : Prop where
  cursors : ∀ (id : Nat) (cursor : Cursor), ¬touched (.stream id) →
    before.cursors[id]? = some cursor → after.cursors[id]? = some cursor
  walks : ∀ (id : Nat) (walk : Walk), ¬touched (.walk id) →
    before.walks[id]? = some walk → after.walks[id]? = some walk

variable {before middle after store : Store} {window : Cursor} {touched : Object → Prop}

theorem Holds.inside_self (holds : store.Holds window) : window.Inside window :=
  ⟨rfl, rfl, Nat.le_refl _, holds.valid.start_le_stop, Nat.le_refl _⟩

theorem Holds.of_inside {inner : Cursor} (holds : store.Holds window)
    (inside : inner.Inside window) : store.Holds inner := by
  have reach := holds.valid.stop_le_size
  refine ⟨inside.buffer ▸ holds.known, ⟨inside.ordered, ?_⟩, ?_⟩
  · simp only [stream] at reach ⊢
    rw [inside.buffer]
    exact Nat.le_trans inside.stop reach
  · rw [inside.pinned, inside.buffer]
    exact holds.growable

theorem Sound.holds (sound : store.Sound) {id : Nat} (found : store.cursors[id]? = some window) :
    store.Holds window := sound.cursors window (List.mem_of_getElem? found)

theorem Sound.guards (sound : store.Sound) {id : Nat} {walk : Walk}
    (found : store.walks[id]? = some walk) : store.Guards walk :=
  sound.walks walk (List.mem_of_getElem? found)

theorem Keeps.refl (store : Store) : store.Keeps store := ⟨Nat.le_refl _, fun _ _ => rfl⟩

theorem Keeps.trans (first : before.Keeps middle) (second : middle.Keeps after) :
    before.Keeps after :=
  ⟨Nat.le_trans first.count second.count, fun id known =>
    (second.buffers id (Nat.lt_of_lt_of_le known first.count)).trans (first.buffers id known)⟩

theorem Grows.refl (store : Store) : store.Grows store :=
  ⟨Nat.le_refl _, fun _ _ => List.prefix_rfl, fun _ _ => rfl, fun _ _ _ => rfl⟩

theorem Grows.trans (first : before.Grows middle) (second : middle.Grows after) :
    before.Grows after := by
  have reach {id : Nat} (known : id < before.holdings.length) :=
    Nat.lt_of_lt_of_le known first.holdings
  refine ⟨Nat.le_trans first.holdings second.holdings, fun id known => ?_, fun id known => ?_,
    fun id known other => ?_⟩
  · exact (first.units id known).trans (second.units id (reach known))
  · exact (second.backings id (reach known)).trans (first.backings id known)
  · exact (second.views id (reach known) other).trans (first.views id known other)

theorem Grows.of_same (same : after.holdings = before.holdings) : before.Grows after := by
  refine ⟨Nat.le_of_eq (by rw [same]), fun id _ => ?_, fun id _ => ?_, fun id _ other => ?_⟩
  · have alike : after.buffer id = before.buffer id := by rw [buffer, buffer, same]
    exact alike ▸ List.prefix_rfl
  · rw [buffer, buffer, same]
  · rw [viewHolds, viewHolds, same]

theorem Extends.trans (first : before.Extends middle) (second : middle.Extends after) :
    before.Extends after := by
  refine ⟨first.toGrows.trans second.toGrows, ?_, Nat.le_trans first.walks second.walks⟩
  · intro id cursor found
    obtain ⟨moved, there, inside⟩ := first.cursors id cursor found
    obtain ⟨last, here, later⟩ := second.cursors id moved there
    exact ⟨last, here, later.trans inside⟩

theorem Extends.refl (sound : store.Sound) : store.Extends store :=
  ⟨.refl store, fun _ cursor found => ⟨cursor, found, (sound.holds found).inside_self⟩,
    Nat.le_refl _⟩

theorem Extends.cursor_count (onward : before.Extends after) :
    before.cursors.length ≤ after.cursors.length := by
  apply Nat.le_of_not_lt
  intro shorter
  obtain ⟨moved, found, -⟩ := onward.cursors after.cursors.length _
    (List.getElem?_eq_getElem shorter)
  simp at found

theorem Holds.extends (holds : before.Holds window) (onward : before.Extends after) :
    after.Holds window := by
  have grown := (onward.units window.buffer holds.known).length_le
  have reach := holds.valid.stop_le_size
  refine ⟨Nat.lt_of_lt_of_le holds.known onward.holdings, ⟨holds.valid.start_le_stop, ?_⟩, ?_⟩
  · exact Nat.le_trans reach grown
  · rw [onward.backings _ holds.known]
    exact holds.growable

theorem KnowsPart.extends {part : Part} (knows : before.KnowsPart part)
    (onward : before.Extends after) : after.KnowsPart part := by
  cases part with
  | stream cursor => exact Nat.lt_of_lt_of_le knows onward.cursor_count
  | lines window => exact Holds.extends (show before.Holds window from knows) onward
  | walk id => exact Nat.lt_of_lt_of_le knows onward.walks
  | buffer id => exact Nat.lt_of_lt_of_le knows onward.holdings

theorem Guards.extends {walk : Walk} (guards : before.Guards walk)
    (onward : before.Extends after) : after.Guards walk := by
  cases walk with
  | waiting source =>
    cases source with
    | units cursor => exact Nat.lt_of_lt_of_le guards onward.cursor_count
    | lines window separator =>
      exact Holds.extends (show before.Holds window from guards) onward
  | units rest => exact Holds.extends (show before.Holds rest from guards) onward
  | lines rest separator => exact Holds.extends (show before.Holds rest from guards) onward
  | passed window => exact Holds.extends (show before.Holds window from guards) onward
  | buffer id place => exact Nat.lt_of_lt_of_le guards onward.holdings
  | streams cursors place =>
    exact fun id member => Nat.lt_of_lt_of_le (guards id member) onward.cursor_count
  | values rest => trivial
  | finished => trivial

theorem Knows.extends {object : Object} (knows : before.Knows object)
    (onward : before.Extends after) : after.Knows object := by
  cases object with
  | stream cursor => exact Nat.lt_of_lt_of_le knows onward.cursor_count
  | lines window separator forms => exact Holds.extends knows onward
  | walk id => exact Nat.lt_of_lt_of_le knows onward.walks
  | buffer id => exact Nat.lt_of_lt_of_le knows onward.holdings
  | streams cursors =>
    exact fun id member => Nat.lt_of_lt_of_le (knows id member) onward.cursor_count
  | value value => trivial
  | made value parts => exact fun part member => KnowsPart.extends (knows part member) onward

theorem Knows.parts {object : Object} (knows : store.Knows object) :
    ∀ part ∈ object.parts, store.KnowsPart part := by
  cases object with
  | value value => exact List.forall_mem_nil _
  | made value parts => exact knows
  | streams cursors => exact List.forall_mem_map.mpr knows
  | _ => exact List.forall_mem_singleton.mpr knows

theorem knows_ofValue {value : Value} {parts : List Part}
    (known : ∀ part ∈ parts, store.KnowsPart part) : store.Knows (.ofValue value parts) := by
  unfold Object.ofValue
  split
  · trivial
  · exact known

theorem Sound.extends (sound : before.Sound) (onward : before.Extends after)
    (cursors : ∀ cursor ∈ after.cursors, cursor ∈ before.cursors ∨ before.Holds cursor)
    (walks : ∀ walk ∈ after.walks, walk ∈ before.walks ∨ before.Guards walk)
    (fresh : ∀ id, before.holdings.length ≤ id → ∀ other, after.viewHolds other id = true →
      (after.buffer id).backing.isGrowable = false) : after.Sound := by
  refine ⟨?_, ?_, ?_⟩
  · intro cursor member
    rcases cursors cursor member with old | fresh
    · exact (sound.cursors cursor old).extends onward
    · exact fresh.extends onward
  · intro walk member
    rcases walks walk member with old | fresh
    · exact (sound.walks walk old).extends onward
    · exact fresh.extends onward
  · intro id other shown
    by_cases known : id < before.holdings.length
    · rw [onward.views id known] at shown
      rw [onward.backings id known]
      exact sound.views id other shown
    · exact fresh id (Nat.le_of_not_lt known) other shown

theorem Spares.refl (store : Store) : store.Spares touched store :=
  ⟨fun _ _ _ found => found, fun _ _ _ found => found⟩

theorem Spares.trans (first : before.Spares touched middle)
    (second : middle.Spares touched after) : before.Spares touched after :=
  ⟨fun id cursor apart found => second.cursors id cursor apart (first.cursors id cursor apart found),
    fun id walk apart found => second.walks id walk apart (first.walks id walk apart found)⟩

theorem Spares.mono {wider : Object → Prop} (spares : before.Spares touched after)
    (within : ∀ object, touched object → wider object) : before.Spares wider after :=
  ⟨fun id cursor apart => spares.cursors id cursor fun hit => apart (within _ hit),
    fun id walk apart => spares.walks id walk fun hit => apart (within _ hit)⟩

/-- A sound store that came out of another one, with its buffers as they were, and its cursors
and walks but for those that were touched. -/
structure Moves (touched : Object → Prop) (before after : Store) : Prop where
  sound : after.Sound
  onward : before.Extends after
  keeps : before.Keeps after
  spares : before.Spares touched after

theorem Moves.trans (first : before.Moves touched middle) (second : middle.Moves touched after) :
    before.Moves touched after :=
  ⟨second.sound, first.onward.trans second.onward, first.keeps.trans second.keeps,
    first.spares.trans second.spares⟩

theorem Moves.mono {wider : Object → Prop} (moves : before.Moves touched after)
    (within : ∀ object, touched object → wider object) : before.Moves wider after :=
  ⟨moves.sound, moves.onward, moves.keeps, moves.spares.mono within⟩

/-- A step that touches no buffer, shrinks cursors, and puts sound ones into the store. -/
theorem Moves.of_same_buffers (sound : before.Sound) (holdings : after.holdings = before.holdings)
    (cursors : ∀ (id : Nat) (cursor : Cursor), before.cursors[id]? = some cursor →
      ∃ moved : Cursor, after.cursors[id]? = some moved ∧ moved.Inside cursor)
    (walks : before.walks.length ≤ after.walks.length)
    (held : ∀ cursor ∈ after.cursors, cursor ∈ before.cursors ∨ before.Holds cursor)
    (guarded : ∀ walk ∈ after.walks, walk ∈ before.walks ∨ before.Guards walk)
    (spares : before.Spares touched after) : before.Moves touched after := by
  have same (id : Nat) : after.buffer id = before.buffer id := by rw [buffer, buffer, holdings]
  have onward : before.Extends after := ⟨.of_same holdings, cursors, walks⟩
  have keeps : before.Keeps after := ⟨Nat.le_of_eq (by rw [holdings]), fun id _ => same id⟩
  refine ⟨sound.extends onward held guarded ?_, onward, keeps, spares⟩
  intro id _ other shown
  rw [viewHolds, holdings] at shown
  exact (same id).symm ▸ sound.views id other shown

theorem Extends.of_buffers (sound : before.Sound) (grows : before.Grows after)
    (cursors : after.cursors = before.cursors) (walks : after.walks = before.walks)
    (fresh : ∀ id, before.holdings.length ≤ id → ∀ other, after.viewHolds other id = true →
      (after.buffer id).backing.isGrowable = false) :
    before.Extends after ∧ after.Sound := by
  have onward : before.Extends after := by
    refine ⟨grows, ?_, Nat.le_of_eq (by rw [walks])⟩
    intro id cursor found
    exact ⟨cursor, cursors ▸ found, (sound.holds found).inside_self⟩
  refine ⟨onward, sound.extends onward ?_ ?_ fresh⟩
  · exact fun cursor old => .inl (cursors ▸ old)
  · exact fun walk old => .inl (walks ▸ old)

section Cursors

theorem getElem?_addCursor {id : Nat} {old : Cursor} (found : store.cursors[id]? = some old) :
    (store.addCursor window).1.cursors[id]? = some old :=
  (List.getElem?_append_left (List.getElem?_eq_some_iff.mp found).1).trans found

theorem addCursor_moves (sound : store.Sound) (holds : store.Holds window) :
    store.Moves touched (store.addCursor window).1 := by
  refine .of_same_buffers sound rfl ?_ ?_ ?_ ?_ ?_
  · intro id old found
    exact ⟨old, getElem?_addCursor found, (sound.holds found).inside_self⟩
  · exact Nat.le_refl _
  · intro cursor member
    rcases List.mem_append.mp member with old | fresh
    · exact .inl old
    · exact .inr (List.mem_singleton.mp fresh ▸ holds)
  · exact fun walk old => .inl old
  · exact ⟨fun id old _ found => getElem?_addCursor found, fun id walk _ found => found⟩

theorem setCursor_moves (sound : store.Sound) {id : Nat} {cursor : Cursor}
    (found : store.cursors[id]? = some cursor) (inside : window.Inside cursor)
    (hit : touched (.stream id)) : store.Moves touched (store.setCursor id window) := by
  refine .of_same_buffers sound rfl ?_ ?_ ?_ ?_ ?_
  · intro other former there
    by_cases same : id = other
    · subst same
      cases found.symm.trans there
      have reach := (List.getElem?_eq_some_iff.mp found).1
      exact ⟨window, List.getElem?_set_self reach, inside⟩
    · exact ⟨former, (List.getElem?_set_ne same).trans there, (sound.holds there).inside_self⟩
  · exact Nat.le_refl _
  · intro other member
    rcases List.mem_or_eq_of_mem_set member with old | rfl
    · exact .inl old
    · exact .inr ((sound.holds found).of_inside inside)
  · exact fun walk old => .inl old
  · refine ⟨fun other former apart there => ?_, fun other walk _ there => there⟩
    have different : id ≠ other := fun same => apart (same ▸ hit)
    exact (List.getElem?_set_ne different).trans there

end Cursors

section Walks

theorem getElem?_addWalk {id : Nat} {walk old : Walk} (found : store.walks[id]? = some old) :
    (store.addWalk walk).1.walks[id]? = some old :=
  (List.getElem?_append_left (List.getElem?_eq_some_iff.mp found).1).trans found

theorem addWalk_moves (sound : store.Sound) {walk : Walk} (guards : store.Guards walk) :
    store.Moves touched (store.addWalk walk).1 := by
  refine .of_same_buffers sound rfl ?_ ?_ ?_ ?_ ?_
  · intro id cursor found
    exact ⟨cursor, found, (sound.holds found).inside_self⟩
  · simp [addWalk]
  · exact fun cursor old => .inl old
  · intro other member
    rcases List.mem_append.mp member with old | fresh
    · exact .inl old
    · exact .inr (List.mem_singleton.mp fresh ▸ guards)
  · exact ⟨fun id cursor _ found => found, fun id old _ found => getElem?_addWalk found⟩

theorem setWalk_moves (sound : store.Sound) (id : Nat) {walk : Walk}
    (guards : store.Guards walk) (hit : touched (.walk id)) :
    store.Moves touched (store.setWalk id walk) := by
  refine .of_same_buffers sound rfl ?_ ?_ ?_ ?_ ?_
  · intro other cursor found
    exact ⟨cursor, found, (sound.holds found).inside_self⟩
  · simp [setWalk]
  · exact fun cursor old => .inl old
  · intro other member
    rcases List.mem_or_eq_of_mem_set member with old | rfl
    · exact .inl old
    · exact .inr guards
  · refine ⟨fun other cursor _ there => there, fun other former apart there => ?_⟩
    have different : id ≠ other := fun same => apart (same ▸ hit)
    exact (List.getElem?_set_ne different).trans there

theorem Moves.refl (sound : store.Sound) : store.Moves touched store := by
  refine .of_same_buffers sound rfl ?_ ?_ ?_ ?_ ?_
  · intro id cursor found
    exact ⟨cursor, found, (sound.holds found).inside_self⟩
  · exact Nat.le_refl _
  · exact fun cursor old => .inl old
  · exact fun walk old => .inl old
  · exact .refl store

end Walks

section Buffers

theorem addBuffer_keeps (holding : Holding) : store.Keeps (store.addBuffer holding).1 := by
  unfold addBuffer
  dsimp only
  split
  · exact .refl store
  · refine ⟨by simp, ?_⟩
    intro id known
    rw [buffer, buffer, List.getElem?_append_left known]

theorem addBuffer_grows (holding : Holding) : store.Grows (store.addBuffer holding).1 := by
  have keeps : store.Keeps (store.addBuffer holding).1 := addBuffer_keeps holding
  refine ⟨keeps.count, fun id known => ?_, fun id known => ?_, fun id known other => ?_⟩
  · exact keeps.buffers id known ▸ List.prefix_rfl
  · rw [keeps.buffers id known]
  · unfold addBuffer
    dsimp only
    split
    · rfl
    · rw [viewHolds, viewHolds, List.getElem?_append_left known]

theorem addBuffer_cursors (holding : Holding) :
    (store.addBuffer holding).1.cursors = store.cursors ∧
      (store.addBuffer holding).1.walks = store.walks := by
  unfold addBuffer
  dsimp only
  split
  · exact ⟨rfl, rfl⟩
  · exact ⟨rfl, rfl⟩

theorem addBuffer_moves (sound : store.Sound) {holding : Holding}
    (view : holding.exporter.isSome → holding.buffer.backing.isGrowable = false) :
    store.Moves touched (store.addBuffer holding).1 := by
  have keeps : store.Keeps (store.addBuffer holding).1 := addBuffer_keeps holding
  obtain ⟨cursors, walks⟩ : _ ∧ _ := store.addBuffer_cursors holding
  have fresh : ∀ id, store.holdings.length ≤ id → ∀ other,
      (store.addBuffer holding).1.viewHolds other id = true →
        ((store.addBuffer holding).1.buffer id).backing.isGrowable = false := by
    intro id new other
    unfold addBuffer
    dsimp only
    split
    · exact sound.views id other
    · unfold viewHolds buffer
      dsimp only
      rw [List.getElem?_append_right new]
      cases id - store.holdings.length with
      | zero =>
        intro shown
        have viewed : holding.exporter = some other := beq_iff_eq.mp shown
        apply view
        rw [viewed]
        rfl
      | succ beyond => nofun
  obtain ⟨onward, moved⟩ := Extends.of_buffers sound (addBuffer_grows holding) cursors walks fresh
  refine ⟨moved, onward, keeps, fun id cursor _ found => ?_, fun id walk _ found => ?_⟩
  · rw [cursors]
    exact found
  · rw [walks]
    exact found

theorem addBuffer_known (holding : Holding) :
    (store.addBuffer holding).2 < (store.addBuffer holding).1.holdings.length ∧
      (store.addBuffer holding).1.buffer (store.addBuffer holding).2 = holding.buffer := by
  unfold addBuffer
  dsimp only
  split
  · rename_i id known
    split at known
    · obtain ⟨inside, same, -⟩ := List.findIdx?_eq_some_iff_getElem.mp known
      refine ⟨inside, ?_⟩
      simp only [buffer, List.getElem?_eq_getElem inside, Option.map_some, Option.getD_some]
      exact beq_iff_eq.mp same
    · cases known
  · simp [buffer]

theorem push_buffer {id : Nat} (known : id < store.holdings.length) {code : Nat}
    (fits : code ≤ (store.buffer id).unit.maxValue) (other : Nat) :
    (store.setBuffer id ((store.buffer id).push code fits)).buffer other =
      if other = id then (store.buffer id).push code fits else store.buffer other := by
  unfold setBuffer buffer
  rw [List.getElem?_modify]
  split
  · rename_i same
    subst same
    simp [List.getElem?_eq_getElem known]
  · rename_i different
    rw [if_neg (Ne.symm different)]
    simp

theorem push_extends (sound : store.Sound) {id : Nat} (known : id < store.holdings.length)
    {code : Nat} (fits : code ≤ (store.buffer id).unit.maxValue) :
    store.Extends (store.setBuffer id ((store.buffer id).push code fits)) ∧
      (store.setBuffer id ((store.buffer id).push code fits)).Sound := by
  have views (other third : Nat) :
      (store.setBuffer id ((store.buffer id).push code fits)).viewHolds third other =
        store.viewHolds third other := by
    unfold setBuffer viewHolds
    rw [List.getElem?_modify]
    cases store.holdings[other]? with
    | none => rfl
    | some holding =>
      simp only [Option.bind_some]
      split
      · rfl
      · rfl
  have backings (other : Nat) :
      ((store.setBuffer id ((store.buffer id).push code fits)).buffer other).backing =
        (store.buffer other).backing := by
    rw [push_buffer known fits]
    split
    · rename_i same
      rw [same]
      rfl
    · rfl
  refine Extends.of_buffers sound
    ⟨by simp [setBuffer], ?_, fun other _ => backings other, fun other _ => views other⟩ rfl rfl ?_
  · intro other _
    rw [push_buffer known fits]
    split
    · rename_i same
      exact same ▸ List.prefix_append _ _
    · exact List.prefix_rfl
  · intro other _ third shown
    rw [views] at shown
    rw [backings]
    exact sound.views other third shown

end Buffers

section Windows

theorem Holds.shows (holds : store.Holds window) {piece : Stream} {span : Span}
    (on : (store.stream window).On span piece) : store.Shows window piece := by
  have inside := on.valid holds.valid
  have ordered := on.ordered
  have reach := on.inside
  have all := holds.valid.on_whole.stop
  dsimp only [Content.whole, stream] at all
  refine ⟨?_, inside.start_le_stop, ?_, ?_⟩
  · exact on.start ▸ Nat.le_add_right _ _
  · rw [on.stop, all]
    exact Nat.add_le_add_left reach _
  · exact on.buffer ▸ List.prefix_rfl

/-- A piece of a window, as a cursor on the buffer of that window, lies inside it. -/
theorem Shows.inside {piece : Stream} (shown : store.Shows window piece) :
    (Cursor.ofStream window.buffer window.pinned piece).Inside window :=
  ⟨rfl, rfl, shown.start, shown.ordered, shown.stop⟩

theorem shows_inside {piece : Cursor}
    (inside : piece.Inside window) : store.Shows window (store.stream piece) := by
  refine ⟨inside.start, inside.ordered, inside.stop, ?_⟩
  simp only [stream]
  exact inside.buffer ▸ List.prefix_rfl

theorem Cursor.inside_onFrom {place : Nat} (start : window.start ≤ place)
    (stop : place ≤ window.stop) : (window.onFrom place).Inside window :=
  ⟨rfl, rfl, start, stop, Nat.le_refl _⟩

/-- A walk as it goes on lies in the store where the walk does. -/
theorem opened_guards (sound : store.Sound) {walk : Walk} (guards : store.Guards walk) :
    store.Guards (store.opened walk) := by
  cases walk with
  | waiting source =>
    cases source with
    | units id =>
      cases found : store.cursors[id]? with
      | none =>
        rw [opened, found]
        trivial
      | some cursor =>
        rw [opened, found]
        exact sound.holds found
    | lines window separator =>
      unfold opened
      dsimp only
      split
      · exact guards
      · exact guards
  | _ => exact guards

end Windows

end Store

end TextScan.Session
