import TextScan.Proofs.WalkInvariant
import TextScan.Session

namespace TextScan.Session

open Scan

def Store.windowOf? (store : Store) : Object → Option Cursor
  | .stream cursor => store.cursors[cursor]?
  | .lines window _ _ => some window
  | .walk id => (store.walks[id]?).bind fun walk => (store.opened walk).window?
  | _ => none

def Store.windows (store : Store) : Object → List Cursor
  | .walk id =>
    ((store.walks[id]?).map fun walk => store.walkWindows (store.opened walk)).getD []
  | .streams cursors => store.windowsAt cursors
  | object => (store.windowOf? object).toList

/-- Whether what is asked of an object can only come out of its windows. -/
def Object.isCut : Object → Bool
  | .buffer _ => false
  | .value _ => false
  | .made _ _ => false
  | _ => true

def Result.streams : Result → List Stream
  | .value shown => shown.streams
  | _ => []

/-- The register a command takes something from: the one it is asked of, or the source of a
new stream. -/
def source? : Command → Option String
  | .create (.register name :: _) => some name
  | command => receiver? command

def asked? (session : Session) (command : Command) : Option Object :=
  (source? command).bind fun name => session.registers.lookup name

/-- Every window that a session names lies in its buffer. -/
structure Sound (session : Session) : Prop where
  store : session.store.Sound
  registers : ∀ entry ∈ session.registers, session.store.Knows entry.2
  settings : ∀ object ∈ session.settings.toList, session.store.Knows object
  scopes : ∀ entry ∈ session.scopes, ∀ settings, entry.2 = some settings →
    ∀ object ∈ settings.toList, session.store.Knows object
  outer : ∀ settings ∈ session.outer, ∀ object ∈ settings.toList, session.store.Knows object

/-- All that comes out of a window lies inside it: new cursors, what may be kept, and the
streams that are shown. -/
structure Effect.Inside (done : Effect) (before : Store) (window : Cursor) : Prop where
  fresh : ∀ (id : Nat) (cursor : Cursor), before.cursors.length ≤ id →
    done.session.store.cursors[id]? = some cursor → cursor.Inside window
  kept : ∀ inner, done.session.store.windowOf? done.kept = some inner → inner.Inside window
  shown : ∀ piece ∈ done.result.streams, before.Shows window piece

/-- What is cut comes out of windows that were there: new cursors, and what may be kept. -/
structure Effect.CutFrom (done : Effect) (before : Store) (windows : List Cursor) : Prop where
  fresh : ∀ (id : Nat) (cursor : Cursor), before.cursors.length ≤ id →
    done.session.store.cursors[id]? = some cursor → ∃ outer ∈ windows, cursor.Inside outer
  kept : ∀ inner ∈ done.session.store.windows done.kept, ∃ outer ∈ windows, inner.Inside outer

/-- What the effect of a command does to the session before it, where something was asked
that may go over a window: nothing else moves. -/
structure Effect.Steady (session : Session) (asked : Option Object) (done : Effect) :
    Prop where
  sound : done.session.Sound
  moves : session.store.Moves (asked = some ·) done.session.store
  known : done.session.store.Knows done.kept
  cut : ∀ object, asked = some object → object.isCut = true →
    done.CutFrom session.store (session.store.windows object)
  shown : ∀ object window, asked = some object →
    session.store.windowOf? object = some window →
    ∀ piece ∈ done.result.streams, session.store.Shows window piece

variable {session after : Session} {store : Store}

namespace Store

variable {window : Cursor} {object : Object}

theorem windows_walk {id : Nat} {walk : Walk} (there : store.walks[id]? = some walk) :
    store.windows (.walk id) = store.walkWindows (store.opened walk) := by
  simp only [windows, there, Option.map_some, Option.getD_some]

theorem windows_of_windowOf (found : store.windowOf? object = some window) :
    object.isCut = true ∧ store.windows object = [window] := by
  cases object with
  | stream id =>
    refine ⟨rfl, ?_⟩
    change (store.windowOf? (.stream id)).toList = _
    rw [found]
    rfl
  | lines own separator forms =>
    cases found
    exact ⟨rfl, rfl⟩
  | walk id =>
    obtain ⟨walk, there, goes⟩ := Option.bind_eq_some_iff.mp found
    refine ⟨rfl, ?_⟩
    rw [windows_walk there]
    exact walkWindows_of_window goes
  | _ => cases found

theorem mem_windows (found : store.windowOf? object = some window) :
    window ∈ store.windows object := by
  rw [(windows_of_windowOf found).2]
  exact List.mem_singleton_self window

theorem walkWindows_hold (sound : store.Sound) {walk : Walk} (guards : store.Guards walk)
    (member : window ∈ store.walkWindows walk) : store.Holds window := by
  cases walk with
  | streams cursors place =>
    obtain ⟨id, -, found⟩ := List.mem_filterMap.mp member
    exact sound.holds found
  | units rest =>
    cases List.mem_singleton.mp member
    exact guards
  | lines rest separator =>
    cases List.mem_singleton.mp member
    exact guards
  | passed rest =>
    cases List.mem_singleton.mp member
    exact guards
  | _ => cases member

theorem Knows.windows_hold (sound : store.Sound) (known : store.Knows object)
    (member : window ∈ store.windows object) : store.Holds window := by
  cases object with
  | stream id => exact sound.holds (Option.mem_toList.mp member)
  | lines own separator forms =>
    cases List.mem_singleton.mp member
    exact known
  | walk id =>
    have there := List.getElem?_eq_getElem known
    rw [windows_walk there] at member
    have guards := opened_guards sound (sound.guards there)
    exact walkWindows_hold sound guards member
  | streams cursors =>
    obtain ⟨id, -, found⟩ := List.mem_filterMap.mp member
    exact sound.holds found
  | _ => cases member

theorem Knows.window_holds (sound : store.Sound) (known : store.Knows object)
    (found : store.windowOf? object = some window) : store.Holds window :=
  known.windows_hold sound (mem_windows found)

/-- What lies in a window shows a piece of it, also in a store that came out of this one. -/
theorem Moves.shows {before after : Store} {touched : Object → Prop} {inner : Cursor}
    (moves : before.Moves touched after) (holds : before.Holds window)
    (inside : inner.Inside window) : before.Shows window (after.stream inner) := by
  refine ⟨inside.start, inside.ordered, inside.stop, ?_⟩
  have same : after.buffer inner.buffer = before.buffer window.buffer := by
    rw [inside.buffer, moves.keeps.buffers _ holds.known]
  simp only [stream]
  exact same ▸ List.prefix_rfl

end Store

/-- From one window comes only what lies inside it. -/
theorem Effect.Steady.obtained {asked : Option Object} {done : Effect}
    (steady : done.Steady session asked) (object : Object) (window : Cursor)
    (same : asked = some object) (found : session.store.windowOf? object = some window) :
    done.Inside session.store window := by
  obtain ⟨isCut, only⟩ := Store.windows_of_windowOf found
  have cut := steady.cut object same isCut
  rw [only] at cut
  have single {inner : Cursor} (inside : ∃ outer ∈ [window], inner.Inside outer) :
      inner.Inside window := by
    obtain ⟨outer, member, inside⟩ := inside
    exact List.mem_singleton.mp member ▸ inside
  refine ⟨fun id cursor new there => single (cut.fresh id cursor new there), ?_,
    steady.shown object window same found⟩
  exact fun inner there => single (cut.kept inner (Store.mem_windows there))

theorem lookup_eq_ok {name : String} {object : Object} (found : session.lookup name = .ok object) :
    session.registers.lookup name = some object := by
  unfold Session.lookup at found
  split at found
  · rename_i held
    cases found
    exact held
  · cases found

theorem Sound.lookup (sound : session.Sound) {name : String} {object : Object}
    (found : session.lookup name = .ok object) : session.store.Knows object := by
  obtain ⟨first, second, same, -⟩ := List.lookup_eq_some_iff.mp (lookup_eq_ok found)
  exact sound.registers (name, object) (same ▸ by simp)

/-- Whatever is in the session is still there when the store went on. -/
theorem Sound.extend (sound : session.Sound) (onward : session.store.Extends store)
    (still : store.Sound) : Sound { session with store } :=
  ⟨still, fun entry member => (sound.registers entry member).extends onward,
    fun object member => (sound.settings object member).extends onward,
    fun entry member settings same object present =>
      (sound.scopes entry member settings same object present).extends onward,
    fun settings member object present =>
      (sound.outer settings member object present).extends onward⟩

theorem Sound.move {touched : Object → Prop} (sound : session.Sound)
    (moves : session.store.Moves touched store) :
    Sound { session with store } := sound.extend moves.onward moves.sound

theorem Sound.keep (sound : session.Sound) (name : String) {object : Object}
    (known : session.store.Knows object) : (session.keep name object).Sound := by
  refine ⟨sound.store, ?_, sound.settings, sound.scopes, sound.outer⟩
  intro entry member
  rcases List.mem_cons.mp member with rfl | old
  · exact known
  · exact sound.registers entry (List.mem_of_mem_filter old)

theorem Sound.withSettings (sound : session.Sound) {settings : Settings Object}
    (known : ∀ object ∈ settings.toList, session.store.Knows object) :
    Sound { session with settings } :=
  ⟨sound.store, sound.registers, known, sound.scopes, sound.outer⟩

theorem defaultSettings_known (store : Store) :
    ∀ object ∈ defaultSettings.toList, store.Knows object := by
  intro object member
  simp only [defaultSettings, Settings.map, Settings.toList, List.mem_cons, List.not_mem_nil,
    or_false] at member
  rcases member with rfl | rfl | rfl
  · trivial
  · trivial
  · trivial

theorem finish_moves (sound : session.store.Sound) (walks : List Nat) :
    session.store.Moves (fun object => ∃ id ∈ walks, object = .walk id)
      (session.finish walks).store := by
  refine List.foldlRecOn walks _ (.refl sound) fun store moves id member => ?_
  exact moves.trans (Store.setWalk_moves moves.sound id trivial ⟨id, member, rfl⟩)

end TextScan.Session
