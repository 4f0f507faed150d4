import TextScan.Proofs.Making

namespace TextScan.Session

open Scan

variable {session after : Session}

theorem settingsOf_known (sound : session.Sound) {fields : List (String × Term)}
    {settings : Settings Object} (ok : session.settingsOf fields = .ok settings) :
    ∀ object ∈ settings.toList, session.store.Knows object := by
  obtain ⟨given, read, same⟩ := bind_eq_ok.mp ok
  cases same
  have known : ∀ field ∈ given, session.store.Knows field.2 := by
    clear ok
    induction fields generalizing given with
    | nil =>
      cases read
      nofun
    | cons field fields each =>
      rw [List.mapM_cons] at read
      obtain ⟨first, named, read⟩ := bind_eq_ok.mp read
      obtain ⟨rest, others, same⟩ := bind_eq_ok.mp read
      obtain ⟨object, held, single⟩ := bind_eq_ok.mp named
      cases same
      cases single
      intro entry member
      rcases List.mem_cons.mp member with rfl | later
      · exact sound.hold held
      · exact each rest others entry later
  have looked (name : String) {base : Object} (usual : session.store.Knows base) :
      session.store.Knows ((given.lookup name).getD base) := by
    cases found : given.lookup name with
    | none => exact usual
    | some object =>
      obtain ⟨first, second, same, -⟩ := List.lookup_eq_some_iff.mp found
      exact known (name, object) (same ▸ by simp)
  intro object member
  simp only [Settings.ofFields, Settings.toList, List.mem_cons, List.not_mem_nil,
    or_false] at member
  rcases member with rfl | rfl | rfl
  · exact looked _ trivial
  · exact looked _ trivial
  · exact looked _ trivial

theorem Sound.leave (sound : session.Sound) (scope : String) : (session.leave scope).Sound := by
  unfold Session.leave
  split
  · rename_i settings found
    obtain ⟨first, second, same, -⟩ := List.lookup_eq_some_iff.mp found
    refine ⟨sound.store, sound.registers, ?_, ?_, sound.outer⟩
    · exact sound.scopes (scope, some settings) (same ▸ by simp) settings rfl
    · intro entry member saved equal
      rcases List.mem_cons.mp member with rfl | old
      · cases equal
      · exact sound.scopes entry (List.mem_of_mem_filter old) saved equal
  · exact sound

theorem leave_store (session : Session) (scope : String) :
    (session.leave scope).store = session.store := by
  unfold leave
  split
  · rfl
  · rfl

theorem Sound.enter (sound : session.Sound) (scope : String) {settings : Settings Object}
    (known : ∀ object ∈ settings.toList, session.store.Knows object) :
    (session.enter scope settings).Sound := by
  have outside := sound.leave scope
  refine ⟨outside.store, outside.registers, ?_, ?_, outside.outer⟩
  · exact fun object member => (leave_store session scope).symm ▸ known object member
  · intro entry member saved equal
    rcases List.mem_cons.mp member with rfl | old
    · cases equal
      exact outside.settings
    · exact outside.scopes entry (List.mem_of_mem_filter old) saved equal

theorem configured_steady (sound : session.Sound) (moved : after.Sound)
    (store : after.store = session.store) {value : Value} (plain : value.streams = [])
    (asked : Option Object) : (after.answer value).Steady session asked := by
  have moves : session.store.Moves (asked = some ·) after.store := by
    rw [store]
    exact .refl sound.store
  exact answer_steady moved moves (by rw [store]) plain

def Command.isReading : Command → Bool
  | .compare .. => true
  | .sameBuffer .. => true
  | .same .. => true
  | .withFile .. => true
  | .properties .. => true
  | _ => false

/-- An effect that changes nothing, shows no stream, and keeps a value. -/
structure Effect.Reading (done : Effect) (session : Session) : Prop where
  unchanged : done.session = session
  plain : done.result.streams = []
  kept : (∃ value, done.kept = .value value) ∨ ∃ value terms, done.kept = session.made value terms

theorem answer_reading (session : Session) {value : Value} (plain : value.streams = []) :
    (session.answer value).Reading session :=
  ⟨rfl, plain, .inl ⟨value, rfl⟩⟩

theorem effect_reading {command : Command} {done : Effect}
    (ok : session.effect command = .ok done) (reading : command.isReading = true) :
    done.Reading session := by
  cases command with
  | compare on relation swapped operand =>
    obtain ⟨object, -, ok⟩ := bind_eq_ok.mp ok
    obtain ⟨value, -, ok⟩ := bind_eq_ok.mp ok
    obtain ⟨answer, -, ok⟩ := bind_eq_ok.mp ok
    cases ok
    exact answer_reading session rfl
  | sameBuffer on other =>
    obtain ⟨first, -, ok⟩ := bind_eq_ok.mp ok
    obtain ⟨value, -, ok⟩ := bind_eq_ok.mp ok
    split at ok
    · obtain ⟨second, -, ok⟩ := bind_eq_ok.mp ok
      cases ok
      exact answer_reading session rfl
    · cases ok
  | same on other =>
    obtain ⟨object, -, ok⟩ := bind_eq_ok.mp ok
    obtain ⟨second, -, ok⟩ := bind_eq_ok.mp ok
    cases ok
    exact answer_reading session rfl
  | withFile on file =>
    obtain ⟨object, -, ok⟩ := bind_eq_ok.mp ok
    obtain ⟨value, -, ok⟩ := bind_eq_ok.mp ok
    split at ok
    · cases ok
      exact ⟨rfl, rfl, .inr ⟨_, _, rfl⟩⟩
    · cases ok
  | properties on =>
    obtain ⟨found, -, ok⟩ := bind_eq_ok.mp ok
    cases ok
    exact ⟨rfl, rfl, .inl ⟨_, rfl⟩⟩
  | _ => cases reading

theorem Effect.Reading.steady {done : Effect} (reading : done.Reading session)
    (sound : session.Sound) (asked : Option Object) : done.Steady session asked := by
  obtain ⟨after, result, object⟩ := done
  obtain ⟨unchanged, plain, kept⟩ := reading
  dsimp only at unchanged plain kept
  subst unchanged
  rcases kept with ⟨value, rfl⟩ | ⟨value, terms, rfl⟩
  · exact steady_of_bare sound (.refl sound.store) rfl trivial rfl (shown_plain plain)
  · exact steady_of_bare sound (.refl sound.store) rfl (sound.made value terms)
      (windows_ofValue _ _ _) (shown_plain plain)

/-- Every command but an append keeps the buffers, and each window in its buffer. -/
theorem effect_steady (sound : session.Sound) {command : Command} {done : Effect}
    (ok : session.effect command = .ok done) (fixed : ∀ on code, command ≠ .append on code) :
    done.Steady session (session.asked? command) := by
  cases command with
  | create arguments => exact create_steady sound ok
  | call on method arguments => exact call_steady sound ok
  | walk on => exact walk_steady sound ok
  | next on => exact next_steady sound ok
  | append on code => exact absurd rfl (fixed on code)
  | setConfig fields =>
    obtain ⟨settings, given, ok⟩ := bind_eq_ok.mp ok
    cases ok
    exact configured_steady sound (sound.withSettings (settingsOf_known sound given)) rfl rfl _
  | resetConfig =>
    cases ok
    exact configured_steady sound (sound.withSettings (defaultSettings_known _)) rfl rfl _
  | readConfig =>
    cases ok
    refine steady_of_bare sound (.refl sound.store) rfl ?_ (windows_ofValue _ _ _)
      (shown_plain rfl)
    apply Store.knows_ofValue
    intro part member
    obtain ⟨object, configured, present⟩ := List.mem_flatMap.mp member
    exact (sound.settings object configured).parts part present
  | pushConfig scope fields =>
    obtain ⟨settings, given, ok⟩ := bind_eq_ok.mp ok
    cases ok
    have entered := sound.enter scope (settingsOf_known sound given)
    refine configured_steady sound entered (leave_store session scope) ?_ _
    rfl
  | popConfig scope =>
    unfold effect at ok
    dsimp only at ok
    split at ok
    · cases ok
      exact configured_steady sound (sound.leave scope) (leave_store session scope) rfl _
    · cases ok
  | setPlatform platform =>
    cases ok
    have moved : Session.Sound { session with platform } :=
      ⟨sound.store, sound.registers, sound.settings, sound.scopes, sound.outer⟩
    refine configured_steady sound moved rfl ?_ _
    rfl
  | _ => exact (effect_reading ok rfl).steady sound _

/-- A buffer grows by a unit that it admits, where nothing keeps it from growing. -/
theorem grow_ok {id : Nat} {value : Value} {done : Effect} (ok : session.grow id value = .ok done) :
    ∃ (code : Int) (fits : 0 ≤ code ∧ code.toNat ≤ (session.store.buffer id).unit.maxValue),
      value.int? = some code ∧ session.isExported id = false ∧
      (session.store.buffer id).backing.isGrowable = true ∧
      done = answer { session with
        store := session.store.setBuffer id
          ((session.store.buffer id).push code.toNat fits.2) } .null := by
  unfold grow at ok
  dsimp only at ok
  split at ok
  · cases ok
  · rename_i growable
    split at ok
    · cases ok
    · rename_i code whole
      obtain ⟨pinned, -, ok⟩ := bind_eq_ok.mp ok
      split at ok
      · cases ok
      · rename_i free
        split at ok
        · rename_i fits
          cases ok
          refine ⟨code, fits, whole, ?_, ?_, rfl⟩
          · simpa using free
          · simpa using growable
        · cases ok

/-- An append puts one unit at the end of one buffer and touches nothing else. -/
theorem grow_steady (sound : session.Sound) {id : Nat}
    (known : id < session.store.holdings.length) {value : Value} {done : Effect}
    (ok : session.grow id value = .ok done) :
    done.session.Sound ∧ session.store.Extends done.session.store ∧
      done.session.store.cursors = session.store.cursors ∧
      done.session.store.walks = session.store.walks ∧
      (∀ other, other ≠ id → done.session.store.buffer other = session.store.buffer other) ∧
      done.kept = .value .null ∧ done.result.streams = [] := by
  obtain ⟨code, fits, -, -, -, rfl⟩ := grow_ok ok
  obtain ⟨onward, grown⟩ := Store.push_extends sound.store known fits.2
  refine ⟨sound.extend onward grown, onward, rfl, rfl, ?_, rfl, rfl⟩
  intro other different
  exact (Store.push_buffer known fits.2 other).trans (if_neg different)

end TextScan.Session
