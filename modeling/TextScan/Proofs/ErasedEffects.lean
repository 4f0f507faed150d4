import TextScan.Proofs.Erasure

namespace TextScan.Session

section Effects

variable (session : Session)

theorem bare_answerStream (cursor : Cursor) :
    session.bare.answerStream cursor.bare = (session.answerStream cursor).bare := by
  unfold answerStream
  rw [show session.bare.store = session.store.bare from rfl, Store.bare_addCursor]
  rfl

theorem bare_answerContent (id : Nat) (value : Value) :
    session.bare.answerContent id value = (session.answerContent id value).bare := by
  unfold answerContent
  split
  · unfold holdContent
    rw [show session.bare.store.buffer id = session.store.buffer id from rfl]
    dsimp only
    split
    · rfl
    · rw [show session.bare.store = session.store.bare from rfl, Store.bare_addBuffer]
      rfl
  · rfl

theorem bare_answerFrom (cursor : Cursor) (method : Method) (arguments : List Term)
    (value : Value) :
    session.bare.answerFrom cursor.bare method arguments value =
      (session.answerFrom cursor method arguments value).bare := by
  unfold answerFrom
  split
  · rename_i stream
    exact session.bare_answerStream (.ofStream cursor.buffer cursor.pinned stream)
  · rfl
  · split
    · rfl
    · split
      · exact session.bare_answerContent cursor.buffer _
      · split
        · rw [bare_made]
          rfl
        · rfl

theorem bare_yields (object : Object) :
    session.bare.yields object.bare = (session.yields object).map Yield.bare := by
  cases object with
  | lines window separator forms =>
    exact session.store.bare_left (.waiting (.lines window separator))
  | walk id =>
    change ((session.store.bare.walks[id]?).map session.store.bare.left).getD [] = _
    rw [Store.bare_walk?, Option.map_map, yields]
    cases session.store.walks[id]? with
    | none => rfl
    | some walk => exact session.store.bare_left walk
  | streams cursors =>
    simp only [Object.bare, yields, List.map_map]
    rfl
  | _ => rfl

theorem bare_answerList (value : Value) (yields : List Yield) :
    session.bare.answerList value (yields.map Yield.bare) =
      (session.answerList value yields).bare := by
  have gathered : session.bare.store.gather (yields.map Yield.bare) = _ :=
    session.store.bare_gather yields
  cases yields with
  | nil => rfl
  | cons given rest =>
    cases given with
    | value value => rfl
    | _ =>
      rw [List.map_cons] at gathered ⊢
      simp only [Yield.bare, answerList] at gathered ⊢
      rw [gathered]
      rfl

theorem bare_answerAmong (cursors : List Nat) (key value : Value) :
    session.bare.answerAmong cursors key value = (session.answerAmong cursors key value).bare := by
  unfold answerAmong
  split
  · split
    · rfl
    · rfl
  · rfl
  · rfl

theorem bare_answerOther (object : Object) (method : Method) (key value : Value) :
    session.bare.answerOther object.bare method key value =
      (session.answerOther object method key value).bare := by
  cases method with
  | duplicate =>
    cases object with
    | buffer id => exact session.bare_answerContent id value
    | _ => rfl
  | item =>
    cases object with
    | buffer id => exact session.bare_answerContent id value
    | streams cursors => exact session.bare_answerAmong cursors key value
    | _ => rfl
  | copy =>
    cases object with
    | buffer id => exact session.bare_answerContent id value
    | _ => rfl
  | toList =>
    have listed := session.bare_answerList value (session.yields object)
    rw [← bare_yields] at listed
    cases object with
    | _ => exact listed
  | _ =>
    cases object with
    | _ => rfl

theorem bare_startWalk (walk : Walk) :
    session.bare.startWalk walk.bare = (session.startWalk walk).bare := by
  unfold startWalk
  rw [show session.bare.store = session.store.bare from rfl, Store.bare_addWalk]
  rfl

theorem bare_advance (id : Nat) (gives : Option (Yield × Walk)) :
    session.bare.advance id (gives.map bareGives) = (session.advance id gives).bare := by
  have moved (walk : Walk) : bare { session with store := session.store.setWalk id walk } =
      { session.bare with store := session.bare.store.setWalk id walk.bare } := by
    rw [bare, Store.bare_setWalk]
    rfl
  cases gives with
  | none =>
    unfold advance
    exact congrArg (Effect.mk · _ _) (moved .finished).symm
  | some gives =>
    obtain ⟨given, later⟩ := gives
    simp only [Option.map_some, bareGives, advance]
    rw [← moved]
    cases given with
    | value value => rfl
    | line window => exact bare_answerStream _ window
    | stream cursor =>
      have shown := Store.bare_shown (session.store.setWalk id later) (.stream cursor)
      exact congrArg (fun value => Effect.mk _ (.value value) _) shown

end Effects

section Commands

variable (session : Session)

theorem bare_pins (buffer : Buffer) : session.bare.pins buffer = false := by
  unfold pins
  rw [bare_environment]
  rfl

theorem bare_createOver (object : Object) (values : List Value) :
    session.bare.createOver object.bare values =
      (session.createOver object values).map Effect.bare := by
  have made (other : Session) (id : Nat) (pinned : Bool) (window : Stream) :
      other.bare.answerStream (.ofStream id false window) =
        (other.answerStream (.ofStream id pinned window)).bare :=
    other.bare_answerStream (.ofStream id pinned window)
  cases object with
  | stream id =>
    simp only [Object.bare, createOver]
    rw [show session.bare.store = session.store.bare from rfl, Store.bare_getElem?]
    cases session.store.cursors[id]? with
    | none => rfl
    | some cursor =>
      refine bind_kept fun window _ => ?_
      exact congrArg Except.ok (made session cursor.buffer cursor.pinned window)
  | buffer id =>
    refine bind_kept fun window _ => ?_
    rw [bare_pins]
    exact congrArg Except.ok (made session id _ window)
  | _ =>
    unfold createOver
    dsimp only [Object.bare]
    refine bind_kept fun buffer _ => bind_kept fun window _ => ?_
    rw [bare_pins, show session.bare.store = session.store.bare from rfl, Store.bare_addBuffer]
    exact congrArg Except.ok (made
      { session with store := (session.store.addBuffer ⟨buffer, none⟩).1 } _ _ window)

theorem bare_create (arguments : List Term) :
    session.bare.create arguments = (session.create arguments).map Effect.bare := by
  have source : session.bare.sourceOf arguments = (session.sourceOf arguments).map Object.bare := by
    cases arguments with
    | nil => rfl
    | cons term rest => exact session.bare_hold term
  unfold create
  rw [bare_evalMany, source]
  refine bind_kept fun values _ => bind_kept fun _ _ => bind_changed fun object _ => ?_
  exact session.bare_createOver object values

def bareFound (found : Nat × Cursor) : Nat × Cursor := (found.1, found.2.bare)

theorem bare_cursorIn (name member : String) :
    session.bare.cursorIn name member = (session.cursorIn name member).map bareFound := by
  unfold cursorIn
  rw [bare_lookup]
  refine bind_changed fun object _ => ?_
  cases object with
  | stream id =>
    simp only [Object.bare]
    rw [show session.bare.store = session.store.bare from rfl, Store.bare_getElem?]
    cases session.store.cursors[id]? with
    | none => rfl
    | some cursor => rfl
  | walk id =>
    simp only [Object.bare]
    rw [show session.bare.valueOf (.walk id) = _ from session.bare_valueOf (.walk id)]
    rfl
  | streams cursors =>
    simp only [Object.bare]
    rw [show session.bare.valueOf (.streams cursors) = _ from
      session.bare_valueOf (.streams cursors)]
    rfl
  | lines window separator forms => rfl
  | buffer id => rfl
  | value value => rfl
  | made value parts => rfl

theorem bare_walk (on : String) :
    session.bare.walk on = (session.walk on).map Effect.bare := by
  unfold walk
  rw [bare_lookup]
  refine bind_changed fun object _ => ?_
  have started (walk : Walk) : (.ok (session.bare.startWalk walk.bare) : Except Fault Effect) =
      Except.map Effect.bare (.ok (session.startWalk walk)) :=
    congrArg Except.ok (session.bare_startWalk walk)
  cases object with
  | stream id => exact started (.waiting (.units id))
  | lines window separator forms => exact started (.waiting (.lines window separator))
  | walk id => rfl
  | buffer id => exact started (.buffer id 0)
  | streams cursors => exact started (.streams cursors 0)
  | value value =>
    simp only [Object.bare, walkOver, valueOf]
    split
    · exact started (.values _)
    · rfl
  | made value parts =>
    simp only [Object.bare, walkOver, valueOf]
    split
    · exact started (.values _)
    · rfl

theorem bare_next (on : String) :
    session.bare.next on = (session.next on).map Effect.bare := by
  unfold next
  rw [bare_lookup]
  refine bind_changed fun object _ => ?_
  have missed (object : Object) :
      (.error (.notIterator (session.bare.valueOf object.bare).fullTypeName) :
        Except Fault Effect) =
        Except.map Effect.bare (.error (.notIterator (session.valueOf object).fullTypeName)) := by
    rw [bare_valueOf]
    rfl
  cases object with
  | walk id =>
    simp only [Object.bare]
    rw [show session.bare.store = session.store.bare from rfl, Store.bare_walk?]
    cases session.store.walks[id]? with
    | none => rfl
    | some walk =>
      simp only [Option.map_some]
      rw [Store.bare_next?]
      exact congrArg Except.ok (session.bare_advance id _)
  | stream id => exact missed (.stream id)
  | lines window separator forms => exact missed (.lines window separator forms)
  | buffer id => exact missed (.buffer id)
  | streams cursors => exact missed (.streams cursors)
  | value value => exact missed (.value value)
  | made value parts => exact missed (.made value parts)

theorem bare_same (on : String) (other : Term) :
    session.bare.same on other = (session.same on other).map Effect.bare := by
  unfold same
  rw [bare_lookup, bare_hold]
  refine bind_changed fun object _ => bind_changed fun second _ => ?_
  rw [bare_valueOf, bare_valueOf]
  cases object with
  | _ =>
    cases second with
    | _ => rfl

theorem bare_sameBuffer (on : String) (other : Term) :
    session.bare.sameBuffer on other = (session.sameBuffer on other).map Effect.bare := by
  unfold sameBuffer
  rw [bare_cursorIn, bare_eval]
  refine bind_changed fun first _ => bind_kept fun value _ => ?_
  cases other with
  | register name =>
    dsimp only
    rw [bare_cursorIn]
    exact bind_changed fun second _ => rfl
  | _ => rfl

theorem bare_compare (on : String) (relation : Relation) (swapped : Bool) (operand : Term) :
    session.bare.compare on relation swapped operand =
      (session.compare on relation swapped operand).map Effect.bare := by
  unfold compare
  rw [bare_lookup, bare_eval]
  refine bind_changed fun object _ => bind_kept fun value _ => ?_
  rw [bare_valueOf]
  -- only lines may be their own operand, and they are lines without their pin
  cases operand with
  | register name =>
    cases object with
    | _ =>
      dsimp only [Object.bare]
      exact bind_kept fun answer _ => rfl
  | _ =>
    dsimp only
    exact bind_kept fun answer _ => rfl

theorem bare_settingsOf (fields : List (String × Term)) :
    session.bare.settingsOf fields =
      (session.settingsOf fields).map (Settings.map Object.bare) := by
  have each (field : String × Term) :
      ((session.bare.hold field.2).bind fun object => pure (field.1, object)) =
        ((session.hold field.2).bind fun object => pure (field.1, object)).map
          fun (given : String × Object) => (given.1, given.2.bare) := by
    rw [bare_hold]
    exact bind_changed fun object _ => rfl
  have given := mapM_changed each fields
  refine (congrArg (· >>= _) given).trans (bind_changed fun given _ => ?_)
  exact congrArg Except.ok (Settings.ofFields_map Object.bare defaultSettings given).symm

theorem bare_leave (scope : String) : (session.leave scope).bare = session.bare.leave scope := by
  have found : session.bare.scopes.lookup scope =
      (session.scopes.lookup scope).map (Option.map bareSettings) :=
    lookup_changed (Option.map bareSettings) scope session.scopes
  unfold leave
  rw [found]
  cases session.scopes.lookup scope with
  | none => rfl
  | some saved =>
    cases saved with
    | none => rfl
    | some settings =>
      simp only [bare, Option.map_some, List.map_cons, List.filter_map]
      rfl

theorem bare_enter (scope : String) (settings : Settings Object) :
    (session.enter scope settings).bare = session.bare.enter scope (bareSettings settings) := by
  unfold enter
  dsimp only
  rw [← bare_leave]
  simp only [bare, List.map_cons, List.filter_map]
  rfl

theorem bare_finish (walks : List Nat) :
    (session.finish walks).bare = session.bare.finish walks := by
  have ended : (walks.foldl (fun store id => store.setWalk id .finished) session.store).bare =
      walks.foldl (fun store id => store.setWalk id .finished) session.store.bare := by
    generalize session.store = store
    induction walks generalizing store with
    | nil => rfl
    | cons id walks later =>
      rw [List.foldl_cons, List.foldl_cons, later, Store.bare_setWalk]
      rfl
  simp only [finish, bare, ended]

theorem bare_keep (name : Option String) (object : Object) :
    (session.kept? name object).bare = session.bare.kept? name object.bare := by
  cases name with
  | none => rfl
  | some name =>
    simp only [kept?, keep, bare, List.map_cons, List.filter_map]
    rfl

end Commands

end TextScan.Session
