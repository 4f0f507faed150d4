import TextScan.Proofs.Quiet

namespace TextScan.Session

def Command.terms : Command → List Term
  | .create arguments => arguments
  | .call _ _ arguments => arguments
  | .compare _ _ _ operand => [operand]
  | .sameBuffer _ other => [other]
  | .same _ other => [other]
  | .append _ code => [code]
  | .withFile _ file => [file]
  | .setConfig fields => fields.map Prod.snd
  | .pushConfig _ fields => fields.map Prod.snd
  | _ => []

/-- What is wrong with a term of a command, if anything is, is no failed assertion. -/
def Legible (session : Session) (command : Command) : Prop :=
  ∀ term ∈ command.terms, Quiet (session.eval term)

/-- A command that comes to a negative count which is asserted not to be. -/
def Fails (session : Session) (command : Command) (check : Check) : Prop :=
  ∃ on method arguments stream operation, command = .call on method arguments ∧
    session.Comes on method arguments stream operation ∧ operation.failing? = some check

variable {session : Session} {command : Command} {object : Object} {values : List Value}

theorem lookup_quiet (session : Session) (name : String) : Quiet (session.lookup name) := by
  unfold lookup
  split
  · nofun
  · nofun

theorem evalMany_quiet {terms : List Term} (read : ∀ term ∈ terms, Quiet (session.eval term)) :
    Quiet (session.evalMany terms) := by
  induction terms with
  | nil => nofun
  | cons term rest each =>
    refine .bind (read term (.head rest)) fun value _ => ?_
    exact .bind (each fun other member => read other (.tail term member)) fun _ _ => .ok _

theorem hold_quiet {term : Term} (read : Quiet (session.eval term)) :
    Quiet (session.hold term) := by
  unfold hold
  split
  · exact lookup_quiet session _
  · exact read.map

theorem cursorIn_quiet (session : Session) (name member : String) :
    Quiet (session.cursorIn name member) := by
  refine .bind (lookup_quiet session name) fun object _ => ?_
  split
  · split
    · nofun
    · nofun
  · nofun

theorem createOver_quiet (session : Session) (object : Object) (values : List Value) :
    Quiet (session.createOver object values) := by
  have windowed (buffer : Buffer) (start stop : Value) : Quiet (buffer.window start stop) := by
    refine .bind (windowBounds_quiet _ _ _) fun bounds _ => ?_
    dsimp only
    split
    · nofun
    · nofun
  unfold createOver
  dsimp only
  split
  · split
    · refine .bind (.bind (windowBounds_quiet _ _ _) fun bounds _ => ?_) fun _ _ => .ok _
      dsimp only
      split
      · nofun
      · nofun
    · nofun
  · exact .bind (windowed _ _ _) fun _ _ => .ok _
  · exact .bind (.mapError _ none) fun _ _ => .bind (windowed _ _ _) fun _ _ => .ok _

theorem picked_quiet (value : Value) (offsets : List Nat) : Quiet (value.picked offsets) := by
  unfold Value.picked
  split
  · nofun
  · nofun
  · nofun
  · nofun
  · nofun
  · split
    · nofun
    · nofun
  · split
    · nofun
    · nofun
  · nofun

theorem subscript_quiet (value key : Value) : Quiet (value.subscript key) := by
  have bound (value : Value) : Quiet value.wholeBound? := by
    unfold Value.wholeBound?
    split
    · nofun
    · nofun
    · nofun
  have places (sequence : Sequence) (length : Nat) : Quiet (Value.places sequence length key) := by
    unfold Value.places
    split
    · refine .bind (bound _) fun step _ => ?_
      dsimp only
      split
      · exact .bind nofun fun _ _ => .bind (bound _) fun _ _ => .bind (bound _) fun _ _ => .ok _
      · exact .bind (bound _) fun _ _ => .bind (bound _) fun _ _ => .ok _
    · split
      · nofun
      · rename_i offset _
        dsimp only
        generalize (if offset < 0 then offset + (length : Int) else offset) = counted
        split
        · nofun
        · nofun
  unfold Value.subscript
  split
  · refine .bind (places _ _) fun place _ => ?_
    split
    · split
      · nofun
      · nofun
    · exact picked_quiet value _
  · nofun

theorem ask_quiet (value : Value) (method : Method) : Quiet (ask value method) := by
  unfold ask
  split
  · nofun
  · nofun
  · nofun
  · split
    · nofun
    · nofun
  · split
    · nofun
    · nofun
  · nofun
  · nofun
  · nofun
  · nofun
  · nofun
  · nofun
  · split
    · nofun
    · rename_i value _
      refine .bind ?_ fun _ _ => nofun
      unfold Value.hashable?
      split
      · nofun
      · nofun
  · nofun

theorem compare_quiet (relation : Relation) (first second : Value) :
    Quiet (first.compare relation second) := by
  have checked (stream : Stream) (value : Value) : Quiet (stream.checkRead value) := by
    unfold Stream.checkRead
    split
    · nofun
    · nofun
  unfold Value.compare
  split
  · refine .bind (checked _ _) fun _ _ => ?_
    split
    · nofun
    · nofun
  · refine .bind (checked _ _) fun _ _ => ?_
    split
    · nofun
    · nofun
  · split
    · nofun
    · nofun

theorem compared_quiet (isItself : Bool) (relation : Relation) (swapped : Bool)
    (own value : Value) : Quiet (compared isItself relation swapped own value) := by
  unfold compared
  split
  · nofun
  · split
    · nofun
    · split
      · exact compare_quiet _ _ _
      · exact compare_quiet _ _ _

theorem pinnedFault_quiet (buffer : Buffer) (code : Int) :
    Quiet (pinnedFault buffer code) ∧
      ∀ fault, pinnedFault buffer code = .ok fault → fault.kind = .buffer := by
  unfold pinnedFault
  split
  · split
    · exact ⟨nofun, nofun⟩
    · exact ⟨nofun, fun fault same => by cases same; rfl⟩
  · split
    · exact ⟨nofun, fun fault same => by cases same; rfl⟩
    · exact ⟨nofun, nofun⟩

/-- A unit is put into a buffer, or refused as one; no count is looked at. -/
theorem grow_quiet (session : Session) (id : Nat) (value : Value) :
    Quiet (session.grow id value) := by
  unfold grow
  dsimp only
  split
  · intro check failed
    cases failed
  · split
    · intro check failed
      cases failed
    · rename_i code _
      obtain ⟨quiet, buffer⟩ := pinnedFault_quiet (session.store.buffer id) code
      refine .bind quiet fun pinned allowed => ?_
      split
      · intro check same
        cases same
        cases buffer _ allowed
      · split
        · exact .ok _
        · intro check failed
          cases failed

/-- A call fails no assertion if none of its terms does, and its count is not negative. -/
theorem call_quiet (sound : session.Sound) {on : String} {method : Method} {arguments : List Term}
    (legible : session.Legible (.call on method arguments))
    (passing : session.environment.checksAssertions = true →
      ∀ check, ¬session.Fails (.call on method arguments) check) :
    Quiet (session.call on method arguments) := by
  refine .bind (lookup_quiet session on) fun object held => ?_
  refine .bind (evalMany_quiet legible) fun values read => ?_
  split
  · rename_i id
    split
    · nofun
    · rename_i cursor found
      refine .bind (bind_quiet method values) fun operation bound => ?_
      have there : session.streamOf? id = some (session.store.stream cursor) := by
        rw [streamOf?, found]
        rfl
      have comes : session.Comes on method arguments (session.store.stream cursor) operation :=
        ⟨⟨id, held, there⟩, values, read, bound⟩
      have counts (checks : session.environment.checksAssertions = true) :
          operation.failing? = none := by
        rw [Option.eq_none_iff_forall_ne_some]
        intro check failing
        exact passing checks check ⟨on, method, arguments, _, operation, rfl, comes, failing⟩
      refine .bind ((sound.store.holds found).valid.perform_quiet counts) fun done _ => ?_
      dsimp only
      split
      · nofun
      · nofun
  · refine .bind ?_ fun _ _ => nofun
    unfold askWith
    split
    · exact subscript_quiet _ _
    · exact ask_quiet _ _

theorem settingsOf_quiet {fields : List (String × Term)}
    (read : ∀ term ∈ fields.map Prod.snd, Quiet (session.eval term)) :
    Quiet (session.settingsOf fields) := by
  refine .bind ?_ fun _ _ => .ok _
  induction fields with
  | nil => nofun
  | cons field fields each =>
    rw [List.mapM_cons]
    refine .bind (.bind (hold_quiet (read field.2 (.head _))) fun _ _ => .ok _) fun first _ => ?_
    exact .bind (each fun term member => read term (.tail _ member)) fun _ _ => .ok _

theorem effect_quiet (sound : session.Sound) (legible : session.Legible command)
    (passing : session.environment.checksAssertions = true →
      ∀ check, ¬session.Fails command check) : Quiet (session.effect command) := by
  cases command with
  | create arguments =>
    refine .bind (evalMany_quiet legible) fun values _ => ?_
    refine .bind (admit_quiet creation _) fun _ _ => .bind ?_ fun object _ => ?_
    · cases arguments with
      | nil => nofun
      | cons term rest => exact hold_quiet (legible term (.head rest))
    · exact createOver_quiet session object values
  | call on method arguments => exact call_quiet sound legible passing
  | compare on relation swapped operand =>
    refine .bind (lookup_quiet session on) fun object _ => ?_
    refine .bind (legible operand (.head _)) fun value _ => ?_
    exact .bind (compared_quiet _ _ _ _ _) fun _ _ => .ok _
  | sameBuffer on other =>
    refine .bind (cursorIn_quiet session on _) fun found _ => ?_
    refine .bind (legible other (.head _)) fun value _ => ?_
    split
    · exact .bind (cursorIn_quiet session _ _) fun _ _ => .ok _
    · nofun
  | same on other =>
    refine .bind (lookup_quiet session on) fun object _ => ?_
    exact .bind (hold_quiet (legible other (.head _))) fun _ _ => .ok _
  | walk on =>
    refine .bind (lookup_quiet session on) fun object _ => ?_
    unfold walkOver
    split
    · nofun
    · nofun
    · nofun
    · nofun
    · nofun
    · dsimp only
      split
      · nofun
      · nofun
  | next on =>
    refine .bind (lookup_quiet session on) fun object _ => ?_
    split
    · split
      · nofun
      · nofun
    · nofun
  | append on code =>
    refine .bind (cursorIn_quiet session on _) fun found _ => ?_
    exact .bind (legible code (.head _)) fun value _ => grow_quiet session _ value
  | withFile on file =>
    refine .bind (lookup_quiet session on) fun object _ => ?_
    refine .bind (legible file (.head _)) fun value _ => ?_
    split
    · nofun
    · nofun
  | properties on => exact .bind (cursorIn_quiet session on _) fun _ _ => .ok _
  | setConfig fields => exact .bind (settingsOf_quiet legible) fun _ _ => .ok _
  | pushConfig scope fields => exact .bind (settingsOf_quiet legible) fun _ _ => .ok _
  | popConfig scope =>
    unfold effect
    dsimp only
    split
    · nofun
    · nofun
  | resetConfig => nofun
  | readConfig => nofun
  | setPlatform platform => nofun

end TextScan.Session
