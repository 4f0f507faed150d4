import TextScan.Proofs.Refusal
import TextScan.Proofs.SessionRun

namespace TextScan.Session

/-- A call that comes to an operation on a stream: what it names is there, and its arguments
fit the method. -/
structure Comes (session : Session) (on : String) (method : Method) (arguments : List Term)
    (stream : Stream) (operation : Operation) : Prop where
  receiver : ∃ id, session.lookup on = .ok (.stream id) ∧ session.streamOf? id = some stream
  request : ∃ values, session.evalMany arguments = .ok values ∧
    method.bind values = .ok operation

/-- A session in which nothing moved but the walks that were gone through. -/
structure Unmoved (walks : List Nat) (before after : Session) : Prop where
  cursors : after.store.cursors = before.store.cursors
  holdings : after.store.holdings = before.store.holdings
  others : ∀ id, id ∉ walks → after.store.walks[id]? = before.store.walks[id]?
  registers : after.registers = before.registers
  settings : after.settings = before.settings
  scopes : after.scopes = before.scopes
  platform : after.platform = before.platform

variable {session : Session} {on : String} {method : Method} {arguments : List Term}
  {stream : Stream} {operation : Operation} {fault : Fault}

theorem Unmoved.refl (session : Session) : Unmoved [] session session :=
  ⟨rfl, rfl, fun _ _ => rfl, rfl, rfl, rfl, rfl⟩

theorem finish_unmoved (session : Session) (walks : List Nat) :
    Unmoved walks session (session.finish walks) := by
  induction walks generalizing session with
  | nil => exact .refl session
  | cons id walks later =>
    have after := later { session with store := session.store.setWalk id .finished }
    refine ⟨after.cursors, after.holdings, ?_, rfl, rfl, rfl, rfl⟩
    intro other apart
    obtain ⟨different, rest⟩ := not_or.mp (List.mem_cons.not.mp apart)
    exact (after.others other rest).trans (List.getElem?_set_ne (Ne.symm different))

theorem Comes.call_error (comes : session.Comes on method arguments stream operation) :
    session.call on method arguments = .error fault ↔
      stream.perform session.environment operation = .error fault := by
  obtain ⟨⟨id, held, found⟩, values, read, bound⟩ := comes
  obtain ⟨cursor, there, rfl⟩ := Option.map_eq_some_iff.mp found
  unfold call
  simp only [held, read, there, bound, bind, Except.bind]
  cases (session.store.stream cursor).perform session.environment operation with
  | error cause => simp only [Except.error.injEq]
  | ok answer =>
    obtain ⟨outcome, rest⟩ := answer
    cases outcome with
    | _ => exact ⟨nofun, nofun⟩

theorem Comes.valid (sound : session.Sound)
    (comes : session.Comes on method arguments stream operation) : stream.Valid := by
  obtain ⟨⟨id, -, found⟩, -⟩ := comes
  obtain ⟨cursor, there, rfl⟩ := Option.map_eq_some_iff.mp found
  exact (sound.store.holds there).valid

theorem bind_trimFront {values : List Value} (bound : Method.bind .trim values = .ok operation) :
    ∃ chars, operation = .trim chars ∧ Method.bind .trimFront values = .ok (.trimFront chars) := by
  unfold Method.bind at bound ⊢
  simp only [Method.signature?, Signature.admit, List.length_nil, bind, Except.bind, pure,
    Except.pure] at bound ⊢
  by_cases surplus : 0 + 1 < values.length
  · rw [if_pos surplus] at bound
    cases bound
  · rw [if_neg surplus, if_neg (Nat.not_lt_zero _)] at bound ⊢
    cases bound
    exact ⟨_, rfl, rfl⟩

theorem Comes.trimFront (comes : session.Comes on .trim arguments stream operation) :
    ∃ chars, operation = .trim chars ∧
      session.Comes on .trimFront arguments stream (.trimFront chars) := by
  obtain ⟨receiver, values, read, bound⟩ := comes
  obtain ⟨chars, rfl, front⟩ := bind_trimFront bound
  exact ⟨chars, rfl, receiver, values, read, front⟩

/-- A call that faults has moved nothing before, if what it reads twice can be read twice. -/
theorem Comes.halted_eq (sound : session.Sound)
    (comes : session.Comes on method arguments stream operation)
    (repeatable : (operation.reading session.environment.config).isRepeatable = true)
    (faulted : session.call on method arguments = .error fault) :
    session.halted (.call on method arguments) = session := by
  rcases halted_cases session (.call on method arguments) with
    same | ⟨on', arguments', done, same, trimmed, -⟩
  · exact same
  · cases same
    obtain ⟨chars, rfl, front⟩ := comes.trimFront
    have valid := comes.valid sound
    have refused := valid.perform_refused session.environment
      (show (Operation.trim chars).takesText = true from rfl)
    have refused' := valid.perform_refused session.environment
      (show (Operation.trimFront chars).takesText = true from rfl)
    have once : (chars.orElse session.environment.config.whitespace).readsOnce = false := by
      simpa [Operation.reading, Reading.isRepeatable] using repeatable
    -- the first of the two readings is that of the front alone
    have first : (Operation.trim chars).refusal? session.environment.config stream.unit
          stream.isEmpty =
        (Operation.trimFront chars).refusal? session.environment.config stream.unit
          stream.isEmpty := Reading.refusal?_charsetTwice once
    rw [first] at refused
    have halted := front.call_error.mpr
      ((refused' fault).mpr ((refused fault).mp (comes.call_error.mp faulted)))
    cases halted.symm.trans trimmed

/-- What a call on a stream does where it faults. -/
structure Guarded (session : Session) (on : String) (method : Method) (arguments : List Term)
    (stream : Stream) (operation : Operation) : Prop where
  /-- It faults just where the unit refuses the argument or the configured default. -/
  refused : operation.takesText = true →
    Refused stream.unit (session.effect (.call on method arguments))
      (operation.refusal? session.environment.config stream.unit stream.isEmpty)
  /-- The fault is one of the unit, unless what is read cannot be gone through. -/
  kind : operation.takesText = true →
    (operation.reading session.environment.config).isBlocked = false →
    ∀ fault, session.effect (.call on method arguments) = .error fault → fault.kind = .unit
  /-- Whatever the fault, nothing moves, but for trimming by a set that can be read once. -/
  unmoved : (operation.reading session.environment.config).isRepeatable = true →
    ∀ fault name, session.effect (.call on method arguments) = .error fault →
      Unmoved (session.walksUsed (.call on method arguments)) session
        (session.act (.call on method arguments) name).1

theorem Comes.guarded (sound : session.Sound)
    (comes : session.Comes on method arguments stream operation) :
    session.Guarded on method arguments stream operation := by
  have valid := comes.valid sound
  have refused (takes : operation.takesText = true) :
      Refused stream.unit (session.effect (.call on method arguments))
        (operation.refusal? session.environment.config stream.unit stream.isEmpty) :=
    fun fault => comes.call_error.trans (valid.perform_refused session.environment takes fault)
  refine ⟨refused, ?_, ?_⟩
  · intro takes clear fault faulted
    obtain ⟨cause, refusing, rfl⟩ := (refused takes fault).mp faulted
    apply Fault.kind_unit
    rintro obstacle rfl
    unfold Operation.refusal? at refusing
    split at refusing
    · cases refusing
    · rw [Reading.isBlocked_of_refusal refusing] at clear
      cases clear
  · intro repeatable fault name faulted
    obtain ⟨moved, log, acted⟩ := act_error faulted name
    rw [acted, comes.halted_eq sound repeatable faulted]
    exact finish_unmoved session _

/-- The law of calls: each that comes to an operation on a stream is guarded. -/
def GuardedCall (session : Session) (command : Command) (_ : Option String) : Prop :=
  ∀ on method arguments stream operation, command = .call on method arguments →
    session.Comes on method arguments stream operation →
    session.Guarded on method arguments stream operation

/-- Over every run, within forks as well, every call on a stream faults just where its unit
refuses what it is given, and leaves all windows, buffers and settings as they are. -/
theorem run_guarded (platform : String) (steps : List Step) :
    AlongAll GuardedCall (start platform) steps := by
  apply alongAll_of_sound _ (start_sound platform)
  rintro session command name sound on method arguments stream operation rfl comes
  exact comes.guarded sound

/-- A stream over two bytes, in a register. -/
def bytesHeld : Step := .act (.create [.value (.bytes [97, 98])]) (some "s")

/-- The stream is asked for a range whose first number is no byte. -/
def rangeAsked : Command := .call "s" .startsWith [.value (.range (-1) 3)]

theorem run_guarded_range :
    let session := ((start "linux").step bytesHeld).1
    session.effect rangeAsked = .error (.unit (some .narrow) (.outOfRange (-1) 1)) ∧
      Unmoved [] session (session.act rangeAsked none).1 := by
  have along := run_guarded "linux" [bytesHeld, .act rangeAsked none]
  rw [AlongAll, AlongAll, Along] at along
  have guarded := along.2.1 "s" .startsWith [.value (.range (-1) 3)]
    (.ofBuffer (.ofBytes [97, 98])) (.startsWith (.range (-1) 3)) rfl ⟨⟨0, rfl, rfl⟩, _, rfl, rfl⟩
  have refused := (guarded.refused rfl (.unit (some .narrow) (.outOfRange (-1) 1))).mpr
    ⟨_, rfl, rfl⟩
  exact ⟨refused, guarded.unmoved rfl _ none refused⟩

/-- A walk over one byte, in another register. -/
def walkHeld : List Step :=
  [bytesHeld, .act (.create [.value (.bytes [97])]) (some "t"), .act (.walk "t") (some "w")]

/-- The stream is trimmed by a set that holds the walk. -/
def walkTrimmed : Command := .call "s" .trim [.set [.register "w"]]

/-- What cannot be gone through, a range of too many numbers or a view that was given back, is no
fault of the unit, and a set that can be read once is refused at its second reading, when the front
is trimmed already. -/
theorem calls_beyond_guard :
    (∀ value ∈ [.range 0 0x8000000000000000, .range 0 0x4000000000000000, Value.released],
      ∃ fault, ((start "linux").step bytesHeld).1.effect
          (.call "s" .startsWith [.value value]) = .error fault ∧ fault.kind ≠ .unit) ∧
    (let session := ((start "linux").run walkHeld).1
    ∃ fault, session.effect walkTrimmed = .error fault ∧ fault.kind = .unit ∧
      (session.act walkTrimmed none).1.store.cursors ≠ session.store.cursors) := by
  refine ⟨?_, ?_⟩
  · intro value listed
    simp only [List.mem_cons, List.not_mem_nil, or_false] at listed
    rcases listed with rfl | rfl | rfl
    · exact ⟨_, rfl, Fault.kind_blocked_ne _ .uncounted⟩
    · exact ⟨_, rfl, Fault.kind_blocked_ne _ .unheld⟩
    · exact ⟨_, rfl, Fault.kind_blocked_ne _ .released⟩
  · exact ⟨.unit (some .narrow) (.notOneUnit (Value.generator 0 []).shown 0), rfl, rfl, by decide⟩

end TextScan.Session
