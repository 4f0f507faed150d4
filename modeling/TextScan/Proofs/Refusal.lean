import TextScan.Proofs.Refinement

/-! Which arguments are refused, and why. The unit, the argument and the configured defaults
decide; the content of a window has no part in it, except that a few operations look at
nothing where there is no unit. -/

namespace TextScan

open Scan

/-- Why a result was refused, if it was. -/
def refusalOf? {α : Type} : Except UnitFault α → Option UnitFault
  | .ok _ => none
  | .error cause => some cause

namespace Value

def setMembers? : Value → Option (List Value)
  | set members => some members
  | frozenSet members => some members
  | _ => none

def isWalk : Value → Bool
  | generator _ _ => true
  | _ => false

/-- A value that cannot be gone through, or a set with one in it. -/
def holdsBlocked (value : Value) : Bool :=
  match value.setMembers? with
  | some members => members.any isBlocked
  | none => value.isBlocked

/-- A set with a walk in it can be read only once: the walk is then at its end. -/
def readsOnce (value : Value) : Bool := (value.setMembers?.getD []).any isWalk

/-- What is given, or else a default. -/
def orElse (given fallback : Value) : Value :=
  match given with
  | null => fallback
  | given => given

end Value

/-- What an operation reads an argument as. Trimming both ends reads its set twice. -/
inductive Reading where
  | nothing
  | text (value : Value)
  | char (value : Value)
  | charset (value : Value)
  | charsetTwice (value : Value)

namespace Reading

/-- Why a unit refuses what is read, if it does. -/
def refusal? (unit : CharUnit) : Reading → Option UnitFault
  | nothing => none
  | text value => refusalOf? (unit.text value)
  | char value => refusalOf? (unit.char value)
  | charset value => refusalOf? (unit.charset value)
  | charsetTwice value => refusalOf? (unit.charset value >>= fun _ => unit.charset value.spentAsChars)

/-- Whether something is read that cannot be gone through. -/
def isBlocked : Reading → Bool
  | nothing => false
  | text value => value.isBlocked
  | char value => value.isBlocked
  | charset value => value.holdsBlocked
  | charsetTwice value => value.holdsBlocked

/-- Whether what is read twice can be read twice. -/
def isRepeatable : Reading → Bool
  | charsetTwice value => !value.readsOnce
  | _ => true

end Reading

/-- A target is a set, a text, or a test, which is not read. -/
def Stopping.reading (stopping : Stopping) (target : Value) : Reading :=
  if stopping.anyOf then .charset target
  else match target.test? with
    | some _ => .nothing
    | none => .text target

namespace Operation

/-- Whether an operation takes a character, a text or a character set. -/
def takesText : Operation → Bool
  | .startsWith _ => true
  | .startsWithAny _ => true
  | .endsWith _ => true
  | .endsWithAny _ => true
  | .consume _ => true
  | .takeTo _ _ => true
  | .dropTo _ _ => true
  | .takeDelimited _ => true
  | .takeDelimitedAny _ => true
  | .trim _ => true
  | .trimFront _ => true
  | .trimBack _ => true
  | .lines _ => true
  | _ => false

/-- Operations that look at their argument only where the window has a unit. -/
def looksFirst : Operation → Bool
  | .startsWithAny _ => true
  | .endsWithAny _ => true
  | .takeDelimitedAny _ => true
  | _ => false

/-- What an operation reads of what is given or else configured. The separator of the
platform is used as it is. -/
def reading (config : Config) : Operation → Reading
  | .startsWith needle => .text needle
  | .startsWithAny chars => .charset chars
  | .endsWith needle => .text needle
  | .endsWithAny chars => .charset chars
  | .consume char => .char char
  | .takeTo stopping target => stopping.reading target
  | .dropTo stopping target => stopping.reading target
  | .takeDelimited delimiter => .text delimiter
  | .takeDelimitedAny delimiters => .charset delimiters
  | .trim chars => .charsetTwice (chars.orElse config.whitespace)
  | .trimFront chars => .charset (chars.orElse config.whitespace)
  | .trimBack chars => .charset (chars.orElse config.whitespace)
  | .lines separator =>
    match separator.orElse config.lineSeparator with
    | .null => .nothing
    | separator => .text separator
  | _ => .nothing

/-- Why an operation faults on a window of the unit, if it does. -/
def refusal? (config : Config) (unit : CharUnit) (isEmpty : Bool) (operation : Operation) :
    Option UnitFault :=
  if operation.looksFirst && isEmpty then none else (operation.reading config).refusal? unit

end Operation

/-- A computation faults just where an argument is refused, and for the same cause. -/
def Refused {α : Type} (unit : CharUnit) (result : Except Fault α) (refusal : Option UnitFault) :
    Prop :=
  ∀ fault, result = .error fault ↔ ∃ cause, refusal = some cause ∧ fault = .unit (some unit) cause

namespace Refused

variable {α β : Type} {unit : CharUnit}

theorem answered (answer : α) : Refused unit (.ok answer) none := by
  intro fault
  constructor
  · intro faulted
    cases faulted
  · rintro ⟨cause, refused, -⟩
    cases refused

theorem coerce (result : Except UnitFault α) :
    Refused unit (Content.coerce unit result) (refusalOf? result) := by
  cases result with
  | error cause =>
    intro fault
    constructor
    · rintro ⟨⟩
      exact ⟨cause, rfl, rfl⟩
    · rintro ⟨other, ⟨⟩, rfl⟩
      rfl
  | ok read => exact .answered read

theorem bind {result : Except Fault α} {next : α → Except Fault β} {refusal : Option UnitFault}
    (refused : Refused unit result refusal) (answers : ∀ read, ∃ answer, next read = .ok answer) :
    Refused unit (result >>= next) refusal := by
  cases result with
  | error cause =>
    intro fault
    rw [← refused fault]
    constructor
    · rintro ⟨⟩
      rfl
    · rintro ⟨⟩
      rfl
  | ok read =>
    obtain ⟨answer, answered⟩ := answers read
    change Refused unit (next read) refusal
    rw [answered]
    intro fault
    rw [← refused fault]
    constructor
    · rintro ⟨⟩
    · rintro ⟨⟩

theorem read (result : Except UnitFault α) {next : α → Except Fault β}
    (answers : ∀ read, ∃ answer, next read = .ok answer) :
    Refused unit (Content.coerce unit result >>= next) (refusalOf? result) :=
  (coerce result).bind answers

/-- Of two readings the second comes after the first was accepted. -/
theorem readTwice (first second : Except UnitFault α) {next : α → α → Except Fault β}
    (answers : ∀ read read', ∃ answer, next read read' = .ok answer) :
    Refused unit
      (Content.coerce unit first >>= fun read =>
        Content.coerce unit second >>= fun read' => next read read')
      (refusalOf? (first >>= fun _ => second)) := by
  cases first with
  | error cause => exact coerce (.error cause)
  | ok given => exact read second (answers given)

end Refused

theorem Environment.trimmed_eq (environment : Environment) (chars : Value) :
    environment.trimmed chars = chars.orElse environment.config.whitespace := by
  cases chars <;> rfl

theorem Environment.separating_eq (environment : Environment) (separator : Value) :
    environment.separating separator =
      match separator.orElse environment.config.lineSeparator with
      | .null => .text environment.platformSeparator
      | separator => separator := by
  cases separator <;> rfl

theorem Environment.platformSeparator_read (environment : Environment) (unit : CharUnit) :
    ∃ codes, unit.text (.text environment.platformSeparator) = .ok codes := by
  have plain : environment.platformSeparator.hasSurrogate = false := by
    unfold platformSeparator
    split <;> decide
  have encoded : unit.encode? environment.platformSeparator =
      some (unit.encode environment.platformSeparator) := by
    rw [CharUnit.encode?, plain, Bool.and_false]
    rfl
  refine ⟨unit.encode environment.platformSeparator, ?_⟩
  unfold CharUnit.text CharUnit.literal
  dsimp only
  rw [encoded]

namespace Content

variable (sequence : Sequence) (environment : Environment) (unit : CharUnit) (content : List Nat)

theorem stop?_refused (stopping : Stopping) (target : Value) :
    Refused unit (stop? unit content stopping target)
      ((stopping.reading target).refusal? unit) := by
  unfold stop? Stopping.reading
  split
  · exact .read _ fun chars => ⟨_, rfl⟩
  · cases target.test? with
    | some test => exact .answered _
    | none => exact .read _ fun needle => ⟨_, rfl⟩

theorem isAnyOf_refused (code : Option Nat) (chars : Value) :
    Refused unit (isAnyOf unit code chars)
      (if code.isNone then none else (Reading.charset chars).refusal? unit) := by
  cases code with
  | none => exact .answered _
  | some code => exact .read _ fun chars => ⟨_, rfl⟩

/-- What is said of some content faults just where the argument is refused. -/
theorem reply_refused {operation : Operation} (takes : operation.takesText = true) :
    Refused unit (reply sequence environment unit content operation)
      (operation.refusal? environment.config unit content.isEmpty) := by
  cases operation with
  | startsWith needle =>
    rw [reply]
    exact .read _ fun needle => ⟨_, rfl⟩
  | startsWithAny chars =>
    rw [reply]
    have refused := isAnyOf_refused unit content.head? chars
    rw [show content.head?.isNone = content.isEmpty by cases content <;> rfl] at refused
    exact refused.bind fun answer => ⟨_, rfl⟩
  | endsWith needle =>
    rw [reply]
    exact .read _ fun needle => ⟨_, rfl⟩
  | endsWithAny chars =>
    rw [reply]
    have refused := isAnyOf_refused unit content.getLast? chars
    rw [show content.getLast?.isNone = content.isEmpty by
      cases content <;> simp [List.getLast?_cons]] at refused
    exact refused.bind fun answer => ⟨_, rfl⟩
  | consume char =>
    rw [reply]
    exact .read _ fun code => ⟨_, rfl⟩
  | takeTo stopping target =>
    rw [reply]
    exact (stop?_refused unit content stopping target).bind fun stop => ⟨_, rfl⟩
  | dropTo stopping target =>
    rw [reply]
    exact (stop?_refused unit content stopping target).bind fun stop => ⟨_, rfl⟩
  | takeDelimited delimiter =>
    rw [reply]
    refine .read _ fun needle => ?_
    cases delimited? needle content with
    | none => exact ⟨_, rfl⟩
    | some size => exact ⟨_, rfl⟩
  | takeDelimitedAny delimiters =>
    rw [reply]
    by_cases empty : content.isEmpty = true
    · rw [if_pos empty, Operation.refusal?, empty]
      exact .answered _
    · rw [if_neg empty, Operation.refusal?, Bool.eq_false_iff.mpr empty]
      refine .read _ fun chars => ?_
      cases enclosed? chars content with
      | none => exact ⟨_, rfl⟩
      | some size => exact ⟨_, rfl⟩
  | trim chars =>
    rw [reply, environment.trimmed_eq]
    exact .readTwice _ _ fun front back => ⟨_, rfl⟩
  | trimFront chars =>
    rw [reply, environment.trimmed_eq]
    exact .read _ fun chars => ⟨_, rfl⟩
  | trimBack chars =>
    rw [reply, environment.trimmed_eq]
    exact .read _ fun chars => ⟨_, rfl⟩
  | lines separator =>
    rw [reply, environment.separating_eq]
    unfold Operation.refusal? Operation.reading
    dsimp only
    split
    · obtain ⟨codes, read⟩ := environment.platformSeparator_read unit
      rw [read]
      exact .answered _
    · exact .read _ fun codes => ⟨_, rfl⟩
  | _ => cases takes

end Content

theorem Refused.agree {α β : Type} {unit : CharUnit} {answers : α → β → Prop}
    {said : Except Fault α} {given : Except Fault β} {refusal : Option UnitFault}
    (refused : Refused unit said refusal) (agree : Agree Eq answers said given) :
    Refused unit given refusal := by
  intro fault
  rw [← refused fault]
  cases agree with
  | fault same =>
    cases same
    exact ⟨fun faulted => by cases faulted; rfl, fun faulted => by cases faulted; rfl⟩
  | done related => exact ⟨nofun, nofun⟩

theorem Operation.hidden_of_takesText {operation : Operation} (takes : operation.takesText = true) :
    operation.exposes = false := by
  cases operation <;> first | rfl | cases takes

/-- An operation on a window faults just where the unit refuses what it reads, whatever the
window holds. -/
theorem Stream.Valid.perform_refused {stream : Stream} (valid : stream.Valid)
    (environment : Environment) {operation : Operation} (takes : operation.takesText = true) :
    Refused stream.unit (stream.perform environment operation)
      (operation.refusal? environment.config stream.unit stream.isEmpty) := by
  have refused := Content.reply_refused stream.sequence environment stream.unit stream.content takes
  rw [valid.isEmpty_content] at refused
  exact refused.agree (valid.perform_agrees environment (Operation.hidden_of_takesText takes))

section Blocked

variable {unit : CharUnit} {value : Value} {obstacle : Obstacle}

/-- A list is refused for one of its members. -/
theorem mapM_error {α β : Type} {read : α → Except UnitFault β} {members : List α}
    {cause : UnitFault} (refused : members.mapM read = .error cause) :
    ∃ member ∈ members, read member = .error cause := by
  induction members with
  | nil => cases refused
  | cons first rest ih =>
    rw [List.mapM_cons] at refused
    cases head : read first with
    | error other =>
      rw [head] at refused
      cases refused
      exact ⟨first, List.mem_cons_self, head⟩
    | ok code =>
      cases tail : rest.mapM read with
      | error other =>
        rw [head, tail] at refused
        cases refused
        obtain ⟨member, among, found⟩ := ih tail
        exact ⟨member, List.mem_cons_of_mem _ among, found⟩
      | ok codes =>
        rw [head, tail] at refused
        cases refused

namespace CharUnit

theorem checkCode_ne_blocked (code : Int) : unit.checkCode code ≠ .error (.blocked obstacle) := by
  unfold checkCode
  split <;> nofun

theorem codeOf_ne_blocked (member : Value) : unit.codeOf member ≠ .error (.blocked obstacle) := by
  unfold codeOf
  split
  · exact checkCode_ne_blocked _
  · nofun

theorem literal_ne_blocked (text : Text) : unit.literal text ≠ .error (.blocked obstacle) := by
  unfold literal
  split <;> nofun

/-- A text argument meets no obstacle but its own. -/
theorem obstacle_of_text (refused : unit.text value = .error (.blocked obstacle)) :
    value.obstacle? = some obstacle := by
  unfold text at refused
  split at refused
  · exact absurd refused (literal_ne_blocked _)
  split at refused
  · cases refused
  -- Of what number units read, bytes and views are told by their type, and a view that was given
  -- back is in its own way; anything else is a number, in the way, or gone through.
  split at refused
  · split at refused <;> cases refused
  · split at refused <;> cases refused
  · split at refused <;> cases refused
  · split at refused
    · cases refused
      rfl
    · cases refused
  split at refused
  · rename_i _ _ code _
    cases checked : unit.checkCode code with
    | ok code =>
      rw [checked] at refused
      cases refused
    | error cause =>
      rw [checked] at refused
      cases refused
      exact absurd checked (checkCode_ne_blocked code)
  · cases refused
    assumption
  · split at refused
    · obtain ⟨member, -, found⟩ := mapM_error refused
      exact absurd found (codeOf_ne_blocked member)
    · cases refused

theorem isBlocked_of_text (refused : unit.text value = .error (.blocked obstacle)) :
    value.isBlocked = true := by
  rw [Value.isBlocked, obstacle_of_text refused]
  rfl

theorem isBlocked_of_char (refused : unit.char value = .error (.blocked obstacle)) :
    value.isBlocked = true := by
  unfold char at refused
  cases read : unit.text value with
  | error cause =>
    rw [read] at refused
    cases refused
    exact isBlocked_of_text read
  | ok codes =>
    rw [read] at refused
    simp only [bind, Except.bind] at refused
    split at refused <;> cases refused

theorem charset_of_set {members : List Value} (listed : value.setMembers? = some members) :
    unit.charset value = members.mapM unit.char := by
  cases value <;> cases listed <;> rfl

theorem charset_of_single (single : value.setMembers? = none) :
    unit.charset value = unit.text value := by
  cases value <;> first | rfl | cases single

theorem holdsBlocked_of_charset (refused : unit.charset value = .error (.blocked obstacle)) :
    value.holdsBlocked = true := by
  unfold Value.holdsBlocked
  cases listed : value.setMembers? with
  | some members =>
    rw [charset_of_set listed] at refused
    obtain ⟨member, among, found⟩ := mapM_error refused
    exact List.any_eq_true.mpr ⟨member, among, isBlocked_of_char found⟩
  | none =>
    rw [charset_of_single listed] at refused
    exact isBlocked_of_text refused

end CharUnit

theorem Value.isBlocked_spent (value : Value) : value.spent.isBlocked = value.isBlocked := by
  cases value <;> rfl

theorem Value.holdsBlocked_spentAsChars (value : Value) :
    value.spentAsChars.holdsBlocked = value.holdsBlocked := by
  have among (members : List Value) :
      (members.map spent).any isBlocked = members.any isBlocked := by
    rw [List.any_map]
    exact List.any_congr rfl isBlocked_spent
  cases value with
  | set members => exact among members
  | frozenSet members => exact among members
  | _ => rfl

end Blocked

namespace Value

theorem spent_of_isWalk {value : Value} (still : value.isWalk = false) : value.spent = value := by
  cases value <;> first | rfl | cases still

theorem map_spent {members : List Value} (still : members.any isWalk = false) :
    members.map spent = members := by
  refine (List.map_congr_left fun member listed => ?_).trans (List.map_id members)
  rw [List.any_eq_false] at still
  exact spent_of_isWalk (Bool.eq_false_iff.mpr (still member listed))

end Value

/-- A set without a walk in it is read again as it was read before; a walk that is itself
read as a set has no characters left. -/
theorem CharUnit.charset_again {unit : CharUnit} {value : Value} {codes : List Nat}
    (read : unit.charset value = .ok codes) (repeatable : value.readsOnce = false) :
    ∃ again, unit.charset value.spentAsChars = .ok again := by
  cases value with
  | set members =>
    have still : members.map Value.spent = members := Value.map_spent repeatable
    rw [Value.spentAsChars, still]
    exact ⟨codes, read⟩
  | frozenSet members =>
    have still : members.map Value.spent = members := Value.map_spent repeatable
    rw [Value.spentAsChars, still]
    exact ⟨codes, read⟩
  | generator walk rest =>
    cases unit with
    | wide => cases read
    | _ => exact ⟨[], rfl⟩
  | _ => exact ⟨codes, read⟩

namespace Reading

variable {unit : CharUnit}

theorem refusalOf?_eq_some {α : Type} {result : Except UnitFault α} {cause : UnitFault} :
    refusalOf? result = some cause ↔ result = .error cause := by
  cases result with
  | ok read => simp [refusalOf?]
  | error other => simp [refusalOf?]

/-- Only what is itself blocked is refused so. -/
theorem isBlocked_of_refusal {reading : Reading} {obstacle : Obstacle}
    (refused : reading.refusal? unit = some (.blocked obstacle)) : reading.isBlocked = true := by
  cases reading with
  | nothing => cases refused
  | text value => exact CharUnit.isBlocked_of_text (refusalOf?_eq_some.mp refused)
  | char value => exact CharUnit.isBlocked_of_char (refusalOf?_eq_some.mp refused)
  | charset value => exact CharUnit.holdsBlocked_of_charset (refusalOf?_eq_some.mp refused)
  | charsetTwice value =>
    have twice := refusalOf?_eq_some.mp refused
    cases read : unit.charset value with
    | error cause =>
      rw [read] at twice
      cases twice
      exact CharUnit.holdsBlocked_of_charset read
    | ok codes =>
      rw [read] at twice
      rw [isBlocked, ← value.holdsBlocked_spentAsChars]
      exact CharUnit.holdsBlocked_of_charset twice

/-- A set that can be read twice is refused at its first reading or not at all. -/
theorem refusal?_charsetTwice {value : Value} (repeatable : value.readsOnce = false) :
    (charsetTwice value).refusal? unit = (charset value).refusal? unit := by
  cases read : unit.charset value with
  | error cause => simp only [refusal?, read, bind, Except.bind]
  | ok codes =>
    obtain ⟨again, read'⟩ := CharUnit.charset_again read repeatable
    simp only [refusal?, read, read', bind, Except.bind, refusalOf?]

end Reading

end TextScan
