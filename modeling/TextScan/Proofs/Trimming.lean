import Mathlib.Data.List.DropRight
import TextScan.Proofs.Partition
import TextScan.Proofs.Transcription
import TextScan.Session

namespace TextScan

open Scan

namespace Content

variable (content : List Nat) (test : Nat → Bool)

/-- What is trimmed off the front is the longest run there that passes the test. -/
theorem trimFront_split :
    content.take (trimFront content test) = content.takeWhile test ∧
      content.drop (trimFront content test) = content.dropWhile test := by
  have offset : trimFront content test = content.findIdx fun code => !test code :=
    List.findIdx_eq_getD_findIdx?.symm
  rw [offset]
  exact ⟨List.takeWhile_eq_take_findIdx_not.symm, List.dropWhile_eq_drop_findIdx_not.symm⟩

theorem trimBack_split :
    content.take (trimBack content test) = content.rdropWhile test ∧
      content.drop (trimBack content test) = content.rtakeWhile test := by
  -- the run grows towards the front, so the content is taken apart at its back
  induction content using List.reverseRecOn with
  | nil => exact ⟨rfl, rfl⟩
  | append_singleton front code ih =>
    by_cases passed : test code = true
    · have single : ∀ other ∈ [code], test other = true := by simpa using passed
      have inside := trimBack_le front test
      rw [trimBack_skip front single, List.take_append_of_le_length inside,
        List.drop_append_of_le_length inside, List.rdropWhile_concat_pos test front code passed,
        List.rtakeWhile_concat_pos test front code passed, ih.1, ih.2]
      exact ⟨rfl, rfl⟩
    · have length : front.length + 1 = (front ++ [code]).length := by simp
      rw [trimBack_stop front (Bool.eq_false_iff.mpr passed), length,
        List.rdropWhile_concat_neg test front code passed,
        List.rtakeWhile_concat_neg test front code passed]
      exact ⟨List.take_length, List.drop_length⟩

end Content

namespace Scan

variable {test : Nat → Bool} {before inner behind : List Nat}

/-- What stands behind a run that passes a test and in front of one that does, and fails it at its
own ends, is all that both runs leave. -/
theorem strip_eq (passes : ∀ code ∈ before, test code = true)
    (passes' : ∀ code ∈ behind, test code = true)
    (front : ∀ code, inner.head? = some code → test code = false)
    (back : ∀ code, inner.getLast? = some code → test code = false) :
    ((before ++ (inner ++ behind)).dropWhile test).rdropWhile test = inner := by
  rw [List.dropWhile_append_of_pos passes]
  cases inner with
  | nil =>
    rw [List.nil_append, List.dropWhile_eq_nil_iff.mpr passes', List.rdropWhile_nil]
  | cons code rest =>
    have apart : test code = false := front code rfl
    have reversed : ∀ other ∈ behind.reverse, test other = true := fun other member =>
      passes' other (List.mem_reverse.mp member)
    have kept : (code :: rest).rdropWhile test = code :: rest := by
      rw [List.rdropWhile_eq_self_iff]
      intro some
      rw [back _ (List.getLast?_eq_some_getLast some)]
      exact Bool.false_ne_true
    rw [List.cons_append, List.dropWhile_cons_of_neg (by simp [apart]), ← List.cons_append,
      List.rdropWhile, List.reverse_append, List.dropWhile_append_of_pos reversed]
    exact kept

end Scan

/-- The ends of a window that are trimmed. -/
inductive Ends where
  | front
  | back
  | both

namespace Ends

def atFront : Ends → Bool
  | back => false
  | _ => true

def atBack : Ends → Bool
  | front => false
  | _ => true

/-- The operation that trims these ends. -/
def operation : Ends → Value → Operation
  | front, chars => .trimFront chars
  | back, chars => .trimBack chars
  | both, chars => .trim chars

end Ends

/-- A value that is read as a set of characters and is still the value it was. -/
def Value.Lasts (value : Value) : Prop := value.spentAsChars = value

namespace Stream

/-- A window is what some ends of another one leave when all members of a set are stripped off
them: units that are removed are members, those at the stripped ends of what is left are not, and
an end that is not stripped stays where it is. -/
structure Stripped (whole : Stream) (ends : Ends) (members : List Nat) (rest : Stream) : Prop where
  buffer : rest.buffer = whole.buffer
  start : whole.start ≤ rest.start
  ordered : rest.start ≤ rest.stop
  stop : rest.stop ≤ whole.stop
  before : ∀ code ∈ whole.buffer.between whole.start rest.start, code ∈ members
  behind : ∀ code ∈ whole.buffer.between rest.stop whole.stop, code ∈ members
  front : if ends.atFront then ∀ code, rest.content.head? = some code → code ∉ members
    else rest.start = whole.start
  back : if ends.atBack then ∀ code, rest.content.getLast? = some code → code ∉ members
    else rest.stop = whole.stop

variable {whole middle rest again : Stream} {ends : Ends} {members members' : List Nat}
  {chars : Value}

namespace Stripped

theorem joined (stripped : whole.Stripped ends members rest) :
    whole.content = whole.buffer.between whole.start rest.start ++
      (rest.content ++ whole.buffer.between rest.stop whole.stop) := by
  have inside := stripped.ordered.trans stripped.stop
  rw [content_eq_between rest, stripped.buffer,
    Buffer.between_append stripped.ordered stripped.stop,
    Buffer.between_append stripped.start inside]
  exact whole.content_eq_between

theorem valid (stripped : whole.Stripped ends members rest) (valid : whole.Valid) :
    rest.Valid := by
  refine ⟨stripped.ordered, ?_⟩
  rw [stripped.buffer]
  exact stripped.stop.trans valid.stop_le_size

theorem backward (front : whole.Stripped .front members middle)
    (back : middle.Stripped .back members rest) : whole.Stripped .both members rest := by
  have start : rest.start = middle.start := back.front
  have stop : middle.stop = whole.stop := front.back
  have joined := back.joined
  rw [start, Buffer.between_empty (Nat.le_refl _), List.nil_append] at joined
  refine ⟨back.buffer.trans front.buffer, front.start.trans back.start, back.ordered,
    back.stop.trans front.stop, ?_, ?_, ?_, back.back⟩
  · rw [start]
    exact front.before
  · rw [← front.buffer, ← stop]
    exact back.behind
  · intro code first
    apply front.front code
    rw [joined, List.head?_append, first]
    rfl

theorem forward (back : whole.Stripped .back members middle)
    (front : middle.Stripped .front members rest) : whole.Stripped .both members rest := by
  have start : middle.start = whole.start := back.front
  have stop : rest.stop = middle.stop := front.back
  have joined := front.joined
  rw [stop, Buffer.between_empty (Nat.le_refl _), List.append_nil] at joined
  refine ⟨front.buffer.trans back.buffer, back.start.trans front.start, front.ordered,
    front.stop.trans back.stop, ?_, ?_, front.front, ?_⟩
  · rw [← back.buffer, ← start]
    exact front.before
  · rw [stop]
    exact back.behind
  · intro code last
    apply back.back code
    rw [joined, List.getLast?_append, last]
    rfl

theorem emptied (stripped : whole.Stripped ends members rest)
    (all : ∀ code ∈ whole.content, code ∈ members) : rest.content = [] := by
  have inside (code : Nat) (member : code ∈ rest.content) : code ∈ members := by
    apply all
    rw [stripped.joined]
    exact List.mem_append_right _ (List.mem_append_left _ member)
  by_contra some
  have atEnd : ends.atFront = true ∨ ends.atBack = true := by
    cases ends with
    | front => exact .inl rfl
    | back => exact .inr rfl
    | both => exact .inl rfl
  rcases atEnd with front | back
  · have apart := stripped.front
    rw [if_pos front] at apart
    exact apart _ (List.head?_eq_some_head some) (inside _ (List.head_mem some))
  · have apart := stripped.back
    rw [if_pos back] at apart
    exact apart _ (List.getLast?_eq_some_getLast some) (inside _ (List.getLast_mem some))

/-- What is left when both ends are stripped is told by the content alone. -/
theorem content_eq (stripped : whole.Stripped .both members rest) :
    rest.content = (whole.content.dropWhile members.contains).rdropWhile members.contains := by
  rw [stripped.joined]
  refine (strip_eq ?_ ?_ ?_ ?_).symm
  · intro code removed
    exact List.contains_iff_mem.mpr (stripped.before code removed)
  · intro code removed
    exact List.contains_iff_mem.mpr (stripped.behind code removed)
  · intro code first
    have apart : code ∉ members := stripped.front code first
    simpa using apart
  · intro code last
    have apart : code ∉ members := stripped.back code last
    simpa using apart

/-- A window that is stripped already is not moved when it is stripped of members of the same set
again. -/
theorem settled (stripped : whole.Stripped .both members rest) (valid : rest.Valid)
    (fewer : members' ⊆ members) (stripped' : rest.Stripped .both members' again) :
    rest.Covers ⟨rest.start, rest.stop⟩ again := by
  have joined := stripped'.joined
  refine ⟨stripped'.buffer, ?_, ?_⟩
  · refine (stripped'.start.eq_or_lt.resolve_right ?_).symm
    intro moved
    have inside := stripped'.ordered.trans (stripped'.stop.trans valid.stop_le_size)
    -- the first unit to be removed again is the first that was left
    obtain ⟨code, -, first⟩ := Buffer.between_cons moved inside
    rw [first] at joined
    have member : code ∈ members' := stripped'.before code (first ▸ List.mem_cons_self)
    exact stripped.front code (joined ▸ rfl) (fewer member)
  · refine stripped'.stop.eq_or_lt.resolve_right ?_
    intro moved
    obtain ⟨removed, stop⟩ := Nat.exists_eq_add_of_lt moved
    have inside : again.stop + removed < rest.buffer.size := by
      rw [← Nat.succ_le_iff, Nat.succ_eq_add_one, ← stop]
      exact valid.stop_le_size
    obtain ⟨code, -, last⟩ := Buffer.between_concat (Nat.le_add_right _ removed) inside
    rw [← stop] at last
    rw [last, ← List.append_assoc, ← List.append_assoc] at joined
    have member : code ∈ members' :=
      stripped'.behind code (last ▸ List.mem_append_right _ List.mem_cons_self)
    exact stripped.back code (joined ▸ List.getLast?_concat) (fewer member)

end Stripped

/-- What the units of a window before a window on it are, and those behind. -/
theorem On.removed {span : Span} (on : whole.On span rest) (valid : whole.Valid) :
    whole.buffer.between whole.start rest.start = whole.content.take span.low ∧
      whole.buffer.between rest.stop whole.stop = whole.content.drop span.high := by
  have bounds := valid.start_le_stop
  have inside := on.ordered.trans on.inside
  rw [valid.length_content, size] at inside
  constructor
  · rw [content_eq_between, Buffer.take_between, on.start, Nat.min_eq_left (by omega)]
  · rw [on.stop, between_eq_drop]

theorem Valid.trimFront_stripped (valid : whole.Valid) (members : List Nat) :
    ∃ rest, whole.trimFront members.contains = some rest ∧
      whole.Stripped .front members rest := by
  obtain ⟨rest, trimmed, on⟩ := valid.trimFront_on members.contains
  obtain ⟨removed, left⟩ := Content.trimFront_split whole.content members.contains
  have stop : rest.stop = whole.stop := on.stop.trans valid.on_whole.stop.symm
  refine ⟨rest, trimmed, on.buffer, ?_, (on.valid valid).start_le_stop, stop.le, ?_, ?_, ?_, stop⟩
  · rw [on.start]
    exact Nat.le_add_right _ _
  · intro code member
    rw [(on.removed valid).1, removed] at member
    exact List.contains_iff_mem.mp (List.mem_takeWhile_imp member)
  · intro code member
    rw [stop, Buffer.between_empty (Nat.le_refl _)] at member
    cases member
  · intro code first
    rw [on.content valid, ← List.length_drop, List.take_length, left] at first
    have apart := List.head?_dropWhile_not members.contains whole.content
    rw [first] at apart
    simpa using apart

theorem Valid.trimBack_stripped (valid : whole.Valid) (members : List Nat) :
    ∃ rest, whole.trimBack members.contains = some rest ∧
      whole.Stripped .back members rest := by
  obtain ⟨rest, trimmed, on⟩ := valid.trimBack_on members.contains
  obtain ⟨left, removed⟩ := Content.trimBack_split whole.content members.contains
  have start : rest.start = whole.start := on.start
  have inside : rest.stop ≤ whole.stop := by
    have high := on.inside
    rw [on.stop, valid.on_whole.stop]
    exact Nat.add_le_add_left high _
  refine ⟨rest, trimmed, on.buffer, start.ge, (on.valid valid).start_le_stop, inside, ?_, ?_,
    start, ?_⟩
  · intro code member
    rw [start, Buffer.between_empty (Nat.le_refl _)] at member
    cases member
  · intro code member
    rw [(on.removed valid).2, removed] at member
    exact List.contains_iff_mem.mp (List.mem_rtakeWhile_imp member)
  · intro code last
    rw [on.content valid, List.drop_zero, Nat.sub_zero, left] at last
    have some : whole.content.rdropWhile members.contains ≠ [] := by
      intro none
      rw [none] at last
      cases last
    have apart := List.rdropWhile_last_not members.contains whole.content some
    rw [List.getLast?_eq_some_getLast some] at last
    rw [Option.some.inj last] at apart
    simpa using apart

theorem perform_trimFront {environment : Environment}
    (read : whole.unit.charset (environment.trimmed chars) = .ok members)
    (trimmed : whole.trimFront members.contains = some rest) :
    whole.perform environment (.trimFront chars) = .ok (.itself, rest) := by
  rw [perform, trimSet, whole.coerce_ok read]
  dsimp only [bind, Except.bind]
  rw [trimmed]
  rfl

theorem perform_trimBack {environment : Environment}
    (read : whole.unit.charset (environment.trimmed chars) = .ok members)
    (trimmed : whole.trimBack members.contains = some rest) :
    whole.perform environment (.trimBack chars) = .ok (.itself, rest) := by
  rw [perform, trimSet, whole.coerce_ok read]
  dsimp only [bind, Except.bind]
  rw [trimmed]
  rfl

/-- Characters that can be read again are trimmed off the front and then off the back. -/
theorem perform_trim {environment : Environment}
    (read : whole.unit.charset (environment.trimmed chars) = .ok members)
    (lasts : (environment.trimmed chars).Lasts)
    (front : whole.trimFront members.contains = some middle)
    (back : middle.trimBack members.contains = some rest) :
    whole.perform environment (.trim chars) = .ok (.itself, rest) := by
  rw [perform, lasts, trimSet, whole.coerce_ok read]
  dsimp only [bind, Except.bind]
  rw [front]
  dsimp only [searched]
  rw [back]
  rfl

/-- Trimming strips off the ends all that is in the set, and no more. Where it strips both ends, it
does not matter which is stripped first, and there is nothing left for the same set, or for part of
it, to strip. -/
theorem Valid.trim_maximal (valid : whole.Valid) (environment : Environment)
    (read : whole.unit.charset (environment.trimmed chars) = .ok members) :
    (∀ ends : Ends, (ends = .both → (environment.trimmed chars).Lasts) →
      ∃ rest, whole.perform environment (ends.operation chars) = .ok (.itself, rest) ∧
        whole.Stripped ends members rest ∧
        ((∀ code ∈ whole.content, code ∈ members) → rest.content = [])) ∧
    ((environment.trimmed chars).Lasts → ∃ front back rest rest',
      whole.perform environment (.trim chars) = .ok (.itself, rest) ∧
      whole.perform environment (.trimFront chars) = .ok (.itself, front) ∧
      front.perform environment (.trimBack chars) = .ok (.itself, rest) ∧
      whole.perform environment (.trimBack chars) = .ok (.itself, back) ∧
      back.perform environment (.trimFront chars) = .ok (.itself, rest') ∧
      rest'.content = rest.content ∧
      ∀ (environment' : Environment) (fewer : Value) (members' : List Nat),
        (environment'.trimmed fewer).Lasts →
        whole.unit.charset (environment'.trimmed fewer) = .ok members' → members' ⊆ members →
        ∃ again, rest.perform environment' (.trim fewer) = .ok (.itself, again) ∧
          rest.Covers ⟨rest.start, rest.stop⟩ again) := by
  obtain ⟨front, atFront, stripped⟩ := valid.trimFront_stripped members
  obtain ⟨back, atBack, stripped'⟩ := valid.trimBack_stripped members
  obtain ⟨rest, behind, backward⟩ := (stripped.valid valid).trimBack_stripped members
  obtain ⟨rest', before, forward⟩ := (stripped'.valid valid).trimFront_stripped members
  have both := stripped.backward backward
  have both' := stripped'.forward forward
  have units (other : Stream) (same : other.buffer = whole.buffer) : other.unit = whole.unit :=
    congrArg Buffer.unit same
  have readFront : front.unit.charset (environment.trimmed chars) = .ok members :=
    units front stripped.buffer ▸ read
  have readBack : back.unit.charset (environment.trimmed chars) = .ok members :=
    units back stripped'.buffer ▸ read
  refine ⟨?_, ?_⟩
  · intro ends lasts
    cases ends with
    | front => exact ⟨front, perform_trimFront read atFront, stripped, stripped.emptied⟩
    | back => exact ⟨back, perform_trimBack read atBack, stripped', stripped'.emptied⟩
    | both => exact ⟨rest, perform_trim read (lasts rfl) atFront behind, both, both.emptied⟩
  · intro lasts
    refine ⟨front, back, rest, rest', perform_trim read lasts atFront behind,
      perform_trimFront read atFront, perform_trimBack readFront behind,
      perform_trimBack read atBack, perform_trimFront readBack before,
      both'.content_eq.trans both.content_eq.symm, ?_⟩
    intro environment' fewer members' lasts' read' part
    have settles := both.valid valid
    obtain ⟨front', atFront', once⟩ := settles.trimFront_stripped members'
    obtain ⟨again, behind', twice⟩ := (once.valid settles).trimBack_stripped members'
    have readRest : rest.unit.charset (environment'.trimmed fewer) = .ok members' :=
      units rest both.buffer ▸ read'
    exact ⟨again, perform_trim readRest lasts' atFront' behind',
      both.settled settles part (once.backward twice)⟩

/-- The configured whitespace is trimmed off both ends of a text with a space in it, and all of a
blank one; to trim spaces alone afterwards moves nothing. -/
theorem trim_maximal_spaces :
    let whole := ofBuffer (.ofBytes [32, 9, 97, 32, 98, 32])
    let blank := ofBuffer (.ofBytes [32, 9])
    let environment : Environment := ⟨Config.default, "linux"⟩
    let whitespace := [32, 9, 10, 13, 11, 12]
    whole.Valid ∧ blank.Valid ∧
      CharUnit.narrow.charset (environment.trimmed .null) = .ok whitespace ∧
      (environment.trimmed .null).Lasts ∧
      (∃ rest again, whole.perform environment (.trim .null) = .ok (.itself, rest) ∧
        rest.content = [97, 32, 98] ∧
        rest.perform environment (.trim (.bytes [32])) = .ok (.itself, again) ∧
        rest.Covers ⟨rest.start, rest.stop⟩ again) ∧
      ∃ rest, blank.perform environment (.trimBack .null) = .ok (.itself, rest) ∧
        blank.Stripped .back whitespace rest ∧ rest.content = [] := by
  have valid := ofBuffer_valid (.ofBytes [32, 9, 97, 32, 98, 32])
  have valid' := ofBuffer_valid (.ofBytes [32, 9])
  have read : CharUnit.narrow.charset (Environment.trimmed ⟨Config.default, "linux"⟩ .null) =
      .ok [32, 9, 10, 13, 11, 12] := by decide
  have lasts : (Environment.trimmed ⟨Config.default, "linux"⟩ .null).Lasts := rfl
  refine ⟨valid, valid', read, lasts, ?_, ?_⟩
  · obtain ⟨-, composed⟩ := valid.trim_maximal ⟨Config.default, "linux"⟩ read
    obtain ⟨front, back, rest, rest', trimmed, -, -, -, -, -, settles⟩ := composed lasts
    obtain ⟨again, trimmed', covers⟩ := settles ⟨Config.default, "linux"⟩ (.bytes [32]) [32]
      rfl rfl (by decide)
    refine ⟨rest, again, trimmed, ?_, trimmed', covers⟩
    cases trimmed
    decide
  · obtain ⟨strips, -⟩ := valid'.trim_maximal ⟨Config.default, "linux"⟩ read
    obtain ⟨rest, trimmed, stripped, emptied⟩ := strips .back (by intro same; cases same)
    exact ⟨rest, trimmed, stripped, emptied (by decide)⟩

end Stream

namespace Session

/-- A stream, and a walk over the units of another one. -/
def spacesHeld : List Step :=
  [.act (.create [.value (.bytes [32, 97, 32])]) (some "s"),
    .act (.create [.value (.bytes [32])]) (some "o"), .act (.walk "o") (some "w")]

/-- A walk is at its end when the back is trimmed, so what it gives is trimmed off the front
alone. -/
theorem walk_trims_front :
    let session := ((start "linux").run spacesHeld).1
    let trimmed := (session.act (.call "s" .trim [.register "w"]) none).1
    ∃ whole walk rest, session.streamOf? 0 = some whole ∧
      session.evalMany [.register "w"] = .ok [walk] ∧ whole.unit.charset walk = .ok [32] ∧
      trimmed.streamOf? 0 = some rest ∧ rest.content = [97, 32] ∧
      ¬whole.Stripped .both [32] rest := by
  refine ⟨_, _, _, rfl, rfl, rfl, rfl, by decide, ?_⟩
  intro stripped
  exact stripped.back 32 (by decide) (by decide)

end Session

end TextScan
