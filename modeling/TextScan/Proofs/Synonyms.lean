import TextScan.Proofs.Stops
import TextScan.Proofs.Trimming

/-! Synonyms: requests to take from the front that are spelled differently and mean one thing. Each
of them stops at the first unit of some kind, so all that is shown of a spelling is which units
those are. -/

namespace TextScan

open Scan

/-- Each character of a text takes just one unit. -/
def CharUnit.Single (unit : CharUnit) (chars : Text) : Prop :=
  ∀ point ∈ chars, ∃ code, unit.encode? [point] = some [code]

namespace Text

/-- The numbers of the characters, which is what tests compare. -/
def numbers (chars : Text) : List Int := chars.codes.map Int.ofNat

/-- The members of a set of characters, in any order. -/
def Among (chars : Text) (members : List Value) : Prop :=
  ∀ member, member ∈ members ↔ ∃ point ∈ chars, member = .text [point]

/-- A value that gives the characters of a text: the text itself, or the set of them. -/
def GivenBy (chars : Text) : Value → Prop
  | .text text => text = chars
  | .set members => chars.Among members
  | .frozenSet members => chars.Among members
  | _ => False

theorem mem_numbers {chars : Text} {code : Nat} :
    (code : Int) ∈ chars.numbers ↔ code ∈ chars.codes := by
  rw [numbers, List.mem_map]
  constructor
  · rintro ⟨other, member, same⟩
    cases Int.ofNat.inj same
    exact member
  · intro member
    exact ⟨code, member, rfl⟩

theorem numbers_one (point : CodePoint) (code : Nat) :
    (numbers [point]).contains (code : Int) = (code == point.val) := by
  rw [Bool.eq_iff_iff, List.contains_iff_mem, mem_numbers, beq_iff_eq]
  exact List.mem_singleton

end Text

namespace CharUnit

variable {unit : CharUnit} {chars : Text} {point : CodePoint} {code : Nat}

theorem encode?_one (one : unit.encode? [point] = some [code]) :
    unit.spell point = [point.val] ∧ (!unit.isText && point.isSurrogate) = false := by
  unfold encode? at one
  split at one
  · cases one
  · rename_i plain
    have spelled : unit.spell point = [code] := by simpa [encode] using one
    refine ⟨?_, by simpa [Text.hasSurrogate] using plain⟩
    -- a character that needs more than one unit has been spelled with too many
    cases unit with
    | wide => rfl
    | utf32 => rfl
    | narrow =>
      unfold spell TextScan.utf8 at spelled ⊢
      dsimp only at spelled ⊢
      split at spelled
      · rename_i small
        rw [if_pos small]
      · split at spelled
        · cases spelled
        · split at spelled
          · cases spelled
          · cases spelled
    | utf16 =>
      unfold spell TextScan.utf16 at spelled ⊢
      dsimp only at spelled ⊢
      split at spelled
      · rename_i small
        rw [if_pos small]
      · cases spelled

theorem Single.encode?_codes (single : unit.Single chars) :
    unit.encode? chars = some chars.codes := by
  have each (point : CodePoint) (member : point ∈ chars) :
      unit.spell point = [point.val] ∧ (!unit.isText && point.isSurrogate) = false := by
    obtain ⟨code, one⟩ := single point member
    exact encode?_one one
  have plain : (!unit.isText && chars.hasSurrogate) = false := by
    rw [Text.hasSurrogate, Bool.eq_false_iff]
    intro both
    obtain ⟨number, found⟩ := (Bool.and_eq_true _ _).mp both
    obtain ⟨point, member, surrogate⟩ := List.any_eq_true.mp found
    have apart := (each point member).2
    rw [number, surrogate] at apart
    cases apart
  have spelled : unit.encode chars = chars.codes := by
    rw [encode, List.flatMap_congr fun point member => (each point member).1]
    exact List.map_eq_flatMap.symm
  rw [encode?, plain, spelled]
  rfl

theorem char_one (one : unit.encode? [point] = some [code]) :
    unit.char (.text [point]) = .ok point.val := by
  have single : unit.Single [point] := by
    intro other member
    rw [List.mem_singleton.mp member]
    exact ⟨code, one⟩
  rw [char, text, literal, single.encode?_codes]
  rfl

theorem Single.mapM_char (single : unit.Single chars) {members : List Value}
    (each : ∀ member ∈ members, ∃ point ∈ chars, member = .text [point]) :
    ∃ codes, members.mapM unit.char = .ok codes ∧
      ∀ code, code ∈ codes ↔ ∃ point : CodePoint, .text [point] ∈ members ∧ point.val = code := by
  induction members with
  | nil => exact ⟨[], rfl, by simp⟩
  | cons member rest ih =>
    obtain ⟨point, among, rfl⟩ := each member List.mem_cons_self
    obtain ⟨codes, read, listed⟩ := ih fun other later => each other (List.mem_cons_of_mem _ later)
    obtain ⟨own, one⟩ := single point among
    refine ⟨point.val :: codes, ?_, ?_⟩
    · rw [List.mapM_cons, char_one one, read]
      rfl
    · intro code
      rw [List.mem_cons, listed]
      constructor
      · rintro (rfl | ⟨other, later, rfl⟩)
        · exact ⟨point, List.mem_cons_self, rfl⟩
        · exact ⟨other, List.mem_cons_of_mem _ later, rfl⟩
      · rintro ⟨other, member, rfl⟩
        rcases List.mem_cons.mp member with same | later
        · cases same
          exact .inl rfl
        · exact .inr ⟨other, later, rfl⟩

/-- Characters that take one unit each are read as those units, however they are given. -/
theorem Single.charset_given (single : unit.Single chars) {value : Value}
    (given : chars.GivenBy value) :
    ∃ codes, unit.charset value = .ok codes ∧
      ∀ code : Nat, codes.contains code = chars.numbers.contains (code : Int) := by
  have same {codes : List Nat} (listed : ∀ code, code ∈ codes ↔ code ∈ chars.codes) (code : Nat) :
      codes.contains code = chars.numbers.contains (code : Int) := by
    rw [Bool.eq_iff_iff, List.contains_iff_mem, List.contains_iff_mem, listed, Text.mem_numbers]
  have among {members : List Value} (all : chars.Among members) :
      ∃ codes, members.mapM unit.char = .ok codes ∧
        ∀ code : Nat, codes.contains code = chars.numbers.contains (code : Int) := by
    obtain ⟨codes, read, listed⟩ := single.mapM_char fun member found => (all member).mp found
    refine ⟨codes, read, same fun code => ?_⟩
    rw [listed, Text.codes, List.mem_map]
    constructor
    · rintro ⟨point, found, own⟩
      obtain ⟨other, inside, equal⟩ := (all _).mp found
      cases equal
      exact ⟨point, inside, own⟩
    · rintro ⟨point, inside, own⟩
      exact ⟨point, (all _).mpr ⟨point, inside, rfl⟩, own⟩
  cases value with
  | text text =>
    cases given
    refine ⟨chars.codes, ?_, same fun code => Iff.rfl⟩
    change unit.literal chars = _
    rw [literal, single.encode?_codes]
  | set members => exact among given
  | frozenSet members => exact among given
  | _ => cases given

/-- The units of a set are sought as any one of them. -/
theorem sought_set {target : Value} {codes : List Nat} (read : unit.charset target = .ok codes) :
    unit.sought true target = .ok (.unit codes.contains) := by
  rw [sought, read]
  rfl

end CharUnit

namespace Stream

variable {whole : Stream} {stopping : Stopping} {target : Value} {test : Nat → Bool}

/-- A search for a unit that passes a test, or a run of such units, stops at the first unit that
is wanted. -/
theorem Valid.stop?_unit (valid : whole.Valid)
    (read : whole.unit.sought stopping.anyOf target = .ok (.unit test)) :
    whole.stop? stopping target =
      .ok ((Scan.findWhere? (fun code => test code != stopping.whileMatching)
        whole.content).map (whole.start + ·)) := by
  rw [valid.stop?_sought read]
  cases stopping.whileMatching with
  | true => simp [Sought.behind?]
  | false => simp [Sought.find?]

theorem Valid.stop?_one (valid : whole.Valid) {code : Nat}
    (read : whole.unit.sought stopping.anyOf target = .ok (.text [code])) :
    whole.stop? stopping target =
      .ok ((Scan.findWhere? (fun other => (other == code) != stopping.whileMatching)
        whole.content).map (whole.start + ·)) := by
  rw [valid.stop?_sought read]
  cases stopping.whileMatching with
  | true => simp [Sought.behind?, afterRepeats?, bne]
  | false => simp [Sought.find?, find?_single]

/-- Some requests, each a way to stop and a target, are all answered with one view, and leave one
window. -/
def SameTaken (environment : Environment) (whole : Stream) (requests : List (Stopping × Value)) :
    Prop :=
  ∃ taken rest, ∀ request ∈ requests,
    whole.perform environment (.takeTo request.1 request.2) = .ok (.value (.stream taken), rest)

/-- Requests that stop at the first unit of a kind are answered alike, if where there is none they
all take nothing or all take everything. -/
theorem Valid.sameTaken (valid : whole.Valid) (environment : Environment) (wanted : Nat → Bool)
    (orEmpty : Bool) {requests : List (Stopping × Value)}
    (each : ∀ request ∈ requests, request.1.orEmpty = orEmpty ∧
      whole.stop? request.1 request.2 =
        .ok ((Scan.findWhere? wanted whole.content).map (whole.start + ·))) :
    whole.SameTaken environment requests := by
  have inside (offset : Nat) (found : Scan.findWhere? wanted whole.content = some offset) :
      offset ≤ whole.content.length := Nat.le_of_lt (findWhere?_lt found)
  obtain ⟨⟨taken, rest⟩, cut, -⟩ := valid.takeTo_agrees environment inside orEmpty
  refine ⟨taken, rest, ?_⟩
  intro request member
  obtain ⟨same, stop⟩ := each request member
  rw [perform, stop, same]
  dsimp only [bind, Except.bind]
  rw [cut]
  rfl

theorem On.covers {span : Span} {window window' : Stream} (on : whole.On span window)
    (on' : whole.On span window') : window.Covers ⟨window.start, window.stop⟩ window' :=
  ⟨on'.buffer.trans on.buffer.symm, on'.start.trans on.start.symm, on'.stop.trans on.stop.symm⟩

/-- To drop the characters of a set from the front, and to trim them there, leaves one window. -/
theorem Valid.dropWhile_trimFront (valid : whole.Valid) (environment : Environment)
    {codes : List Nat} (given : environment.trimmed target = target)
    (read : whole.unit.charset target = .ok codes) :
    ∃ dropped trimmed,
      whole.perform environment (.dropTo ⟨true, true, false⟩ target) = .ok (.itself, dropped) ∧
      whole.perform environment (.trimFront target) = .ok (.itself, trimmed) ∧
      dropped.Covers ⟨dropped.start, dropped.stop⟩ trimmed := by
  have stop : whole.stop? ⟨true, true, false⟩ target =
      .ok ((Scan.findWhere? (fun code => !codes.contains code) whole.content).map
        (whole.start + ·)) := by
    refine (valid.stop?_unit (CharUnit.sought_set read)).trans ?_
    simp only [Bool.bne_true]
  obtain ⟨trimmed, trim, on'⟩ := valid.trimFront_on codes.contains
  have inside (offset : Nat)
      (found : Scan.findWhere? (fun code => !codes.contains code) whole.content = some offset) :
      offset ≤ whole.content.length := Nat.le_of_lt (findWhere?_lt found)
  obtain ⟨⟨taken, dropped⟩, cut, -, on⟩ := valid.takeTo_agrees environment inside false
  have span : (Content.takeTo whole.content
      (Scan.findWhere? (fun code => !codes.contains code) whole.content) false).2 =
        ⟨Content.trimFront whole.content codes.contains, whole.content.length⟩ := by
    unfold Content.trimFront
    cases Scan.findWhere? (fun code => !codes.contains code) whole.content with
    | none => rfl
    | some offset => rfl
  rw [span] at on
  refine ⟨dropped, trimmed, ?_, ?_, on.covers on'⟩
  · rw [perform, stop]
    dsimp only [bind, Except.bind]
    rw [cut]
    rfl
  · rw [← given] at read
    exact perform_trimFront read trim

/-- Characters of one unit each stop where a test for them does. -/
theorem Valid.stop?_given (valid : whole.Valid) {chars : Text} (single : whole.unit.Single chars)
    (given : chars.GivenBy target) (whileMatching orEmpty : Bool) :
    whole.stop? ⟨whileMatching, true, orEmpty⟩ target =
      .ok ((Scan.findWhere?
        (fun (code : Nat) => chars.numbers.contains (code : Int) != whileMatching)
        whole.content).map (whole.start + ·)) := by
  obtain ⟨codes, read, same⟩ := single.charset_given given
  refine (valid.stop?_unit (CharUnit.sought_set read)).trans ?_
  simp only [same]

/-- Different ways to ask for one stop are answered alike. A run of what passes a test ends where
a search for what fails it does; characters of one unit each may be given as a text, as a set or as
a test for them or for all others; and a single one may be given as a text to be found whole. To
drop characters from the front is to trim them there. -/
theorem Valid.synonyms_agree (valid : whole.Valid) (environment : Environment) :
    (∀ (test : CharTest Value) (whileMatching orEmpty : Bool), whole.SameTaken environment
      [(⟨whileMatching, false, orEmpty⟩, .function test),
        (⟨!whileMatching, false, orEmpty⟩, .function (.negate test))]) ∧
    (∀ answer : Nat → Value, ∃ test : CharTest Value, ∀ code ≤ whole.unit.maxValue,
      test.holds Value.truth code = (answer code).truth) ∧
    (∀ (chars : Text) (given : Value), whole.unit.Single chars → chars.GivenBy given →
      (∀ whileMatching orEmpty : Bool, whole.SameTaken environment
        [(⟨whileMatching, true, orEmpty⟩, .text chars), (⟨whileMatching, true, orEmpty⟩, given),
          (⟨whileMatching, false, orEmpty⟩, .function (.oneOf chars.numbers)),
          (⟨!whileMatching, false, orEmpty⟩, .function (.noneOf chars.numbers))]) ∧
      ∃ dropped trimmed,
        whole.perform environment (.dropTo ⟨true, true, false⟩ given) = .ok (.itself, dropped) ∧
        whole.perform environment (.trimFront given) = .ok (.itself, trimmed) ∧
        dropped.Covers ⟨dropped.start, dropped.stop⟩ trimmed) ∧
    ∀ (point : CodePoint) (given : Value), whole.unit.Single [point] → Text.GivenBy [point] given →
      ∀ whileMatching orEmpty : Bool, whole.SameTaken environment
        [(⟨whileMatching, false, orEmpty⟩, .text [point]),
          (⟨whileMatching, true, orEmpty⟩, given)] := by
  refine ⟨?_, ?_, ?_, ?_⟩
  · intro test whileMatching orEmpty
    apply valid.sameTaken environment
      (fun code => test.holds Value.truth code != whileMatching) orEmpty
    simp only [List.forall_mem_cons, true_and]
    refine ⟨valid.stop?_unit rfl, ?_, List.forall_mem_nil _⟩
    refine (valid.stop?_unit rfl).trans ?_
    simp [CharTest.holds]
  · intro answer
    obtain ⟨test, same⟩ := CharTest.exists_holds_eq Value.truth (whole.unit.maxValue + 1)
      fun code => (answer code).truth
    exact ⟨test, fun code bound => same code (Nat.lt_succ_of_le bound)⟩
  · intro chars given single gives
    refine ⟨?_, ?_⟩
    · intro whileMatching orEmpty
      apply valid.sameTaken environment
        (fun code => chars.numbers.contains (code : Int) != whileMatching) orEmpty
      have itself : chars.GivenBy (.text chars) := rfl
      simp only [List.forall_mem_cons, true_and]
      refine ⟨valid.stop?_given single itself _ _, valid.stop?_given single gives _ _,
        valid.stop?_unit rfl, ?_, List.forall_mem_nil _⟩
      refine (valid.stop?_unit rfl).trans ?_
      simp [CharTest.holds]
    · obtain ⟨codes, read, -⟩ := single.charset_given gives
      refine valid.dropWhile_trimFront environment ?_ read
      cases given with
      | null => cases gives
      | _ => rfl
  · intro point given single gives whileMatching orEmpty
    apply valid.sameTaken environment (fun code => (code == point.val) != whileMatching) orEmpty
    simp only [List.forall_mem_cons, true_and]
    refine ⟨valid.stop?_one ?_, ?_, List.forall_mem_nil _⟩
    · rw [CharUnit.sought, if_neg Bool.false_ne_true]
      show Except.map Sought.text (whole.unit.literal [point]) = _
      rw [CharUnit.literal, single.encode?_codes]
      rfl
    · refine (valid.stop?_given single gives _ _).trans ?_
      simp only [Text.numbers_one]

/-- Separators at the front, asked for in four ways. -/
def separatorRequests : List (Stopping × Value) :=
  let separators := Text.ofCodes [44, 59]
  [(⟨true, true, false⟩, .text separators),
    (⟨true, true, false⟩, .set [.text (Text.ofCodes [59]), .text (Text.ofCodes [44])]),
    (⟨true, false, false⟩, .function (.oneOf separators.numbers)),
    (⟨false, false, false⟩, .function (.noneOf separators.numbers))]

/-- A semicolon and a comma are taken off the front of `;,a`, whichever way they are asked for. -/
theorem synonyms_agree_separators :
    let whole := ofBuffer (.ofBytes [59, 44, 97])
    let separators := Text.ofCodes [44, 59]
    let members : Value := .set [.text (Text.ofCodes [59]), .text (Text.ofCodes [44])]
    whole.Valid ∧ whole.unit.Single separators ∧ separators.GivenBy members ∧
      ∃ taken rest, taken.content = [59, 44] ∧ rest.content = [97] ∧
        ∀ request ∈ separatorRequests,
          whole.perform ⟨Config.default, "linux"⟩ (.takeTo request.1 request.2) =
            .ok (.value (.stream taken), rest) := by
  have valid := ofBuffer_valid (.ofBytes [59, 44, 97])
  have single : (ofBuffer (.ofBytes [59, 44, 97])).unit.Single (Text.ofCodes [44, 59]) := by
    intro point member
    rcases List.mem_cons.mp member with rfl | later
    · exact ⟨44, rfl⟩
    · rw [List.mem_singleton.mp later]
      exact ⟨59, rfl⟩
  have given : (Text.ofCodes [44, 59]).GivenBy
      (.set [.text (Text.ofCodes [59]), .text (Text.ofCodes [44])]) := by
    intro member
    constructor
    · intro listed
      rcases List.mem_cons.mp listed with rfl | later
      · exact ⟨CodePoint.ofNat 59, by decide, rfl⟩
      · rw [List.mem_singleton.mp later]
        exact ⟨CodePoint.ofNat 44, by decide, rfl⟩
    · rintro ⟨point, among, rfl⟩
      rcases List.mem_cons.mp among with rfl | later
      · exact List.mem_cons_of_mem _ List.mem_cons_self
      · rw [List.mem_singleton.mp later]
        exact List.mem_cons_self
  refine ⟨valid, single, given, ?_⟩
  obtain ⟨-, -, synonyms, -⟩ := valid.synonyms_agree ⟨Config.default, "linux"⟩
  obtain ⟨taken, rest, same⟩ := (synonyms _ _ single given).1 true false
  have first := same _ List.mem_cons_self
  cases first
  exact ⟨_, _, by decide, by decide, same⟩

end Stream

end TextScan
