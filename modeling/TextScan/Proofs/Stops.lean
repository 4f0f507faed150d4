import TextScan.Proofs.Occurrence
import TextScan.Proofs.Refinement

namespace TextScan

open Scan

/-- What a target stands for in a unit: any of a set of characters, a unit that passes a test, or a
whole text. -/
def CharUnit.sought (unit : CharUnit) (anyOf : Bool) (target : Value) : Except UnitFault Sought :=
  if anyOf then (unit.charset target).map fun chars => .unit chars.contains
  else match target.test? with
    | some test => .ok (.unit fun code => test.holds Value.truth code)
    | none => (unit.text target).map .text

namespace Stream

variable {whole : Stream} {stopping : Stopping} {target : Value} {sought : Sought}

/-- A stop is where what is sought is found first, or behind the run of it at the front. -/
theorem Valid.stop?_sought (valid : whole.Valid)
    (read : whole.unit.sought stopping.anyOf target = .ok sought) :
    whole.stop? stopping target =
      .ok ((if stopping.whileMatching then sought.behind? whole.content
        else sought.find? whole.content).map (whole.start + ·)) := by
  have units (test : Nat → Bool) :
      whole.searched (whole.findWhere? fun code => test code != stopping.whileMatching) =
        .ok ((if stopping.whileMatching then (Sought.unit test).behind? whole.content
          else (Sought.unit test).find? whole.content).map (whole.start + ·)) := by
    rw [valid.findWhere?_eq]
    cases stopping.whileMatching with
    | true => simp [searched, Sought.behind?]
    | false => simp [searched, Sought.find?]
  unfold CharUnit.sought at read
  unfold stop?
  by_cases asSet : stopping.anyOf = true
  · rw [if_pos asSet] at read ⊢
    cases chars : whole.unit.charset target with
    | error fault =>
      rw [chars] at read
      cases read
    | ok codes =>
      rw [chars] at read
      cases read
      exact units codes.contains
  · rw [if_neg asSet] at read ⊢
    cases tested : target.test? with
    | some test =>
      rw [tested] at read
      cases read
      exact units _
    | none =>
      rw [tested] at read
      cases needle : whole.unit.text target with
      | error fault =>
        rw [needle] at read
        cases read
      | ok codes =>
        rw [needle] at read
        cases read
        simp only [coerce, Except.mapError, bind, Except.bind, valid.stopAfterRepeats?_eq,
          valid.findText?_eq codes valid.start_le_stop]
        cases stopping.whileMatching with
        | true => rfl
        | false => rfl

structure Cuts (whole : Stream) (size : Nat) (taken rest : Stream) : Prop where
  taken : whole.On ⟨0, size⟩ taken
  rest : whole.On ⟨size, whole.content.length⟩ rest

theorem Cuts.content {size : Nat} {taken rest : Stream} (cuts : whole.Cuts size taken rest)
    (valid : whole.Valid) :
    taken.content = whole.content.take size ∧ rest.content = whole.content.drop size := by
  constructor
  · rw [cuts.taken.content valid]
    simp
  · rw [cuts.rest.content valid, ← List.length_drop, List.take_length]

theorem Valid.perform_takeTo (valid : whole.Valid) (environment : Environment) (stopping : Stopping)
    (read : whole.unit.sought stopping.anyOf target = .ok sought) :
    ∃ taken rest, whole.perform environment (.takeTo stopping target) =
        .ok (.value (.stream taken), rest) ∧
      whole.Cuts (((if stopping.whileMatching then sought.behind? whole.content
        else sought.find? whole.content)).getD
          (if stopping.orEmpty then 0 else whole.content.length)) taken rest := by
  generalize stopped : (if stopping.whileMatching then sought.behind? whole.content
    else sought.find? whole.content) = stop
  have inside : ∀ offset, stop = some offset → offset ≤ whole.content.length := by
    rintro offset rfl
    cases loop : stopping.whileMatching with
    | true =>
      rw [loop] at stopped
      exact Sought.behind?_le stopped
    | false =>
      rw [loop] at stopped
      exact Sought.find?_le stopped
  obtain ⟨⟨taken, rest⟩, cut, on⟩ := valid.takeTo_agrees environment inside stopping.orEmpty
  refine ⟨taken, rest, ?_, ?_⟩
  · rw [perform, valid.stop?_sought read, stopped]
    dsimp only [bind, Except.bind]
    rw [cut]
    rfl
  · cases stop with
    | some offset => exact ⟨on.1, on.2⟩
    | none =>
      cases empty : stopping.orEmpty with
      | true =>
        rw [empty] at on
        exact ⟨on.1, on.2⟩
      | false =>
        rw [empty] at on
        exact ⟨on.1, on.2⟩

/-- What is taken until a target is all that stands before the first offset where the target
stands. Where it stands nowhere all is taken, or nothing by the forms that rather take nothing. -/
theorem Valid.takeUntil_first (valid : whole.Valid) (environment : Environment)
    (anyOf orEmpty : Bool) (read : whole.unit.sought anyOf target = .ok sought) :
    ∃ taken rest, whole.perform environment (.takeTo ⟨false, anyOf, orEmpty⟩ target) =
        .ok (.value (.stream taken), rest) ∧
      ((∃ place, IsLeast { offset | sought.At whole.content offset } place ∧
          whole.Cuts place taken rest) ∨
        (∀ offset, ¬sought.At whole.content offset) ∧
          whole.Cuts (if orEmpty then 0 else whole.content.length) taken rest) := by
  obtain ⟨taken, rest, performed, cuts⟩ :=
    valid.perform_takeTo environment ⟨false, anyOf, orEmpty⟩ read
  refine ⟨taken, rest, performed, ?_⟩
  change whole.Cuts ((sought.find? whole.content).getD _) taken rest at cuts
  cases found : sought.find? whole.content with
  | some place =>
    rw [found] at cuts
    exact .inl ⟨place, Sought.find?_least found, cuts⟩
  | none =>
    rw [found] at cuts
    exact .inr ⟨Sought.find?_absent found, cuts⟩

/-- The first of two commas is where a search for a comma stops. -/
theorem takeUntil_first_comma :
    let whole := ofBuffer (.ofBytes [97, 44, 98, 44])
    whole.Valid ∧ whole.unit.sought false (.bytes [44]) = .ok (.text [44]) ∧
      ∃ taken rest, whole.perform ⟨Config.default, "linux"⟩
          (.takeTo ⟨false, false, true⟩ (.bytes [44])) = .ok (.value (.stream taken), rest) ∧
        IsLeast { offset | Occurs [44] whole.content offset } 1 ∧ whole.Cuts 1 taken rest := by
  have valid := ofBuffer_valid (.ofBytes [97, 44, 98, 44])
  have read : (ofBuffer (.ofBytes [97, 44, 98, 44])).unit.sought false (.bytes [44]) =
      .ok (.text [44]) := rfl
  obtain ⟨taken, rest, performed, ⟨place, least, cuts⟩ | ⟨absent, -⟩⟩ :=
    valid.takeUntil_first ⟨Config.default, "linux"⟩ false true read
  · have place_eq : place = 1 := by
      cases performed
      have stop := cuts.taken.stop
      exact (Nat.zero_add place).symm.trans stop.symm
    subst place_eq
    exact ⟨valid, read, taken, rest, performed, least, cuts⟩
  · exact absurd ⟨by decide, by decide⟩ (absent 1)

/-- What is taken while a target goes on is the longest run of it at the front. The forms that
rather take nothing take nothing where that is all there is. -/
theorem Valid.takeWhile_longest (valid : whole.Valid) (environment : Environment)
    (anyOf orEmpty : Bool) (read : whole.unit.sought anyOf target = .ok sought) :
    ∃ size taken rest, IsGreatest { size | sought.Fills whole.content size } size ∧
      whole.perform environment (.takeTo ⟨true, anyOf, orEmpty⟩ target) =
        .ok (.value (.stream taken), rest) ∧
      whole.Cuts (if orEmpty = true ∧ size = whole.content.length then 0 else size) taken rest ∧
      ∀ needle, sought = .text needle → needle ≠ [] → ¬needle <+: whole.content.drop size := by
  obtain ⟨taken, rest, performed, cuts⟩ :=
    valid.perform_takeTo environment ⟨true, anyOf, orEmpty⟩ read
  have greatest := sought.behind?_greatest whole.content
  refine ⟨_, taken, rest, greatest, performed, ?_, ?_⟩
  · change whole.Cuts ((sought.behind? whole.content).getD _) taken rest at cuts
    cases stop : sought.behind? whole.content with
    | none =>
      rw [stop] at cuts
      cases orEmpty with
      | true => simpa using cuts
      | false => simpa using cuts
    | some size =>
      rw [stop] at cuts
      dsimp only [Option.getD_some] at cuts ⊢
      split
      · rename_i all
        -- a stop at the end of the content is one where nothing is
        have none := Sought.behind?_full stop all.2
        have zero : size = 0 := all.2.trans (congrArg List.length none)
        rw [zero] at cuts
        exact cuts
      · exact cuts
  · rintro needle rfl some
    exact Sought.Fills.stops some greatest

/-- One whole repetition is taken off three units that are alike, and the third one stays. -/
theorem takeWhile_longest_pair :
    let whole := ofBuffer (.ofBytes [97, 97, 97, 98])
    whole.Valid ∧ whole.unit.sought false (.bytes [97, 97]) = .ok (.text [97, 97]) ∧
      ∃ taken rest, IsGreatest { size | (Sought.text [97, 97]).Fills whole.content size } 2 ∧
        whole.perform ⟨Config.default, "linux"⟩ (.takeTo ⟨true, false, false⟩ (.bytes [97, 97])) =
          .ok (.value (.stream taken), rest) ∧ whole.Cuts 2 taken rest := by
  have valid := ofBuffer_valid (.ofBytes [97, 97, 97, 98])
  have read : (ofBuffer (.ofBytes [97, 97, 97, 98])).unit.sought false (.bytes [97, 97]) =
      .ok (.text [97, 97]) := rfl
  obtain ⟨size, taken, rest, greatest, performed, cuts, -⟩ :=
    valid.takeWhile_longest ⟨Config.default, "linux"⟩ false false read
  rw [if_neg (by simp)] at cuts
  have size_eq : size = 2 := by
    cases performed
    have stop := cuts.taken.stop
    exact (Nat.zero_add size).symm.trans stop.symm
  subst size_eq
  exact ⟨valid, read, taken, rest, greatest, performed, cuts⟩

end Stream

end TextScan
