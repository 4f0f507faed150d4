import Mathlib.Data.List.Induction
import Mathlib.Order.Bounds.Basic
import TextScan.Proofs.Scan

namespace TextScan.Scan

def Occurs (needle content : List Nat) (offset : Nat) : Prop :=
  offset ≤ content.length ∧ needle <+: content.drop offset

/-- What is sought in some content: a text as a whole, or a unit that passes a test. -/
inductive Sought where
  | text (needle : List Nat)
  | unit (test : Nat → Bool)

namespace Sought

def At (content : List Nat) (offset : Nat) : Sought → Prop
  | text needle => Occurs needle content offset
  | unit test => ∃ code, content[offset]? = some code ∧ test code = true

/-- The first units of some content, as many as `size`, are made of what is sought: of whole
repetitions of a text, or of units that pass the test. -/
def Fills (content : List Nat) (size : Nat) : Sought → Prop
  | text needle => ∃ count, size = count * needle.length ∧
      (List.replicate count needle).flatten <+: content
  | unit test => size ≤ content.length ∧ ∀ code ∈ content.take size, test code = true

def find? (content : List Nat) : Sought → Option Nat
  | text needle => Scan.find? needle content
  | unit test => findWhere? test content

/-- The offset behind what is sought at the front, if it is a stop. -/
def behind? (content : List Nat) : Sought → Option Nat
  | text needle => afterRepeats? needle content
  | unit test => findWhere? (fun code => !test code) content

end Sought

section Texts

variable {needle content rest : List Nat} {code offset : Nat}

theorem occurs_zero : Occurs needle content 0 ↔ needle <+: content := by
  simp [Occurs]

theorem occurs_succ : Occurs needle (code :: rest) (offset + 1) ↔ Occurs needle rest offset := by
  simp [Occurs]

theorem Occurs.fits (stands : Occurs needle content offset) :
    offset + needle.length ≤ content.length := by
  have bound := stands.2.length_le
  rw [List.length_drop] at bound
  have inside := stands.1
  omega

theorem Occurs.taken (stands : Occurs needle content offset) :
    (content.drop offset).take needle.length = needle :=
  (List.prefix_iff_eq_take.mp stands.2).symm

/-- What stands in the front of some content stands in all of it. -/
theorem Occurs.longer {longer : List Nat} (stands : Occurs needle content offset)
    (more : content <+: longer) : Occurs needle longer offset := by
  refine ⟨Nat.le_trans stands.1 more.length_le, ?_⟩
  obtain ⟨behind, rfl⟩ := more
  rw [List.drop_append_of_le_length stands.1]
  exact stands.2.trans (List.prefix_append _ behind)

theorem infix_iff_occurs : needle <:+: content ↔ ∃ offset, Occurs needle content offset := by
  constructor
  · rintro ⟨before, behind, rfl⟩
    refine ⟨before.length, by simp, ?_⟩
    rw [List.append_assoc, List.drop_left]
    exact List.prefix_append needle behind
  · rintro ⟨offset, -, stands⟩
    exact stands.isInfix.trans (List.drop_suffix offset content).isInfix

theorem find?_least (found : find? needle content = some offset) :
    IsLeast { offset | Occurs needle content offset } offset := by
  refine ⟨⟨find?_le found, find?_starts found⟩, ?_⟩
  intro earlier stands
  induction content generalizing offset earlier with
  | nil =>
    have inside := find?_le found
    exact Nat.le_trans inside (Nat.zero_le _)
  | cons code rest later =>
    rw [find?_cons] at found
    split at found
    · cases found
      exact Nat.zero_le _
    · rename_i apart
      obtain ⟨behind, inRest, rfl⟩ := Option.map_eq_some_iff.mp found
      cases earlier with
      | zero => exact absurd (List.isPrefixOf_iff_prefix.mpr (occurs_zero.mp stands)) apart
      | succ earlier => exact Nat.succ_le_succ (later inRest (occurs_succ.mp stands))

theorem find?_absent (absent : find? needle content = none) (offset : Nat) :
    ¬Occurs needle content offset := by
  intro stands
  induction content generalizing offset with
  | nil =>
    have bound := stands.fits
    rw [List.length_nil, Nat.le_zero, Nat.add_eq_zero_iff] at bound
    rw [List.length_eq_zero_iff.mp bound.2, find?_nil_left] at absent
    cases absent
  | cons code rest later =>
    rw [find?_cons] at absent
    split at absent
    · cases absent
    · rename_i apart
      cases offset with
      | zero => exact apart (List.isPrefixOf_iff_prefix.mpr (occurs_zero.mp stands))
      | succ offset =>
        exact later (Option.map_eq_none_iff.mp absent) offset (occurs_succ.mp stands)

end Texts

section Runs

variable {needle content : List Nat}

theorem append_prefix_iff {more : List Nat} :
    needle ++ more <+: content ↔ needle <+: content ∧ more <+: content.drop needle.length := by
  constructor
  · rintro ⟨behind, rfl⟩
    rw [List.append_assoc, List.drop_left]
    exact ⟨List.prefix_append _ _, List.prefix_append _ _⟩
  · rintro ⟨⟨behind, rfl⟩, starts⟩
    rw [List.drop_left] at starts
    exact (List.prefix_append_right_inj needle).mpr starts

/-- The run of whole repetitions at the front is the longest of all. -/
theorem runLength_greatest (needle content : List Nat) :
    IsGreatest { size | (Sought.text needle).Fills content size } (runLength needle content) := by
  fun_induction runLength needle content with
  | case1 content repeated later =>
    obtain ⟨some, starts⟩ := repeated
    obtain ⟨⟨count, size, run⟩, most⟩ := later
    refine ⟨⟨count + 1, ?_, ?_⟩, ?_⟩
    · rw [size, Nat.add_mul, Nat.one_mul, Nat.add_comm]
    · rw [List.replicate_succ, List.flatten_cons]
      exact append_prefix_iff.mpr ⟨starts, run⟩
    · rintro _ ⟨count, rfl, run⟩
      cases count with
      | zero => simp
      | succ count =>
        rw [List.replicate_succ, List.flatten_cons] at run
        have fewer := most ⟨count, rfl, (append_prefix_iff.mp run).2⟩
        rw [Nat.add_mul, Nat.one_mul]
        omega
  | case2 content ended =>
    refine ⟨⟨0, by simp, by simp⟩, ?_⟩
    rintro _ ⟨count, rfl, run⟩
    cases count with
    | zero => simp
    | succ count =>
      rw [List.replicate_succ, List.flatten_cons] at run
      have none : needle = [] := by
        by_contra some
        exact ended ⟨some, (append_prefix_iff.mp run).1⟩
      simp [none]

theorem find?_single (code : Nat) (content : List Nat) :
    find? [code] content = findWhere? (· == code) content := by
  induction content with
  | nil => rfl
  | cons first rest later =>
    rw [find?_cons, findWhere?_cons, later]
    by_cases same : first = code
    · simp [same]
    · simp [same, Ne.symm same]

theorem runLength_single (code : Nat) (content : List Nat) :
    runLength [code] content = (findWhere? (· != code) content).getD content.length := by
  induction content with
  | nil => exact runLength_stop (by simp)
  | cons first rest later =>
    rw [findWhere?_cons]
    by_cases same : first = code
    · subst same
      rw [runLength_step (by simp) (by simp), if_neg (by simp)]
      simp only [List.length_singleton, List.drop_succ_cons, List.drop_zero, later]
      cases findWhere? (· != first) rest with
      | none => simp [Nat.add_comm]
      | some offset => simp [Nat.add_comm]
    · rw [runLength_stop (by simp [List.cons_prefix_cons, Ne.symm same]),
        if_pos (by simpa using same)]
      rfl

theorem afterRepeats?_run (needle content : List Nat) :
    (afterRepeats? needle content).getD content.length = runLength needle content := by
  unfold afterRepeats?
  split
  · exact (runLength_single _ content).symm
  · dsimp only
    split
    · rename_i full
      exact full.1.symm
    · rfl

/-- Where repetitions of a text fill the content there is no stop, unless both are empty. -/
theorem afterRepeats?_full {size : Nat} (stop : afterRepeats? needle content = some size)
    (full : size = content.length) : content = [] := by
  unfold afterRepeats? at stop
  split at stop
  · exact absurd (findWhere?_lt stop) (Nat.not_lt.mpr (Nat.le_of_eq full.symm))
  · dsimp only at stop
    split at stop
    · cases stop
    · rename_i short
      cases stop
      by_cases none : needle = []
      · rw [none, runLength_nil] at full
        exact List.length_eq_zero_iff.mp full.symm
      · exact absurd ⟨full, none⟩ short

end Runs

section Units

variable {test : Nat → Bool} {content : List Nat} {offset : Nat}

theorem findWhere?_least (found : findWhere? test content = some offset) :
    IsLeast { offset | (Sought.unit test).At content offset } offset := by
  obtain ⟨inside, passes, before⟩ := List.findIdx?_eq_some_iff_getElem.mp found
  refine ⟨⟨content[offset], List.getElem?_eq_getElem inside, passes⟩, ?_⟩
  rintro earlier ⟨code, there, passed⟩
  by_contra less
  obtain ⟨inside, rfl⟩ := List.getElem?_eq_some_iff.mp there
  exact before earlier (Nat.lt_of_not_le less) passed

theorem findWhere?_absent (absent : findWhere? test content = none) (offset : Nat) :
    ¬(Sought.unit test).At content offset := by
  rintro ⟨code, there, passed⟩
  have failed := List.findIdx?_eq_none_iff.mp absent code (List.mem_of_getElem? there)
  exact Bool.eq_false_iff.mp failed passed

theorem findLast?_greatest (found : findLast? test content = some offset) :
    IsGreatest { offset | (Sought.unit test).At content offset } offset := by
  induction content using List.reverseRecOn generalizing offset with
  | nil => cases found
  | append_singleton content code ih =>
    rw [findLast?_append] at found
    by_cases passed : test code = true
    · rw [if_pos passed] at found
      cases found
      refine ⟨⟨code, List.getElem?_concat_length, passed⟩, ?_⟩
      rintro place ⟨other, there, -⟩
      have inside := (List.getElem?_eq_some_iff.mp there).1
      rw [List.length_append, List.length_singleton] at inside
      exact Nat.le_of_lt_succ inside
    · rw [if_neg passed] at found
      obtain ⟨⟨held, there, last⟩, most⟩ := ih found
      have inside := (List.getElem?_eq_some_iff.mp there).1
      refine ⟨⟨held, (List.getElem?_append_left inside).trans there, last⟩, ?_⟩
      rintro place ⟨other, there', passed'⟩
      rw [List.getElem?_append] at there'
      split at there'
      · exact most ⟨other, there', passed'⟩
      · cases List.mem_singleton.mp (List.mem_of_getElem? there')
        exact absurd passed' passed

theorem findLast?_absent (absent : findLast? test content = none) (offset : Nat) :
    ¬(Sought.unit test).At content offset := by
  rintro ⟨code, there, passed⟩
  have missing := List.findIdx?_eq_none_iff.mp (Option.map_eq_none_iff.mp absent)
  have failed := missing code (List.mem_reverse.mpr (List.mem_of_getElem? there))
  exact Bool.eq_false_iff.mp failed passed

/-- The units before the first one that fails a test are the longest run that passes it. -/
theorem findWhere?_greatest (test : Nat → Bool) (content : List Nat) :
    IsGreatest { size | (Sought.unit test).Fills content size }
      ((findWhere? (fun code => !test code) content).getD content.length) := by
  induction content with
  | nil => exact ⟨⟨Nat.le_refl _, by simp⟩, fun size fills => fills.1⟩
  | cons code rest later =>
    obtain ⟨⟨inside, passes⟩, most⟩ := later
    rw [findWhere?_cons]
    by_cases passed : test code = true
    · have size : (((findWhere? (fun code => !test code) rest).map (· + 1)).getD
          (rest.length + 1)) = (findWhere? (fun code => !test code) rest).getD rest.length + 1 := by
        cases findWhere? (fun code => !test code) rest with
        | none => rfl
        | some offset => rfl
      rw [if_neg (by simpa using passed), List.length_cons, size]
      refine ⟨⟨Nat.succ_le_succ inside, ?_⟩, ?_⟩
      · rw [List.take_succ_cons]
        exact List.forall_mem_cons.mpr ⟨passed, passes⟩
      · rintro size ⟨bound, all⟩
        cases size with
        | zero => exact Nat.zero_le _
        | succ size =>
          rw [List.take_succ_cons] at all
          exact Nat.succ_le_succ
            (most ⟨Nat.le_of_succ_le_succ bound, (List.forall_mem_cons.mp all).2⟩)
    · rw [if_pos (by simpa using passed)]
      refine ⟨⟨Nat.zero_le _, by simp⟩, ?_⟩
      rintro size ⟨bound, all⟩
      cases size with
      | zero => exact Nat.le_refl _
      | succ size =>
        rw [List.take_succ_cons] at all
        exact absurd (List.forall_mem_cons.mp all).1 passed

end Units

namespace Sought

variable {sought : Sought} {content : List Nat} {offset : Nat}

theorem find?_least (found : sought.find? content = some offset) :
    IsLeast { offset | sought.At content offset } offset := by
  cases sought with
  | text needle => exact Scan.find?_least found
  | unit test => exact findWhere?_least found

theorem find?_absent (absent : sought.find? content = none) (offset : Nat) :
    ¬sought.At content offset := by
  cases sought with
  | text needle => exact Scan.find?_absent absent offset
  | unit test => exact findWhere?_absent absent offset

theorem find?_le (found : sought.find? content = some offset) : offset ≤ content.length := by
  cases sought with
  | text needle => exact Scan.find?_le found
  | unit test => exact Nat.le_of_lt (findWhere?_lt found)

theorem behind?_greatest (sought : Sought) (content : List Nat) :
    IsGreatest { size | sought.Fills content size }
      ((sought.behind? content).getD content.length) := by
  cases sought with
  | text needle =>
    have run := runLength_greatest needle content
    rw [← afterRepeats?_run] at run
    exact run
  | unit test => exact findWhere?_greatest test content

theorem behind?_le (stop : sought.behind? content = some offset) : offset ≤ content.length := by
  cases sought with
  | text needle => exact afterRepeats?_le stop
  | unit test => exact Nat.le_of_lt (findWhere?_lt stop)

theorem behind?_full (stop : sought.behind? content = some offset)
    (full : offset = content.length) : content = [] := by
  cases sought with
  | text needle => exact afterRepeats?_full stop full
  | unit test => exact absurd (findWhere?_lt stop) (Nat.not_lt.mpr (Nat.le_of_eq full.symm))

/-- Behind the longest run of a text the text does not stand again. -/
theorem Fills.stops {needle : List Nat} (some : needle ≠ []) {size : Nat}
    (greatest : IsGreatest { size | (text needle).Fills content size } size) :
    ¬needle <+: content.drop size := by
  intro starts
  obtain ⟨⟨count, rfl, run⟩, most⟩ := greatest
  have length : (List.replicate count needle).flatten.length = count * needle.length := by simp
  have more : (text needle).Fills content ((count + 1) * needle.length) := by
    refine ⟨count + 1, rfl, ?_⟩
    rw [List.replicate_succ', List.flatten_append, List.flatten_singleton]
    exact append_prefix_iff.mpr ⟨run, length ▸ starts⟩
  have bound := most more
  have longer := List.length_pos_iff.mpr some
  rw [Nat.add_mul, Nat.one_mul] at bound
  omega

end Sought

end TextScan.Scan
