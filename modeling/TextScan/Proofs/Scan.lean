import TextScan.Scan

namespace TextScan.Scan

theorem find?_cons (needle : List Nat) (unit : Nat) (rest : List Nat) :
    find? needle (unit :: rest) =
      if needle.isPrefixOf (unit :: rest) then some 0
      else (find? needle rest).map (· + 1) := rfl

theorem find?_nil_left (content : List Nat) : find? [] content = some 0 := by
  cases content with
  | nil => rfl
  | cons unit rest => simp [find?_cons]

theorem find?_self (content : List Nat) : find? content content = some 0 := by
  cases content with
  | nil => rfl
  | cons unit rest =>
    rw [find?_cons]
    exact if_pos (List.isPrefixOf_iff_prefix.mpr List.prefix_rfl)

theorem find?_short {needle content : List Nat} (short : content.length < needle.length) :
    find? needle content = none := by
  induction content with
  | nil =>
    cases needle with
    | nil => simp at short
    | cons => rfl
  | cons unit rest ih =>
    have apart : needle.isPrefixOf (unit :: rest) = false := by
      apply Bool.eq_false_iff.mpr
      intro starts
      have bound := (List.isPrefixOf_iff_prefix.mp starts).length_le
      omega
    have shorter : rest.length < needle.length := by
      simp only [List.length_cons] at short
      omega
    simp [find?_cons, apart, ih shorter]

theorem findWhere?_cons (test : Nat → Bool) (unit : Nat) (rest : List Nat) :
    findWhere? test (unit :: rest) =
      if test unit then some 0 else (findWhere? test rest).map (· + 1) := by
  simp [findWhere?, List.findIdx?_cons]

theorem findLast?_append (test : Nat → Bool) (content : List Nat) (unit : Nat) :
    findLast? test (content ++ [unit]) =
      if test unit then some content.length else findLast? test content := by
  simp only [findLast?, List.reverse_append, List.reverse_singleton, List.singleton_append,
    List.findIdx?_cons, List.length_append, List.length_singleton]
  by_cases passed : test unit = true
  · simp [passed]
  · simp only [passed, Bool.false_eq_true, if_false, Option.map_map]
    congr 1
    funext offset
    simp only [Function.comp_apply]
    omega

theorem find?_starts {needle content : List Nat} {offset : Nat}
    (found : find? needle content = some offset) : needle <+: content.drop offset := by
  induction content generalizing offset with
  | nil =>
    cases needle with
    | nil => exact List.nil_prefix
    | cons => simp [find?] at found
  | cons unit rest ih =>
    rw [find?_cons] at found
    split at found
    · rename_i starts
      cases Option.some.inj found
      exact List.isPrefixOf_iff_prefix.mp starts
    · obtain ⟨later, inRest, rfl⟩ := Option.map_eq_some_iff.mp found
      exact ih inRest

theorem find?_le {needle content : List Nat} {offset : Nat}
    (found : find? needle content = some offset) : offset ≤ content.length := by
  induction content generalizing offset with
  | nil =>
    cases needle with
    | nil => simp_all [find?]
    | cons => simp [find?] at found
  | cons unit rest ih =>
    rw [find?_cons] at found
    split at found
    · cases Option.some.inj found
      exact Nat.zero_le _
    · obtain ⟨later, inRest, rfl⟩ := Option.map_eq_some_iff.mp found
      have bound := ih inRest
      simp only [List.length_cons]
      omega

theorem find?_fits {needle content : List Nat} {offset : Nat}
    (found : find? needle content = some offset) :
    offset + needle.length ≤ content.length := by
  have bound := (find?_starts found).length_le
  have inside := find?_le found
  rw [List.length_drop] at bound
  omega

theorem findWhere?_lt {test : Nat → Bool} {content : List Nat} {offset : Nat}
    (found : findWhere? test content = some offset) : offset < content.length :=
  (List.findIdx?_eq_some_iff_findIdx_eq.mp found).1

theorem findLast?_lt {test : Nat → Bool} {content : List Nat} {offset : Nat}
    (found : findLast? test content = some offset) : offset < content.length := by
  obtain ⟨behind, inBack, rfl⟩ := Option.map_eq_some_iff.mp found
  have bound := (List.findIdx?_eq_some_iff_findIdx_eq.mp inBack).1
  rw [List.length_reverse] at bound
  omega

/-- The number of units in the run of whole repetitions at the front. The empty needle
repeats over no units. -/
def runLength (needle content : List Nat) : Nat :=
  if _ : needle ≠ [] ∧ needle <+: content then
    needle.length + runLength needle (content.drop needle.length)
  else 0
termination_by content.length
decreasing_by
  rename_i repeated
  have some := List.length_pos_iff.mpr repeated.1
  have bound := repeated.2.length_le
  rw [List.length_drop]
  omega

theorem runLength_nil (content : List Nat) : runLength [] content = 0 := by
  rw [runLength]
  simp

theorem runLength_step {needle content : List Nat} (some : needle ≠ [])
    (starts : needle <+: content) :
    runLength needle content =
      needle.length + runLength needle (content.drop needle.length) := by
  rw [runLength, dif_pos ⟨some, starts⟩]

theorem runLength_stop {needle content : List Nat} (ends : ¬ needle <+: content) :
    runLength needle content = 0 := by
  rw [runLength, dif_neg fun repeated => ends repeated.2]

theorem runLength_le (needle content : List Nat) :
    runLength needle content ≤ content.length := by
  fun_induction runLength needle content with
  | case1 content repeated ih =>
    have bound := repeated.2.length_le
    rw [List.length_drop] at ih
    omega
  | case2 content ended => exact Nat.zero_le _

/-- Offsets from one to another. -/
structure Span where
  low : Nat
  high : Nat
deriving DecidableEq, Repr

/-- The spans between separators, leftmost first, of content that starts at an offset. -/
def spansFrom (separator : List Nat) (low : Nat) (content : List Nat) : List Span :=
  match _found : find? separator content with
  | none => [⟨low, low + content.length⟩]
  | some offset =>
    if _ : separator = [] then []
    else
      ⟨low, low + offset⟩ :: spansFrom separator (low + offset + separator.length)
        (content.drop (offset + separator.length))
termination_by content.length
decreasing_by
  rename_i nonempty
  have some := List.length_pos_iff.mpr nonempty
  have bound := find?_fits _found
  rw [List.length_drop]
  omega

/-- The spans of the lines. Empty content has none, and an empty separator makes each unit
a line. -/
def lineSpans (separator content : List Nat) : List Span :=
  if content.isEmpty then []
  else if separator.isEmpty then
    (List.range content.length).map fun offset => ⟨offset, offset + 1⟩
  else spansFrom separator 0 content

/-- The spans of the pieces of content that starts at an offset. An empty separator makes each
unit a piece. -/
def pieceSpans (separator : List Nat) (low : Nat) (content : List Nat) : List Span :=
  if separator.isEmpty then
    (List.range content.length).map fun offset => ⟨low + offset, low + offset + 1⟩
  else spansFrom separator low content

theorem lineSpans_eq (separator content : List Nat) :
    lineSpans separator content =
      if content.isEmpty then [] else pieceSpans separator 0 content := by
  simp only [lineSpans, pieceSpans, Nat.zero_add]

theorem spansFrom_none {separator content : List Nat} (low : Nat)
    (absent : find? separator content = none) :
    spansFrom separator low content = [⟨low, low + content.length⟩] := by
  rw [spansFrom]
  split
  · rfl
  · rename_i found
    rw [absent] at found
    cases found

theorem spansFrom_some {separator content : List Nat} {offset : Nat} (low : Nat)
    (nonempty : separator ≠ []) (found : find? separator content = some offset) :
    spansFrom separator low content =
      ⟨low, low + offset⟩ :: spansFrom separator (low + offset + separator.length)
        (content.drop (offset + separator.length)) := by
  rw [spansFrom]
  split
  · rename_i absent
    rw [absent] at found
    cases found
  · rename_i other same
    rw [same] at found
    cases Option.some.inj found
    rw [dif_neg nonempty]

/-- The offset after whole repetitions of a text, if it is a stop: a single unit, or a
longer text whose repetitions fill the content, leaves none. -/
def afterRepeats? (needle content : List Nat) : Option Nat :=
  match needle with
  | [code] => findWhere? (· != code) content
  | needle =>
    let run := runLength needle content
    if run = content.length ∧ needle ≠ [] then none else some run

/-- The number of units between a delimiter at the front and the next one. -/
def delimited? (delimiter content : List Nat) : Option Nat :=
  if delimiter ≠ [] ∧ delimiter <+: content then
    find? delimiter (content.drop delimiter.length)
  else none

/-- The number of units between the front unit, if it is one of a set, and the next of its
kind. -/
def enclosed? (delimiters content : List Nat) : Option Nat :=
  match content with
  | [] => none
  | opening :: rest =>
    if opening ∈ delimiters then findWhere? (· == opening) rest else none

theorem afterRepeats?_le {needle content : List Nat} {offset : Nat}
    (found : afterRepeats? needle content = some offset) : offset ≤ content.length := by
  unfold afterRepeats? at found
  split at found
  · exact Nat.le_of_lt (findWhere?_lt found)
  · simp only at found
    split at found
    · cases found
    · rw [← Option.some.inj found]
      exact runLength_le _ _

theorem delimited?_fits {delimiter content : List Nat} {size : Nat}
    (found : delimited? delimiter content = some size) :
    delimiter.length + size + delimiter.length ≤ content.length := by
  unfold delimited? at found
  split at found
  · rename_i opens
    have bound := find?_fits found
    have opening := opens.2.length_le
    rw [List.length_drop] at bound
    omega
  · cases found

theorem enclosed?_fits {delimiters content : List Nat} {size : Nat}
    (found : enclosed? delimiters content = some size) : size + 2 ≤ content.length := by
  unfold enclosed? at found
  split at found
  · cases found
  · split at found
    · have bound := findWhere?_lt found
      rw [List.length_cons]
      omega
    · cases found

end TextScan.Scan
