import TextScan.Proofs.Occurrence
import TextScan.Proofs.Refinement

namespace TextScan

namespace Scan

/-- Some content is a delimiter, what it encloses, the delimiter again and a rest; behind the
opening delimiter there is no earlier one than that which closes. -/
structure Delimits (delimiter content inner rest : List Nat) : Prop where
  nonempty : delimiter ≠ []
  joined : content = delimiter ++ inner ++ delimiter ++ rest
  first : IsLeast { offset | Occurs delimiter (content.drop delimiter.length) offset } inner.length

variable {delimiter content inner rest : List Nat} {code size : Nat}

theorem Delimits.behind (delimits : Delimits delimiter content inner rest) :
    content.drop delimiter.length = inner ++ delimiter ++ rest := by
  rw [delimits.joined, List.append_assoc, List.append_assoc, List.drop_left, List.append_assoc]

theorem Delimits.found (delimits : Delimits delimiter content inner rest) :
    delimited? delimiter content = some inner.length := by
  have opens : delimiter <+: content := by
    rw [delimits.joined, List.append_assoc, List.append_assoc]
    exact List.prefix_append _ _
  rw [delimited?, if_pos ⟨delimits.nonempty, opens⟩]
  cases closing : find? delimiter (content.drop delimiter.length) with
  | none => exact absurd delimits.first.1 (find?_absent closing _)
  | some offset => exact congrArg some ((find?_least closing).unique delimits.first)

theorem delimited?_sound (found : delimited? delimiter content = some size) :
    Delimits delimiter content ((content.drop delimiter.length).take size)
      (content.drop (delimiter.length + size + delimiter.length)) := by
  unfold delimited? at found
  split at found
  · rename_i opens
    obtain ⟨nonempty, behind, rfl⟩ := opens
    have least := find?_least found
    rw [List.drop_left] at least
    obtain ⟨inside, closing, closes⟩ := least.1
    have length : (behind.take size).length = size := List.length_take_of_le inside
    refine ⟨nonempty, ?_, ?_⟩
    · have left : (delimiter ++ behind).drop (delimiter.length + size + delimiter.length) =
          closing := by
        rw [Nat.add_assoc, ← List.drop_drop, List.drop_left, ← List.drop_drop, ← closes,
          List.drop_left]
      rw [List.drop_left, left, List.append_assoc, List.append_assoc, closes,
        List.take_append_drop]
    · rw [List.drop_left, length]
      exact least
  · cases found

theorem Delimits.unique {inner' rest' : List Nat} (delimits : Delimits delimiter content inner rest)
    (delimits' : Delimits delimiter content inner' rest') : inner = inner' ∧ rest = rest' := by
  have length := delimits.first.unique delimits'.first
  have same := delimits.behind.symm.trans delimits'.behind
  rw [List.append_assoc, List.append_assoc] at same
  obtain ⟨inner_eq, closing⟩ := List.append_inj same length
  exact ⟨inner_eq, List.append_cancel_left closing⟩

theorem delimited?_absent :
    delimited? delimiter content = none ↔ ∀ inner rest, ¬Delimits delimiter content inner rest := by
  constructor
  · intro absent inner rest delimits
    rw [delimits.found] at absent
    cases absent
  · intro never
    cases found : delimited? delimiter content with
    | none => rfl
    | some size => exact absurd (delimited?_sound found) (never _ _)

theorem occurs_single {offset : Nat} :
    Occurs [code] content offset ↔ content[offset]? = some code := by
  rw [Occurs, List.prefix_iff_eq_take, List.length_singleton]
  constructor
  · rintro ⟨-, stands⟩
    rw [← Nat.add_zero offset, ← List.getElem?_drop, ← List.getElem?_take_of_succ, ← stands]
    rfl
  · intro stands
    obtain ⟨inside, same⟩ := List.getElem?_eq_some_iff.mp stands
    refine ⟨Nat.le_of_lt inside, ?_⟩
    rw [List.drop_eq_getElem_cons inside, same]
    rfl

/-- A single unit delimits what it is not in. -/
theorem delimits_single :
    Delimits [code] content inner rest ↔
      content = code :: (inner ++ code :: rest) ∧ code ∉ inner := by
  constructor
  · intro delimits
    refine ⟨?_, ?_⟩
    · rw [delimits.joined]
      simp
    · intro inside
      -- a unit inside would be an earlier place to close at
      obtain ⟨place, bound, same⟩ := List.mem_iff_getElem.mp inside
      have earlier : Occurs [code] (content.drop [code].length) place := by
        rw [occurs_single, delimits.behind, List.append_assoc,
          List.getElem?_append_left bound, List.getElem?_eq_getElem bound, same]
      exact Nat.not_le_of_lt bound (delimits.first.2 earlier)
  · rintro ⟨rfl, apart⟩
    have behind : (code :: (inner ++ code :: rest)).drop [code].length = inner ++ code :: rest := rfl
    refine ⟨List.cons_ne_nil _ _, by simp, ?_, ?_⟩
    · rw [Set.mem_ofPred_eq, behind, occurs_single]
      simp
    · intro offset stands
      rw [Set.mem_ofPred_eq, behind, occurs_single] at stands
      by_contra before
      rw [List.getElem?_append_left (Nat.lt_of_not_le before)] at stands
      exact apart (List.mem_of_getElem? stands)

theorem enclosed?_front {delimiters : List Nat} (member : code ∈ delimiters) :
    enclosed? delimiters (code :: rest) = delimited? [code] (code :: rest) := by
  have opens : [code] <+: code :: rest := ⟨rest, rfl⟩
  rw [delimited?, if_pos ⟨List.cons_ne_nil _ _, opens⟩, find?_single]
  exact if_pos member

end Scan

open Scan

theorem CharUnit.text_ofUnit {unit : CharUnit} {code : Nat} (bound : code ≤ unit.maxValue) :
    unit.text (.ofUnit unit code) = .ok [code] := by
  rw [Value.ofUnit]
  cases isText : unit.isText with
  | true =>
    cases CharUnit.isText_iff.mp isText
    have point : (CodePoint.ofNat code).val = code :=
      CodePoint.val_ofNat (Nat.lt_succ_of_le bound)
    refine congrArg Except.ok ((CharUnit.encode_wide _).trans ?_)
    rw [Text.codes, List.map_singleton, point]
  | false =>
    have fits : (0 : Int) ≤ code ∧ (code : Int) ≤ unit.maxValue :=
      ⟨Int.natCast_nonneg code, Int.ofNat_le.mpr bound⟩
    simp [CharUnit.text, isText, Value.int?, CharUnit.checkCode, fits, Except.map]

namespace Stream

variable {whole view left : Stream} {delimiter delimiters : Value} {codes chars behind : List Nat}
  {code : Nat}

/-- A view lies between two delimiters of a window, of which the first opens it, and what is left
lies behind the other. -/
structure Encloses (whole : Stream) (delimiter : List Nat) (view left : Stream) : Prop where
  delimits : Delimits delimiter whole.content view.content left.content
  between : whole.On ⟨delimiter.length, delimiter.length + view.content.length⟩ view
  behind : whole.On
    ⟨delimiter.length + view.content.length + delimiter.length, whole.content.length⟩ left

/-- What is cut out between two delimiters lies between them. -/
theorem Valid.encloses {size : Nat} (valid : whole.Valid)
    (found : delimited? codes whole.content = some size) :
    whole.Encloses codes
      (whole.between (whole.start + codes.length) (whole.start + codes.length + size))
      (whole.onFrom (whole.start + codes.length + size + codes.length)) := by
  have fits := delimited?_fits found
  rw [Nat.add_assoc whole.start, Nat.add_assoc whole.start]
  have on : whole.On ⟨codes.length, codes.length + size⟩
      (whole.between (whole.start + codes.length) (whole.start + (codes.length + size))) :=
    on_between (Nat.le_add_right _ _) (by omega)
  have on' := valid.on_onFrom fits
  have length := on.length_content valid
  rw [Nat.add_sub_cancel_left] at length
  refine ⟨?_, ?_, ?_⟩
  · rw [on.content valid, on'.content valid, Nat.add_sub_cancel_left, ← List.length_drop,
      List.take_length]
    exact delimited?_sound found
  · rw [length]
    exact on
  · rw [length]
    exact on'

/-- What is answered and left where a delimiter is asked for: the view between two of it and what is
behind them, or nothing and the window as it was. -/
def delimited (whole : Stream) (delimiter : List Nat) : Outcome × Stream :=
  match delimited? delimiter whole.content with
  | some size =>
    (.value (.stream (whole.between (whole.start + delimiter.length)
      (whole.start + delimiter.length + size))),
      whole.onFrom (whole.start + delimiter.length + size + delimiter.length))
  | none => (.value .null, whole)

theorem Valid.perform_takeDelimited (valid : whole.Valid) (environment : Environment)
    (read : whole.unit.text delimiter = .ok codes) :
    whole.perform environment (.takeDelimited delimiter) = .ok (whole.delimited codes) := by
  rw [perform, whole.coerce_ok read]
  dsimp only [bind, Except.bind]
  rw [valid.takeDelimited?_eq, delimited]
  cases delimited? codes whole.content with
  | none => rfl
  | some size => rfl

/-- A view is answered only if it lies between two delimiters. -/
theorem Valid.delimited_encloses (valid : whole.Valid)
    (taken : whole.delimited codes = (.value (.stream view), left)) :
    whole.Encloses codes view left := by
  unfold delimited at taken
  split at taken
  · rename_i size found
    cases taken
    exact valid.encloses found
  · cases taken

theorem Valid.delimited_iff (valid : whole.Valid) {inner rest : List Nat} :
    (∃ view left, whole.delimited codes = (.value (.stream view), left) ∧
        view.content = inner ∧ left.content = rest) ↔
      Delimits codes whole.content inner rest := by
  constructor
  · rintro ⟨view, left, taken, rfl, rfl⟩
    exact (valid.delimited_encloses taken).delimits
  · intro delimits
    refine ⟨_, _, by rw [delimited, delimits.found], ?_⟩
    exact (valid.encloses delimits.found).delimits.unique delimits

/-- Nothing is answered, and nothing is moved, where the content is not delimited. -/
theorem delimited_none :
    (∀ inner rest, ¬Delimits codes whole.content inner rest) ↔
      whole.delimited codes = (.value .null, whole) := by
  rw [← delimited?_absent]
  unfold delimited
  constructor
  · intro absent
    rw [absent]
  · intro nothing
    split at nothing
    · cases nothing
    · assumption

/-- A view and a rest are taken just where the content is delimited into them, and they lie where
they stand in it. In all other cases nothing is answered, and nothing is moved. -/
theorem Valid.takeDelimited_exact (valid : whole.Valid) (environment : Environment)
    (read : whole.unit.text delimiter = .ok codes) :
    (∀ inner rest, (∃ view left, whole.perform environment (.takeDelimited delimiter) =
        .ok (.value (.stream view), left) ∧ view.content = inner ∧ left.content = rest) ↔
      Delimits codes whole.content inner rest) ∧
    (∀ view left, whole.perform environment (.takeDelimited delimiter) =
      .ok (.value (.stream view), left) → whole.Encloses codes view left) ∧
    ((∀ inner rest, ¬Delimits codes whole.content inner rest) ↔
      whole.perform environment (.takeDelimited delimiter) = .ok (.value .null, whole)) := by
  rw [valid.perform_takeDelimited environment read]
  simp only [Except.ok.injEq]
  refine ⟨?_, ?_, delimited_none⟩
  · intro inner rest
    exact valid.delimited_iff
  · intro view left taken
    exact valid.delimited_encloses taken

/-- Of four dashes two pairs delimit nothing, and of three no second pair is left to close. -/
theorem takeDelimited_exact_dashes :
    let dashes := ofBuffer (.ofBytes [45, 45, 45, 45, 98])
    let fewer := ofBuffer (.ofBytes [45, 45, 45])
    let pair : Value := .bytes [45, 45]
    dashes.Valid ∧ fewer.Valid ∧ CharUnit.narrow.text pair = .ok [45, 45] ∧
      (∃ view left, dashes.perform ⟨Config.default, "linux"⟩ (.takeDelimited pair) =
        .ok (.value (.stream view), left) ∧ view.content = [] ∧ left.content = [98] ∧
          dashes.Encloses [45, 45] view left) ∧
      fewer.perform ⟨Config.default, "linux"⟩ (.takeDelimited pair) =
        .ok (.value .null, fewer) := by
  have valid := ofBuffer_valid (.ofBytes [45, 45, 45, 45, 98])
  have valid' := ofBuffer_valid (.ofBytes [45, 45, 45])
  have read : CharUnit.narrow.text (.bytes [45, 45]) = .ok [45, 45] := rfl
  refine ⟨valid, valid', read, ?_, ?_⟩
  · obtain ⟨exactly, encloses, -⟩ := valid.takeDelimited_exact ⟨Config.default, "linux"⟩ read
    have delimits : Delimits [45, 45] [45, 45, 45, 45, 98] [] [98] :=
      ⟨by decide, rfl, ⟨by decide, by decide⟩, fun _ _ => Nat.zero_le _⟩
    obtain ⟨view, left, performed, inner, rest⟩ := (exactly [] [98]).mpr delimits
    exact ⟨view, left, performed, inner, rest, encloses view left performed⟩
  · obtain ⟨-, -, nothing⟩ := valid'.takeDelimited_exact ⟨Config.default, "linux"⟩ read
    apply nothing.mp
    intro inner rest delimits
    have length : 3 = _ := congrArg List.length delimits.joined
    simp only [List.length_append, List.length_cons, List.length_nil] at length
    omega

/-- A front unit that may delimit is asked for alone. -/
theorem Valid.perform_takeDelimitedAny (valid : whole.Valid) (environment : Environment)
    (read : whole.unit.charset delimiters = .ok chars) (member : code ∈ chars)
    (content : whole.content = code :: behind) :
    whole.perform environment (.takeDelimitedAny delimiters) = .ok (whole.delimited [code]) := by
  rw [perform, ← valid.isEmpty_content, content, List.isEmpty_cons, if_neg Bool.false_ne_true,
    whole.coerce_ok read]
  dsimp only [bind, Except.bind]
  rw [valid.takeDelimitedBy?_eq, content, enclosed?_front member, delimited, content]
  cases delimited? [code] (code :: behind) with
  | none => rfl
  | some size => rfl

theorem Valid.takeDelimitedAny_apart (valid : whole.Valid) (environment : Environment)
    (read : whole.unit.charset delimiters = .ok chars)
    (apart : ∀ code ∈ chars, whole.content.head? ≠ some code) :
    whole.perform environment (.takeDelimitedAny delimiters) = .ok (.value .null, whole) := by
  rw [perform, ← valid.isEmpty_content, whole.coerce_ok read]
  cases content : whole.content with
  | nil => rfl
  | cons code behind =>
    rw [content] at apart
    have outside : code ∉ chars := fun member => apart code member rfl
    dsimp only [bind, Except.bind]
    rw [List.isEmpty_cons, if_neg Bool.false_ne_true, valid.takeDelimitedBy?_eq, content,
      enclosed?, if_neg outside]
    rfl

/-- Where one of several units may delimit, nothing is answered or moved unless the front unit is
one of them; if it is, the answer is that to a request for the front unit alone, so none of the
others closes what it opens. -/
theorem Valid.takeDelimitedAny_front (valid : whole.Valid) (environment : Environment)
    (read : whole.unit.charset delimiters = .ok chars) :
    ((∀ code ∈ chars, whole.content.head? ≠ some code) →
      whole.perform environment (.takeDelimitedAny delimiters) = .ok (.value .null, whole)) ∧
    ∀ code ∈ chars, whole.content.head? = some code →
      ∃ front answer, whole.perform environment .front = .ok (.value front, whole) ∧
        whole.perform environment (.takeDelimitedAny delimiters) = .ok answer ∧
        whole.perform environment (.takeDelimited front) = .ok answer ∧
        ∀ inner rest, (∃ view left, answer = (.value (.stream view), left) ∧
            view.content = inner ∧ left.content = rest) ↔
          whole.content = code :: (inner ++ code :: rest) ∧ code ∉ inner := by
  refine ⟨valid.takeDelimitedAny_apart environment read, ?_⟩
  intro code member first
  obtain ⟨behind, content⟩ := List.head?_eq_some_iff.mp first
  have bound : code ≤ whole.unit.maxValue := by
    have inside : code ∈ whole.content := List.mem_of_head? first
    exact whole.buffer.bounded code (List.mem_of_mem_drop (List.mem_of_mem_take inside))
  have alone := CharUnit.text_ofUnit bound
  refine ⟨.ofUnit whole.unit code, whole.delimited [code], ?_,
    valid.perform_takeDelimitedAny environment read member content,
    valid.perform_takeDelimited environment alone, ?_⟩
  · rw [perform, valid.front?_eq, first]
    rfl
  · intro inner rest
    rw [valid.delimited_iff, delimits_single]

/-- What a quote opens an apostrophe does not close. -/
theorem takeDelimitedAny_front_quotes :
    let whole := ofBuffer (.ofText [34, 39, 97, 34, 98])
    let quotes : Value := .text (Text.ofCodes [34, 39])
    whole.Valid ∧ whole.unit.charset quotes = .ok [34, 39] ∧ whole.content.head? = some 34 ∧
      ∃ view left, whole.perform ⟨Config.default, "linux"⟩ (.takeDelimitedAny quotes) =
          .ok (.value (.stream view), left) ∧
        whole.perform ⟨Config.default, "linux"⟩ (.takeDelimited (.text (Text.ofCodes [34]))) =
          .ok (.value (.stream view), left) ∧ view.content = [39, 97] ∧ left.content = [98] := by
  have valid := ofBuffer_valid (.ofText [34, 39, 97, 34, 98])
  have read : CharUnit.wide.charset (.text (Text.ofCodes [34, 39])) = .ok [34, 39] := by decide
  refine ⟨valid, read, by decide, ?_⟩
  obtain ⟨-, taking⟩ := valid.takeDelimitedAny_front ⟨Config.default, "linux"⟩ read
  obtain ⟨front, answer, asked, any, alone, exactly⟩ := taking 34 (by decide) (by decide)
  cases asked
  obtain ⟨view, left, rfl, inner, rest⟩ := (exactly [39, 97] [98]).mpr (by decide)
  exact ⟨view, left, any, alone, inner, rest⟩

end Stream

end TextScan
