import Mathlib.Data.List.Nodup
import TextScan.Proofs.Coercion
import TextScan.Proofs.RefusedCalls

namespace TextScan

namespace CharUnit

variable {unit : CharUnit} {value member : Value} {members : List Value} {codes : List Nat}

/-- What members are answered with as a set of characters: the characters of all of them, or a
refusal where one of them is refused. -/
def Gathers (unit : CharUnit) (members : List Value) : Except UnitFault (List Nat) → Prop
  | .ok codes => (∀ member ∈ members, ∃ code, unit.char member = .ok code) ∧
      ∀ code, code ∈ codes ↔ ∃ member ∈ members, unit.char member = .ok code
  | .error _ => ∃ member ∈ members, ∃ cause, unit.char member = .error cause

theorem gathers_mapM (unit : CharUnit) (members : List Value) :
    unit.Gathers members (members.mapM unit.char) := by
  cases read : members.mapM unit.char with
  | error cause =>
    obtain ⟨member, among, refused⟩ := mapM_error read
    exact ⟨member, among, cause, refused⟩
  | ok codes =>
    induction mapM_eq_ok_iff.mp read with
    | nil => exact ⟨nofun, by simp⟩
    | @cons first code rest codes head tail ih =>
      obtain ⟨accepted, same⟩ := ih (mapM_eq_ok_iff.mpr tail)
      refine ⟨List.forall_mem_cons.mpr ⟨⟨code, head⟩, accepted⟩, ?_⟩
      intro other
      rw [List.mem_cons, same, List.exists_mem_cons_iff, head, Except.ok.injEq, eq_comm]

theorem char_eq_codeOf (number : unit.isText = false) {amount : Int}
    (counted : member.int? = some amount) : unit.char member = unit.codeOf member := by
  have read : unit.text member = (unit.checkCode amount).map fun code => [code] := by
    cases member with
    | int _ =>
      cases counted
      simp only [CharUnit.text, number, Bool.false_eq_true, if_false, Value.int?]
    | bool _ =>
      cases counted
      simp only [CharUnit.text, number, Bool.false_eq_true, if_false, Value.int?]
    | _ => cases counted
  rw [CharUnit.char, read, codeOf_of_int? counted]
  cases unit.checkCode amount with
  | _ => rfl

/-- A list or a tuple is read as a text, by number units alone and number by number. -/
theorem charset_sequence (listed : value = .list members ∨ value = .tuple members) :
    unit.charset value = if unit.isText then .error (.notText value.typeName)
      else members.mapM unit.codeOf := by
  rcases listed with rfl | rfl
  · cases unit with
    | _ => rfl
  · cases unit with
    | _ => rfl

theorem mapM_codeOf_eq_char (number : unit.isText = false)
    (counted : ∀ member ∈ members, member.int?.isSome = true) :
    members.mapM unit.codeOf = members.mapM unit.char := by
  induction members with
  | nil => rfl
  | cons first rest ih =>
    obtain ⟨head, tail⟩ := List.forall_mem_cons.mp counted
    obtain ⟨amount, own⟩ := Option.isSome_iff_exists.mp head
    rw [List.mapM_cons, List.mapM_cons, char_eq_codeOf number own, ih tail]

/-- An accepted list or tuple is answered with the characters of its members, which are numbers. -/
theorem charset_sequence_ok (listed : value = .list members ∨ value = .tuple members)
    (read : unit.charset value = .ok codes) :
    unit.isText = false ∧ (∀ member ∈ members, member.int?.isSome = true) ∧
      members.mapM unit.char = .ok codes := by
  rw [charset_sequence listed] at read
  split at read
  · cases read
  · rename_i number
    rw [Bool.not_eq_true] at number
    have counted (member : Value) (among : member ∈ members) : member.int?.isSome = true := by
      obtain ⟨code, own, -⟩ := (mapM_codeOf_ok read).2.2 member among
      rw [own]
      rfl
    exact ⟨number, counted, (mapM_codeOf_eq_char number counted).symm.trans read⟩

/-- A list or a tuple is answered with the set of the characters in it where a number unit is given
numbers, and where one of them is refused in any case. -/
theorem gathers_sequence (listed : value = .list members ∨ value = .tuple members) :
    unit.Gathers members (unit.charset value) ↔
      (unit ≠ .wide ∧ ∀ member ∈ members, member.int?.isSome = true) ∨
        ∃ member ∈ members, ∃ cause, unit.char member = .error cause := by
  have numeric : unit ≠ .wide ↔ unit.isText = false := by
    rw [ne_eq, ← isText_iff, Bool.not_eq_true]
  rw [numeric]
  cases read : unit.charset value with
  | ok codes =>
    obtain ⟨number, counted, chars⟩ := charset_sequence_ok listed read
    have gathered := unit.gathers_mapM members
    rw [chars] at gathered
    exact ⟨fun _ => .inl ⟨number, counted⟩, fun _ => gathered⟩
  | error cause =>
    refine ⟨.inr, ?_⟩
    rintro (⟨number, counted⟩ | refused)
    · have gathered := unit.gathers_mapM members
      rw [← mapM_codeOf_eq_char number counted] at gathered
      rw [charset_sequence listed, if_neg (Bool.not_eq_true _ ▸ number)] at read
      rw [read] at gathered
      exact gathered
    · exact refused

section Shown

variable {kept : List (Nat × NumberForm)}

/-- Keeps a unit unless its code is there already. -/
def keepFirst (kept : List (Nat × NumberForm)) (pair : Nat × NumberForm) :
    List (Nat × NumberForm) :=
  if kept.any fun other => other.1 == pair.1 then kept else kept ++ [pair]

theorem mem_keepFirst (kept : List (Nat × NumberForm)) (pair : Nat × NumberForm) (code : Nat) :
    code ∈ (keepFirst kept pair).map Prod.fst ↔ code ∈ kept.map Prod.fst ∨ code = pair.1 := by
  unfold keepFirst
  split
  · rename_i known
    refine ⟨.inl, ?_⟩
    rintro (there | rfl)
    · exact there
    · obtain ⟨other, member, same⟩ := List.any_eq_true.mp known
      exact List.mem_map.mpr ⟨other, member, beq_iff_eq.mp same⟩
  · rw [List.map_append, List.mem_append, List.map_singleton, List.mem_singleton]

theorem nodup_keepFirst (pair : Nat × NumberForm) (distinct : (kept.map Prod.fst).Nodup) :
    ((keepFirst kept pair).map Prod.fst).Nodup := by
  unfold keepFirst
  split
  · exact distinct
  · rename_i new
    rw [List.map_append, List.map_singleton]
    refine List.nodup_append.mpr ⟨distinct, List.nodup_singleton _, ?_⟩
    rintro code there _ (_ | ⟨_, ⟨⟩⟩) rfl
    obtain ⟨other, member, same⟩ := List.mem_map.mp there
    exact new (List.any_eq_true.mpr ⟨other, member, beq_iff_eq.mpr same⟩)

/-- Of written units those are kept whose code was not there before. -/
theorem foldl_keepFirst (written kept : List (Nat × NumberForm))
    (distinct : (kept.map Prod.fst).Nodup) :
    ((written.foldl keepFirst kept).map Prod.fst).Nodup ∧
      ∀ code, code ∈ (written.foldl keepFirst kept).map Prod.fst ↔
        code ∈ kept.map Prod.fst ∨ code ∈ written.map Prod.fst := by
  induction written generalizing kept with
  | nil => exact ⟨distinct, by simp⟩
  | cons pair rest ih =>
    obtain ⟨nodup, same⟩ := ih _ (nodup_keepFirst pair distinct)
    refine ⟨nodup, fun code => ?_⟩
    rw [List.foldl_cons, same, mem_keepFirst, List.map_cons, List.mem_cons, or_assoc]

/-- Codes with the forms they are written in, each code once. -/
def distinct (codes : List Nat) (forms : List NumberForm) : List (Nat × NumberForm) :=
  (codes.zip (forms ++ List.replicate codes.length NumberForm.number)).foldl keepFirst []

theorem nodup_distinct (codes : List Nat) (forms : List NumberForm) :
    ((distinct codes forms).map Prod.fst).Nodup :=
  (foldl_keepFirst _ [] List.nodup_nil).1

theorem mem_distinct (codes : List Nat) (forms : List NumberForm) (code : Nat) :
    code ∈ (distinct codes forms).map Prod.fst ↔ code ∈ codes := by
  have enough : codes.length ≤
      (forms ++ List.replicate codes.length NumberForm.number).length := by
    rw [List.length_append, List.length_replicate]
    exact Nat.le_add_left _ _
  rw [distinct, (foldl_keepFirst _ [] List.nodup_nil).2, List.map_fst_zip enough,
    List.map_nil, List.mem_nil_iff, false_or]

/-- The same in ascending order. -/
def ascending (codes : List Nat) (forms : List NumberForm) : List (Nat × NumberForm) :=
  (distinct codes forms).mergeSort fun first second => first.1 ≤ second.1

theorem ascending_perm (codes : List Nat) (forms : List NumberForm) :
    ((ascending codes forms).map Prod.fst).Perm ((distinct codes forms).map Prod.fst) :=
  (List.mergeSort_perm _ _).map Prod.fst

theorem mem_ascending (codes : List Nat) (forms : List NumberForm) (code : Nat) :
    code ∈ (ascending codes forms).map Prod.fst ↔ code ∈ codes := by
  rw [(ascending_perm codes forms).mem_iff, mem_distinct]

theorem pairwise_ascending (codes : List Nat) (forms : List NumberForm) :
    ((ascending codes forms).map Prod.fst).Pairwise (· < ·) := by
  have nodup : ((ascending codes forms).map Prod.fst).Nodup :=
    (ascending_perm codes forms).nodup_iff.mpr (nodup_distinct codes forms)
  have sorted : ((ascending codes forms).map Prod.fst).Pairwise (· ≤ ·) := by
    rw [List.pairwise_map]
    refine (List.pairwise_mergeSort ?_ ?_ (distinct codes forms)).imp of_decide_eq_true
    · intro first second third before after
      exact decide_eq_true ((of_decide_eq_true before).trans (of_decide_eq_true after))
    · intro first second
      rw [Bool.or_eq_true, decide_eq_true_eq, decide_eq_true_eq]
      exact Nat.le_total _ _
  exact (sorted.and nodup).imp fun apart => Nat.lt_of_le_of_ne apart.1 apart.2

/-- The forms in which a value gives characters. -/
def charForms (unit : CharUnit) : Value → List NumberForm
  | .set members => members.map fun member => (unit.forms member).headD .number
  | .frozenSet members => members.map fun member => (unit.forms member).headD .number
  | value => unit.forms value

theorem readCharset_eq (unit : CharUnit) (value : Value) :
    unit.readCharset value = (unit.charset value).map fun codes =>
      .set ((ascending codes (unit.charForms value)).map fun pair =>
        unit.unitValue pair.2 pair.1) := by
  unfold readCharset
  cases unit.charset value with
  | error cause => rfl
  | ok codes =>
    cases value with
    | _ => rfl

end Shown

theorem charset_sequence_kind (listed : value = .list members ∨ value = .tuple members)
    {cause : UnitFault} (refused : unit.charset value = .error cause) :
    (Fault.unit (some unit) cause).kind = .unit := by
  apply Fault.kind_unit
  rintro obstacle rfl
  have blocked := holdsBlocked_of_charset refused
  rcases listed with rfl | rfl
  · cases blocked
  · cases blocked

/-- Collections as character sets. A set of either kind is answered with the characters of its
members, and refused as one of them is: with a unit error, if it can be gone through. A list or a tuple
is answered so where a number unit is given numbers, and where one of them is refused in any case;
what it is answered with is what the set of its members is, and what it is refused with is a unit
error. The answer is shown as a set, each unit once. -/
theorem charset_collections (unit : CharUnit) (members : List Value) :
    (∀ value, value.setMembers? = some members →
      unit.Gathers members (unit.charset value) ∧
      ∀ cause, unit.charset value = .error cause →
        (∃ member ∈ members, unit.char member = .error cause) ∧
          ((Fault.unit (some unit) cause).kind = .unit ∨
            ∃ member ∈ members, member.isBlocked = true)) ∧
    (∀ value, value = .list members ∨ value = .tuple members →
      (unit.Gathers members (unit.charset value) ↔
        (unit ≠ .wide ∧ ∀ member ∈ members, member.int?.isSome = true) ∨
          ∃ member ∈ members, ∃ cause, unit.char member = .error cause) ∧
      (∀ codes, unit.charset value = .ok codes → unit.charset (.set members) = .ok codes) ∧
      ∀ cause, unit.charset value = .error cause →
        (Fault.unit (some unit) cause).kind = .unit) ∧
    (∀ value cause, unit.charset value = .error cause → unit.readCharset value = .error cause) ∧
    ∀ value codes, unit.charset value = .ok codes →
      ∃ written : List (Nat × NumberForm), unit.readCharset value =
          .ok (.set (written.map fun pair => unit.unitValue pair.2 pair.1)) ∧
        (written.map Prod.fst).Pairwise (· < ·) ∧
        ∀ code, code ∈ written.map Prod.fst ↔ code ∈ codes := by
  refine ⟨?_, ?_, ?_, ?_⟩
  · intro value listed
    rw [charset_of_set listed]
    refine ⟨unit.gathers_mapM members, fun cause refused => ?_⟩
    obtain ⟨member, among, found⟩ := mapM_error refused
    refine ⟨⟨member, among, found⟩, ?_⟩
    by_cases blocked : ∃ obstacle, cause = .blocked obstacle
    · obtain ⟨obstacle, rfl⟩ := blocked
      exact .inr ⟨member, among, isBlocked_of_char found⟩
    · exact .inl (Fault.kind_unit fun obstacle same => blocked ⟨obstacle, same⟩)
  · intro value listed
    exact ⟨gathers_sequence listed, fun _ read => (charset_sequence_ok listed read).2.2,
      fun _ => charset_sequence_kind listed⟩
  · intro value cause refused
    rw [readCharset_eq, refused]
    rfl
  · intro value codes read
    refine ⟨ascending codes (unit.charForms value), ?_, pairwise_ascending _ _, mem_ascending _ _⟩
    rw [readCharset_eq, read]
    rfl

/-- Numbers make the same set in a list as in a set of them. -/
theorem charset_collections_numbers :
    let members : List Value := [.int 98, .int 97, .bool true]
    narrow.Gathers members (narrow.charset (.set members)) ∧
      narrow.Gathers members (narrow.charset (.list members)) ∧
      narrow.charset (.set members) = .ok [98, 97, 1] := by
  intro members
  obtain ⟨sets, sequences, -⟩ := charset_collections narrow members
  obtain ⟨gathers, same, -⟩ := sequences (.list members) (.inl rfl)
  refine ⟨(sets (.set members) rfl).1, gathers.mpr (.inl ⟨nofun, ?_⟩), same _ rfl⟩
  simp [members, Value.int?]

/-- A letter is a character and makes a set of one, but a list with it is refused. -/
theorem list_refuses_character :
    let letter : Value := .text [0x61]
    narrow.char letter = .ok 0x61 ∧ narrow.charset (.set [letter]) = .ok [0x61] ∧
      narrow.charset (.list [letter]) = .error (.notCode "str") ∧
      ¬narrow.Gathers [letter] (narrow.charset (.list [letter])) := by
  intro letter
  refine ⟨rfl, rfl, rfl, ?_⟩
  rintro ⟨member, among, cause, refused⟩
  cases List.mem_singleton.mp among
  cases refused

end CharUnit

end TextScan
