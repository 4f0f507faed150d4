import Mathlib.Logic.Equiv.Defs
import TextScan.Operation.Method
import TextScan.Proofs.Agreement
import TextScan.Session

namespace TextScan

namespace Value

mutual

/-- The value with other numbers for the walks in it. -/
def rename (names : Nat → Nat) : Value → Value
  | list members => list (renameAll names members)
  | tuple members => tuple (renameAll names members)
  | set members => set (renameAll names members)
  | frozenSet members => frozenSet (renameAll names members)
  | slice start stop step => slice (rename names start) (rename names stop) (rename names step)
  | function test => function (renameTest names test)
  | generator walk rest => generator (names walk) (renameAll names rest)
  | location line column offset file =>
    location (rename names line) (rename names column) (rename names offset) (rename names file)
  | config assertions lineSeparator whitespace =>
    config (rename names assertions) (rename names lineSeparator) (rename names whitespace)
  | value => value

def renameAll (names : Nat → Nat) : List Value → List Value
  | [] => []
  | member :: rest => rename names member :: renameAll names rest

def renameTest (names : Nat → Nat) : CharTest Value → CharTest Value
  | .negate test => .negate (renameTest names test)
  | .constant value => .constant (rename names value)
  | test => test

end

variable (names : Nat → Nat)

theorem renameAll_eq (members : List Value) : renameAll names members = members.map (rename names) := by
  induction members with
  | nil => rfl
  | cons member rest each => exact congrArg _ each

mutual

theorem rename_rename (later : Nat → Nat) (value : Value) :
    (value.rename names).rename later = value.rename (later ∘ names) := by
  cases value with
  | list members => simp only [rename, renameAll_renameAll]
  | tuple members => simp only [rename, renameAll_renameAll]
  | set members => simp only [rename, renameAll_renameAll]
  | frozenSet members => simp only [rename, renameAll_renameAll]
  | slice start stop step => simp only [rename, rename_rename]
  | function test => simp only [rename, renameTest_renameTest]
  | generator walk rest => simp only [rename, renameAll_renameAll, Function.comp_apply]
  | location line column offset file => simp only [rename, rename_rename]
  | config assertions lineSeparator whitespace => simp only [rename, rename_rename]
  | _ => rfl

theorem renameAll_renameAll (later : Nat → Nat) (members : List Value) :
    renameAll later (renameAll names members) = renameAll (later ∘ names) members := by
  cases members with
  | nil => rfl
  | cons member rest => simp only [renameAll, rename_rename, renameAll_renameAll]

theorem renameTest_renameTest (later : Nat → Nat) (test : CharTest Value) :
    renameTest later (renameTest names test) = renameTest (later ∘ names) test := by
  cases test with
  | negate test => simp only [renameTest, renameTest_renameTest]
  | constant value => simp only [renameTest, rename_rename]
  | _ => rfl

end

mutual

theorem rename_id (value : Value) : value.rename id = value := by
  cases value with
  | list members => simp only [rename, renameAll_id]
  | tuple members => simp only [rename, renameAll_id]
  | set members => simp only [rename, renameAll_id]
  | frozenSet members => simp only [rename, renameAll_id]
  | slice start stop step => simp only [rename, rename_id]
  | function test => simp only [rename, renameTest_id]
  | generator walk rest => simp only [rename, renameAll_id, id_eq]
  | location line column offset file => simp only [rename, rename_id]
  | config assertions lineSeparator whitespace => simp only [rename, rename_id]
  | _ => rfl

theorem renameAll_id (members : List Value) : renameAll id members = members := by
  cases members with
  | nil => rfl
  | cons member rest => simp only [renameAll, rename_id, renameAll_id]

theorem renameTest_id (test : CharTest Value) : renameTest id test = test := by
  cases test with
  | negate test => simp only [renameTest, renameTest_id]
  | constant value => simp only [renameTest, rename_id]
  | _ => rfl

end

section Reading

variable (value : Value)

@[simp]
theorem typeName_rename : (value.rename names).typeName = value.typeName := by
  cases value with
  | _ => rfl

@[simp]
theorem fullTypeName_rename : (value.rename names).fullTypeName = value.fullTypeName := by
  cases value with
  | _ => rfl

@[simp]
theorem isEmpty_renameAll (members : List Value) :
    (renameAll names members).isEmpty = members.isEmpty := by
  cases members with
  | nil => rfl
  | cons member rest => rfl

@[simp]
theorem length_renameAll (members : List Value) :
    (renameAll names members).length = members.length := by
  rw [renameAll_eq, List.length_map]

@[simp]
theorem truth_rename : (value.rename names).truth = value.truth := by
  cases value with
  | list members => simp only [rename, truth, isEmpty_renameAll]
  | tuple members => simp only [rename, truth, isEmpty_renameAll]
  | set members => simp only [rename, truth, isEmpty_renameAll]
  | frozenSet members => simp only [rename, truth, isEmpty_renameAll]
  | _ => rfl

@[simp]
theorem int?_rename : (value.rename names).int? = value.int? := by
  cases value with
  | _ => rfl

@[simp]
theorem number?_rename : (value.rename names).number? = value.number? := by
  cases value with
  | _ => rfl

@[simp]
theorem form_rename : (value.rename names).form = value.form := by
  cases value with
  | _ => rfl

theorem test?_rename : (value.rename names).test? = value.test?.map (renameTest names) := by
  cases value with
  | _ => rfl

@[simp]
theorem holds_renameTest (test : CharTest Value) (code : Int) :
    (renameTest names test).holds truth code = test.holds truth code := by
  induction test with
  | negate test same => exact congrArg (!·) same
  | constant value => exact truth_rename names value
  | _ => rfl

theorem rename_ofUnit (unit : CharUnit) (code : Nat) :
    (ofUnit unit code).rename names = ofUnit unit code := by
  unfold ofUnit
  split
  · rfl
  · rfl

theorem rename_ofItem (item : Item) : (ofItem item).rename names = ofItem item := by
  cases item with
  | _ => rfl

theorem rename_ofForm (form : NumberForm) (code : Nat) :
    (ofForm form code).rename names = ofForm form code := by
  cases form with
  | _ => rfl

theorem rename_ofBuffer (buffer : Buffer) :
    (ofBuffer buffer).rename names = ofBuffer buffer := by
  obtain ⟨backing, units, bounded⟩ := buffer
  cases backing with
  | _ => rfl

theorem map_rename_of_same {α : Type} {make : α → Value} (same : ∀ item, (make item).rename names = make item)
    (items : List α) : (items.map make).map (rename names) = items.map make := by
  rw [List.map_map]
  exact List.map_congr_left fun item _ => same item

theorem members?_rename :
    (value.rename names).members? = value.members?.map (List.map (rename names)) := by
  cases value with
  | list members => exact congrArg some (renameAll_eq names members)
  | tuple members => exact congrArg some (renameAll_eq names members)
  | set members => exact congrArg some (renameAll_eq names members)
  | frozenSet members => exact congrArg some (renameAll_eq names members)
  | generator walk rest => exact congrArg some (renameAll_eq names rest)
  | range start stop => exact congrArg some (map_rename_of_same names (fun _ => rfl) _).symm
  | array typed => exact congrArg some (map_rename_of_same names (rename_ofItem names) _).symm
  | stream window => exact congrArg some (map_rename_of_same names (rename_ofUnit names _) _).symm
  | lines pieces => exact congrArg some (map_rename_of_same names (fun _ => rfl) _).symm
  | _ => rfl

@[simp]
theorem forms_rename : (value.rename names).forms = value.forms := by
  unfold forms
  rw [int?_rename, members?_rename, form_rename]
  cases value.int? with
  | some code => rfl
  | none =>
    cases value.members? with
    | none => rfl
    | some members =>
      change (members.map (rename names)).map form = members.map form
      rw [List.map_map]
      exact List.map_congr_left fun member _ => form_rename names member

end Reading

section Written

mutual

@[simp]
theorem shown_rename (value : Value) : (value.rename names).shown = value.shown := by
  cases value with
  | list members => simp only [rename, shown, shownAll_rename]
  | tuple members => simp only [rename, shown, shownAll_rename]
  | set members => simp only [rename, shown, shownAll_rename, isEmpty_renameAll]
  | frozenSet members => simp only [rename, shown, shownAll_rename, isEmpty_renameAll]
  | slice start stop step => simp only [rename, shown, shown_rename]
  | location line column offset file => simp only [rename, shown, shown_rename]
  | config assertions lineSeparator whitespace => simp only [rename, shown, shown_rename]
  | _ => rfl

theorem shownAll_rename (members : List Value) :
    shownAll (renameAll names members) = shownAll members := by
  cases members with
  | nil => rfl
  | cons member rest => simp only [renameAll, shownAll, shown_rename, shownAll_rename]

end

mutual

@[simp]
theorem changing?_rename (value : Value) : (value.rename names).changing? = value.changing? := by
  cases value with
  | tuple members => simp only [rename, changing?, changingAmong?_rename]
  | frozenSet members => simp only [rename, changing?, changingAmong?_rename]
  | location line column offset file => simp only [rename, changing?, changing?_rename]
  | config assertions lineSeparator whitespace => simp only [rename, changing?, changing?_rename]
  | _ => rfl

theorem changingAmong?_rename (members : List Value) :
    changingAmong? (renameAll names members) = changingAmong? members := by
  cases members with
  | nil => rfl
  | cons member rest => simp only [renameAll, changingAmong?, changing?_rename, changingAmong?_rename]

end

theorem hashable?_rename (value : Value) :
    (value.rename names).hashable? = value.hashable?.map (rename names) := by
  unfold hashable?
  rw [changing?_rename]
  cases value.changing? with
  | none => rfl
  | some typeName => rfl

end Written

section Equality

variable {names}

mutual

/-- Numbers that stay apart are as good as any others to tell walks apart. -/
theorem equal_rename (injective : Function.Injective names) (first second : Value) :
    (first.rename names).equal (second.rename names) = first.equal second := by
  cases first with
  | list members =>
    cases second with
    | list members' => exact equalAll_rename injective members members'
    | _ => rfl
  | tuple members =>
    cases second with
    | tuple members' => exact equalAll_rename injective members members'
    | _ => rfl
  | set members =>
    cases second with
    | set members' => simp only [rename, equal, within_rename injective, length_renameAll]
    | frozenSet members' => simp only [rename, equal, within_rename injective, length_renameAll]
    | _ => rfl
  | frozenSet members =>
    cases second with
    | set members' => simp only [rename, equal, within_rename injective, length_renameAll]
    | frozenSet members' => simp only [rename, equal, within_rename injective, length_renameAll]
    | _ => rfl
  | slice start stop step =>
    cases second with
    | slice start' stop' step' => simp only [rename, equal, equal_rename injective]
    | _ => rfl
  | function test =>
    cases second with
    | function test' =>
      cases test with
      | _ =>
        cases test' with
        | _ => rfl
    | _ => rfl
  | generator walk rest =>
    cases second with
    | generator walk' rest' =>
      simp only [rename, equal]
      rw [Bool.eq_iff_iff, beq_iff_eq, beq_iff_eq]
      exact injective.eq_iff
    | _ => rfl
  | location line column offset file =>
    cases second with
    | location line' column' offset' file' => simp only [rename, equal, equal_rename injective]
    | _ => rfl
  | config assertions lineSeparator whitespace =>
    cases second with
    | config assertions' lineSeparator' whitespace' => simp only [rename, equal, equal_rename injective]
    | _ => rfl
  | _ =>
    cases second with
    | _ => rfl

theorem equalAll_rename (injective : Function.Injective names) (first second : List Value) :
    equalAll (renameAll names first) (renameAll names second) = equalAll first second := by
  cases first with
  | nil =>
    cases second with
    | nil => rfl
    | cons member rest => rfl
  | cons member rest =>
    cases second with
    | nil => rfl
    | cons member' rest' => simp only [renameAll, equalAll, equal_rename injective, equalAll_rename injective]

theorem within_rename (injective : Function.Injective names) (first second : List Value) :
    within (renameAll names first) (renameAll names second) = within first second := by
  cases first with
  | nil => rfl
  | cons member rest =>
    have found : (renameAll names second).any (fun other => (member.rename names).equal other) =
        second.any fun other => member.equal other := by
      rw [renameAll_eq, List.any_map]
      congr 1
      funext other
      exact equal_rename injective member other
    simp only [renameAll, within, found, within_rename injective]

end

end Equality

section Sets

/-- What is put into empty slots is all that is in them. -/
theorem slots_foldl {α : Type} {holds : Nat × α → Prop}
    {put : SlotTable α → Nat × α → SlotTable α}
    (keeps : ∀ table entry, (∀ other ∈ table.members, holds other) → holds entry →
      ∀ other ∈ (put table entry).members, holds other) (size : Nat) {entries : List (Nat × α)}
    (each : ∀ entry ∈ entries, holds entry) :
    ∀ other ∈ (entries.foldl put (.ofSize size)).members, holds other := by
  have empty : ∀ other ∈ (SlotTable.ofSize size : SlotTable α).members, holds other := by
    intro other member
    obtain ⟨slot, present, same⟩ := List.mem_filterMap.mp member
    rw [List.eq_of_mem_replicate present] at same
    cases same
  generalize (SlotTable.ofSize size : SlotTable α) = table at empty ⊢
  induction entries generalizing table with
  | nil => exact empty
  | cons entry entries later =>
    exact later (fun other member => each other (.tail _ member)) _
      (keeps table entry empty (each entry (.head _)))

theorem slots_insert {α : Type} {holds : Nat × α → Prop} (table : SlotTable α) (entry : Nat × α)
    (before : ∀ other ∈ table.members, holds other) (own : holds entry) :
    ∀ other ∈ (table.insert entry).members, holds other := by
  have put (table : SlotTable α) (entry : Nat × α) (before : ∀ other ∈ table.members, holds other)
      (own : holds entry) : ∀ other ∈ (table.put entry).members, holds other := by
    intro other member
    obtain ⟨slot, present, same⟩ := List.mem_filterMap.mp member
    rcases List.mem_or_eq_of_mem_set present with old | rfl
    · exact before other (List.mem_filterMap.mpr ⟨slot, old, same⟩)
    · cases same
      exact own
  have filled := put table entry before own
  unfold SlotTable.insert
  dsimp only
  split
  · exact slots_foldl put _ filled
  · exact filled

/-- A value with its key, if it is a number. -/
def keyed? (member : Value) : Option (Nat × Value) := member.slotKey?.map fun key => (key, member)

theorem visited_eq (members : List Value) : visited members = match members.mapM keyed? with
    | some entries => ((entries.foldl SlotTable.insert (.ofSize 8)).members).map Prod.snd
    | none => members := rfl

theorem rename_keyed {member : Value} {entry : Nat × Value} (keyed : member.keyed? = some entry) :
    member.rename names = member ∧ entry.2.rename names = entry.2 := by
  obtain ⟨key, found, rfl⟩ := Option.map_eq_some_iff.mp keyed
  obtain ⟨number, hashed, -⟩ := Option.map_eq_some_iff.mp found
  obtain ⟨amount, counted, -⟩ := Option.map_eq_some_iff.mp hashed
  obtain ⟨written, is, -⟩ := Option.bind_eq_some_iff.mp counted
  cases member with
  | bool value => exact ⟨rfl, rfl⟩
  | int value => exact ⟨rfl, rfl⟩
  | fraction mantissa places => exact ⟨rfl, rfl⟩
  | _ => cases is

theorem keyed?_rename (member : Value) : (member.rename names).keyed? = member.keyed? := by
  cases keyed : member.keyed? with
  | some entry => rw [(rename_keyed names keyed).1, keyed]
  | none =>
    unfold keyed? slotKey? hashed? at keyed ⊢
    rw [number?_rename]
    simpa using keyed

theorem keyedAll_rename (members : List Value) :
    (members.map (rename names)).mapM keyed? = members.mapM keyed? ∧
      ∀ entries, members.mapM keyed? = some entries →
        members.map (rename names) = members ∧ ∀ entry ∈ entries, entry.2.rename names = entry.2 := by
  induction members with
  | nil =>
    refine ⟨rfl, fun entries same => ?_⟩
    cases same
    exact ⟨rfl, List.forall_mem_nil _⟩
  | cons member rest later =>
    obtain ⟨same, fixed⟩ := later
    rw [List.map_cons, List.mapM_cons, List.mapM_cons, keyed?_rename, same]
    refine ⟨rfl, fun entries keyed => ?_⟩
    obtain ⟨entry, first, keyed⟩ := Option.bind_eq_some_iff.mp keyed
    obtain ⟨others, listed, same⟩ := Option.bind_eq_some_iff.mp keyed
    cases same
    obtain ⟨all, each⟩ := fixed others listed
    obtain ⟨own, value⟩ := rename_keyed names first
    rw [all, own]
    exact ⟨rfl, List.forall_mem_cons.mpr ⟨value, each⟩⟩

/-- Sets visit numbers in an order of their own, and anything else as it was given. -/
theorem visited_rename (members : List Value) :
    visited (members.map (rename names)) = (visited members).map (rename names) := by
  obtain ⟨same, fixed⟩ := keyedAll_rename names members
  rw [visited_eq, visited_eq, same]
  cases keyed : members.mapM keyed? with
  | none => rfl
  | some entries =>
    have each := (fixed entries keyed).2
    have slots := slots_foldl slots_insert 8 each
    dsimp only
    rw [List.map_map]
    exact (List.map_congr_left slots).symm

/-- Which members a set has is no matter of the numbers that walks go by. -/
theorem members_rename {names : Nat → Nat} (injective : Function.Injective names)
    (given : List Value) :
    Value.members (given.map (rename names)) =
      (Value.members given).map (List.map (rename names)) := by
  have checked : (given.map (rename names)).mapM hashable? =
      (given.mapM hashable?).map (List.map (rename names)) := by
    rw [List.mapM_map]
    exact mapM_changed (hashable?_rename names) given
  let add (kept : List Value) (member : Value) : List Value :=
    if kept.any member.equal then kept else kept ++ [member]
  have added (kept : List Value) (member : Value) :
      add (kept.map (rename names)) (member.rename names) = (add kept member).map (rename names) := by
    have found : (kept.map (rename names)).any (member.rename names).equal =
        kept.any member.equal := by
      rw [List.any_map]
      exact congrArg (kept.any ·) (funext fun other => equal_rename injective member other)
    dsimp only [add]
    rw [found]
    split
    · rfl
    · rw [List.map_append]
      rfl
  have distinct (kept rest : List Value) :
      (rest.map (rename names)).foldl add (kept.map (rename names)) =
        (rest.foldl add kept).map (rename names) := by
    induction rest generalizing kept with
    | nil => rfl
    | cons member rest later =>
      rw [List.map_cons, List.foldl_cons, List.foldl_cons, added]
      exact later _
  unfold Value.members
  rw [checked]
  refine bind_changed fun members _ => ?_
  refine congrArg Except.ok ?_
  rw [← visited_rename]
  exact congrArg visited (distinct [] members)

end Sets

end Value

end TextScan
