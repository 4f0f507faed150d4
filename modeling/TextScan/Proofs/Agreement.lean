import TextScan.Error

namespace TextScan

/-- A computation that answers did so at each step. -/
theorem bind_eq_ok {α β : Type} {result : Except Fault α} {next : α → Except Fault β}
    {answer : β} : (result >>= next) = .ok answer ↔
      ∃ before, result = .ok before ∧ next before = .ok answer := by
  cases result with
  | error fault => simp [bind, Except.bind]
  | ok before => simp [bind, Except.bind]

section Bind

variable {α β γ δ : Type} {change : α → γ} {finish : β → δ} {result : Except Fault α}
  {next : α → Except Fault β}

theorem bind_changed {next' : γ → Except Fault δ}
    (later : ∀ answer, result = .ok answer → next' (change answer) = (next answer).map finish) :
    (result.map change >>= next') = (result >>= next).map finish := by
  cases result with
  | error fault => rfl
  | ok answer => exact later answer rfl

theorem bind_kept {next' : α → Except Fault δ}
    (later : ∀ answer, result = .ok answer → next' answer = (next answer).map finish) :
    (result >>= next') = (result >>= next).map finish := by
  cases result with
  | error fault => rfl
  | ok answer => exact later answer rfl

theorem mapM_changed {next : α → Except Fault β} {next' : α → Except Fault δ}
    (each : ∀ item, next' item = (next item).map finish) (items : List α) :
    items.mapM next' = (items.mapM next).map (List.map finish) := by
  induction items with
  | nil => rfl
  | cons item items later =>
    rw [List.mapM_cons, List.mapM_cons, each, later]
    exact bind_changed fun first _ => bind_changed fun rest _ => rfl

end Bind

/-- Two results that agree: related faults, or related answers. -/
inductive Agree {α β : Type} (faults : Fault → Fault → Prop) (answers : α → β → Prop) :
    Except Fault α → Except Fault β → Prop where
  | fault {first second : Fault} (same : faults first second) :
    Agree faults answers (.error first) (.error second)
  | done {first : α} {second : β} (related : answers first second) :
    Agree faults answers (.ok first) (.ok second)

namespace Agree

variable {α β γ δ : Type} {faults : Fault → Fault → Prop} {answers : α → β → Prop}
  {later : γ → δ → Prop}

theorem bind {first : Except Fault α} {second : Except Fault β} {next : α → Except Fault γ}
    {next' : β → Except Fault δ} (before : Agree faults answers first second)
    (after : ∀ answer answer', answers answer answer' →
      Agree faults later (next answer) (next' answer')) :
    Agree faults later (first >>= next) (second >>= next') := by
  cases before with
  | fault same => exact .fault same
  | done related => exact after _ _ related

theorem either {first : Except Fault α} {second : Except Fault β}
    (agree : Agree faults answers first second) :
    (∃ fault fault', first = .error fault ∧ second = .error fault' ∧ faults fault fault') ∨
      ∃ answer answer', first = .ok answer ∧ second = .ok answer' ∧ answers answer answer' := by
  cases agree with
  | fault same => exact .inl ⟨_, _, rfl, rfl, same⟩
  | done related => exact .inr ⟨_, _, rfl, rfl, related⟩

theorem answered {first : Except Fault α} {answer : β}
    (agree : Agree faults answers first (.ok answer)) :
    ∃ before, first = .ok before ∧ answers before answer := by
  cases agree with
  | done related => exact ⟨_, rfl, related⟩

/-- Two results that agree with one said before agree with each other. -/
theorem meet {said : Except Fault α} {first : Except Fault β} {second : Except Fault γ}
    {answers' : α → γ → Prop} {same : Fault → Fault → Prop}
    (agree : Agree faults answers said first) (agree' : Agree faults answers' said second)
    (joins : ∀ fault left right, faults fault left → faults fault right → same left right) :
    Agree same (fun answer answer' => ∃ before, answers before answer ∧ answers' before answer')
      first second := by
  cases agree with
  | fault left =>
    cases agree' with
    | fault right => exact .fault (joins _ _ _ left right)
  | done left =>
    cases agree' with
    | done right => exact .done ⟨_, left, right⟩

theorem across {said : Except Fault α} {said' : Except Fault β} {first : Except Fault γ}
    {second : Except Fault δ} {own : α → γ → Prop} {other : β → δ → Prop}
    {left right same : Fault → Fault → Prop} (between : Agree faults answers said said')
    (agree : Agree left own said first) (agree' : Agree right other said' second)
    (joins : ∀ fault fault' here there, faults fault fault' → left fault here →
      right fault' there → same here there) :
    Agree same (fun answer answer' => ∃ before before', answers before before' ∧
      own before answer ∧ other before' answer') first second := by
  cases between with
  | fault both =>
    cases agree with
    | fault here =>
      cases agree' with
      | fault there => exact .fault (joins _ _ _ _ both here there)
  | done both =>
    cases agree with
    | done here =>
      cases agree' with
      | done there => exact .done ⟨_, _, both, here, there⟩

/-- One computation before two that agree whatever it answers. -/
theorem after {result : Except Fault α} {next : α → Except Fault γ} {next' : α → Except Fault δ}
    (reflexive : ∀ fault, faults fault fault)
    (each : ∀ answer, Agree faults later (next answer) (next' answer)) :
    Agree faults later (result >>= next) (result >>= next') := by
  cases result with
  | error fault => exact .fault (reflexive fault)
  | ok answer => exact each answer

theorem imp {first : Except Fault α} {second : Except Fault β} {wider : α → β → Prop}
    (agree : Agree faults answers first second)
    (related : ∀ answer answer', answers answer answer' → wider answer answer') :
    Agree faults wider first second := by
  cases agree with
  | fault same => exact .fault same
  | done same => exact .done (related _ _ same)

theorem map {first : Except Fault α} {second : Except Fault β} {change : α → γ} {change' : β → δ}
    (before : Agree faults answers first second)
    (related : ∀ answer answer', answers answer answer' →
      later (change answer) (change' answer')) :
    Agree faults later (first.map change) (second.map change') := by
  cases before with
  | fault same => exact .fault same
  | done same => exact .done (related _ _ same)

theorem map_left {first : Except Fault α} {second : Except Fault β} {change : α → γ}
    {later : γ → β → Prop} (before : Agree faults answers first second)
    (related : ∀ answer answer', answers answer answer' → later (change answer) answer') :
    Agree faults later (first.map change) second := by
  cases before with
  | fault same => exact .fault same
  | done same => exact .done (related _ _ same)

end Agree

end TextScan
