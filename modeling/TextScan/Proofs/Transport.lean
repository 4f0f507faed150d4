import TextScan.Comparison
import TextScan.Proofs.Renaming

namespace TextScan

variable (names : Nat → Nat)

namespace Value

theorem spent_rename (value : Value) :
    (value.rename names).spent = value.spent.rename names := by
  cases value with
  | _ => rfl

theorem spentAsChars_rename (value : Value) :
    (value.rename names).spentAsChars = value.spentAsChars.rename names := by
  have each (members : List Value) :
      (renameAll names members).map spent = renameAll names (members.map spent) := by
    rw [renameAll_eq, renameAll_eq, List.map_map, List.map_map]
    exact List.map_congr_left fun member _ => spent_rename names member
  cases value with
  | set members => exact congrArg set (each members)
  | frozenSet members => exact congrArg frozenSet (each members)
  | _ => rfl

theorem slice?_rename (value : Value) :
    (value.rename names).slice? = value.slice?.map fun parts =>
      (parts.1.rename names, parts.2.1.rename names, parts.2.2.rename names) := by
  cases value with
  | _ => rfl

@[simp]
theorem numberLeft_rename (relation : Relation) (value : Value) :
    (value.rename names).numberLeft relation = value.numberLeft relation := by
  unfold numberLeft
  rw [number?_rename, fullTypeName_rename]

@[simp]
theorem numberRight_rename (relation : Relation) (value : Value) :
    (value.rename names).numberRight relation = value.numberRight relation := by
  unfold numberRight
  rw [number?_rename, fullTypeName_rename]

@[simp]
theorem sliceBound?_rename (value : Value) :
    (value.rename names).sliceBound? = value.sliceBound? := by
  cases value with
  | _ => rfl

@[simp]
theorem bound?_rename (value : Value) : (value.rename names).bound? = value.bound? := by
  unfold bound?
  rw [number?_rename, form_rename]

@[simp]
theorem windowBounds_rename (size : Nat) (start stop : Value) :
    windowBounds size (start.rename names) (stop.rename names) = windowBounds size start stop := by
  let stops (low : Bound) (stop : Value) : Except Fault (Bound × Bound) :=
    stop.bound?.elim (.error (.incomparable .gt low.typeName stop.fullTypeName)) fun given =>
      .ok (low, (given.larger low).smaller (.ofInt size))
  have later (low : Bound) : stops low (stop.rename names) = stops low stop := by
    dsimp only [stops]
    rw [bound?_rename, fullTypeName_rename]
  unfold windowBounds
  rw [bound?_rename, fullTypeName_rename]
  cases start.bound? with
  | none => rfl
  | some given =>
    cases stop with
    | null => rfl
    | _ => exact later _

theorem ofLocation_rename (place : Location) (form : NumberForm) (file : Value) :
    (ofLocation place form file).rename names = ofLocation place form (file.rename names) := by
  unfold ofLocation
  simp only [rename, rename_ofForm]

end Value

namespace CharUnit

variable (unit : CharUnit)

@[simp]
theorem codeOf_rename (member : Value) : unit.codeOf (member.rename names) = unit.codeOf member := by
  unfold codeOf
  rw [Value.int?_rename, Value.typeName_rename]

theorem mapM_renameAll {α : Type} {read : Value → Except UnitFault α}
    (same : ∀ member, read (member.rename names) = read member) (members : List Value) :
    (Value.renameAll names members).mapM read = members.mapM read := by
  rw [Value.renameAll_eq, List.mapM_map]
  exact congrArg (members.mapM ·) (funext same)

@[simp]
theorem text_rename (value : Value) : unit.text (value.rename names) = unit.text value := by
  have among (members : List Value) := mapM_renameAll names (codeOf_rename names unit) members
  cases value with
  | list members => simp only [text, Value.rename, Value.int?, Value.members?, among]; rfl
  | tuple members => simp only [text, Value.rename, Value.int?, Value.members?, among]; rfl
  | set members => simp only [text, Value.rename, Value.int?, Value.members?, among]; rfl
  | frozenSet members => simp only [text, Value.rename, Value.int?, Value.members?, among]; rfl
  | generator walk rest => simp only [text, Value.rename, Value.int?, Value.members?, among]; rfl
  | _ => rfl

@[simp]
theorem char_rename (value : Value) : unit.char (value.rename names) = unit.char value := by
  unfold char
  rw [text_rename, Value.shown_rename]

@[simp]
theorem charset_rename (value : Value) :
    unit.charset (value.rename names) = unit.charset value := by
  have other {value : Value} (read : unit.charset value = unit.text value)
      (read' : unit.charset (value.rename names) = unit.text (value.rename names)) :
      unit.charset (value.rename names) = unit.charset value := by
    rw [read, read', text_rename]
  cases value with
  | set members => exact mapM_renameAll names (char_rename names unit) members
  | frozenSet members => exact mapM_renameAll names (char_rename names unit) members
  | _ => exact other rfl rfl

@[simp]
theorem forms_rename (value : Value) : unit.forms (value.rename names) = unit.forms value := by
  unfold forms
  rw [Value.forms_rename]

theorem walksInText_rename (value : Value) :
    unit.walksInText (value.rename names) = (unit.walksInText value).map names := by
  cases value with
  | generator walk rest =>
    simp only [Value.rename, walksInText]
    split
    · rfl
    · rfl
  | _ => rfl

theorem walksInChars_rename (members : List Value) :
    unit.walksInChars (Value.renameAll names members) = (unit.walksInChars members).map names := by
  induction members with
  | nil => rfl
  | cons member rest later =>
    rw [Value.renameAll, walksInChars, walksInChars, walksInText_rename, char_rename,
      List.map_append]
    cases unit.char member with
    | error fault => rfl
    | ok code => rw [later]

theorem walksInCharset_rename (value : Value) :
    unit.walksInCharset (value.rename names) = (unit.walksInCharset value).map names := by
  have other {value : Value} (read : unit.walksInCharset value = unit.walksInText value)
      (read' : unit.walksInCharset (value.rename names) =
        unit.walksInText (value.rename names)) :
      unit.walksInCharset (value.rename names) = (unit.walksInCharset value).map names := by
    rw [read, read', walksInText_rename]
  cases value with
  | set members => exact walksInChars_rename names unit members
  | frozenSet members => exact walksInChars_rename names unit members
  | _ => exact other rfl rfl

end CharUnit

section Comparing

namespace Stream

variable (stream : Stream)

@[simp]
theorem operand?_rename (value : Value) :
    stream.operand? (value.rename names) = stream.operand? value := by
  let given (value : Value) : Option (List Nat) :=
    value.int?.elim (stream.unit.text value).toOption fun _ => none
  have other {value : Value} (read : stream.operand? value = given value)
      (read' : stream.operand? (value.rename names) = given (value.rename names)) :
      stream.operand? (value.rename names) = stream.operand? value := by
    rw [read, read']
    dsimp only [given]
    rw [Value.int?_rename, CharUnit.text_rename]
  cases value with
  | stream window => rfl
  | _ => exact other rfl rfl

/-- Beside what is no stream, a stream is compared with the content that it stands for. -/
theorem equals_other {value : Value} (apart : ∀ window, value ≠ .stream window) :
    stream.equals value = match stream.operand? value with
      | some content =>
        decide (content.length = stream.size) && (stream.startsWith content).getD false
      | none => false := by
  cases value with
  | stream window => exact absurd rfl (apart window)
  | _ => rfl

@[simp]
theorem equals_rename (value : Value) : stream.equals (value.rename names) = stream.equals value := by
  by_cases other : ∃ window, value = .stream window
  · obtain ⟨window, rfl⟩ := other
    rfl
  · have apart (window : Stream) : value ≠ .stream window := fun same => other ⟨window, same⟩
    have apart' (window : Stream) : value.rename names ≠ .stream window := by
      intro same
      cases value with
      | stream own => exact apart own rfl
      | _ => cases same
    rw [equals_other _ apart, equals_other _ apart', operand?_rename]

@[simp]
theorem holds?_rename (relation : Relation) (value : Value) :
    stream.holds? relation (value.rename names) = stream.holds? relation value := by
  unfold holds? precedes?
  rw [operand?_rename, equals_rename, Value.spent_rename, equals_rename]

theorem checkRead_rename (value : Value) :
    stream.checkRead (value.rename names) = stream.checkRead value := by
  unfold checkRead
  rw [CharUnit.text_rename]

theorem compare_rename (relation : Relation) (value : Value) :
    stream.compare relation (value.rename names) = stream.compare relation value := by
  unfold compare
  rw [checkRead_rename, holds?_rename, Value.fullTypeName_rename]

theorem compareFrom_rename (relation : Relation) (value : Value) :
    stream.compareFrom relation (value.rename names) = stream.compareFrom relation value := by
  unfold compareFrom
  rw [checkRead_rename, holds?_rename, Value.fullTypeName_rename]

end Stream

namespace Value

theorem walksCompared_rename (window : Stream) (value : Value) :
    walksCompared (.stream window) (value.rename names) =
      (walksCompared (.stream window) value).map names :=
  CharUnit.walksInText_rename names window.unit value

theorem compare_stream_rename (relation : Relation) (window : Stream) (value : Value) :
    (value.rename names).compare relation (.stream window) =
      value.compare relation (.stream window) := by
  have other {value : Value}
      (read : value.compare relation (.stream window) = window.compareFrom relation value)
      (read' : (value.rename names).compare relation (.stream window) =
        window.compareFrom relation (value.rename names)) :
      (value.rename names).compare relation (.stream window) =
        value.compare relation (.stream window) := by
    rw [read, read', Stream.compareFrom_rename]
  cases value with
  | stream own => rfl
  | _ => exact other rfl rfl

end Value

end Comparing

end TextScan
