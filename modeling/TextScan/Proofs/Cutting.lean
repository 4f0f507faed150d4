import TextScan.Proofs.Placement

namespace TextScan.Stream

open Scan

variable {rest first second : Stream} {separator : List Nat}

theorem Valid.found_bounds (valid : rest.Valid) {place : Nat}
    (found : rest.findText? separator rest.start = some (some place)) :
    rest.start ≤ place ∧ place + separator.length ≤ rest.stop := by
  rw [valid.findText?_eq separator valid.start_le_stop, ← content_eq_between] at found
  obtain ⟨offset, there, rfl⟩ := Option.map_eq_some_iff.mp (Option.some.inj found)
  have fits := find?_fits there
  have bounds := valid.start_le_stop
  rw [valid.length_content, size] at fits
  omega

theorem Valid.onFrom (valid : rest.Valid) {place : Nat} (inside : place ≤ rest.stop) :
    (rest.onFrom place).Valid := ⟨inside, valid.stop_le_size⟩

theorem Valid.findText?_short (valid : rest.Valid) (short : rest.size < separator.length) :
    rest.findText? separator rest.start = some none := by
  rw [← valid.length_content] at short
  rw [valid.findText?_eq separator valid.start_le_stop, ← content_eq_between, find?_short short]
  rfl

/-- Looking for more separators than there are units finds no more of them. -/
theorem Valid.cut_enough (valid : rest.Valid) (nonempty : separator ≠ []) {tries tries' : Nat}
    (enough : rest.size ≤ tries) (enough' : rest.size ≤ tries') :
    Lines.cut separator tries rest = Lines.cut separator tries' rest := by
  have some := List.length_pos_iff.mpr nonempty
  -- no try is left only where no unit is
  have last {rest : Stream} (valid : rest.Valid) (empty : rest.size = 0) (tries : Nat) :
      Lines.cut separator tries rest = [rest] := by
    cases tries with
    | zero => rfl
    | succ tries =>
      unfold Lines.cut
      rw [valid.findText?_short (by omega)]
  induction tries generalizing tries' rest with
  | zero =>
    have empty := Nat.le_zero.mp enough
    rw [last valid empty, last valid empty]
  | succ tries later =>
    cases tries' with
    | zero =>
      have empty := Nat.le_zero.mp enough'
      rw [last valid empty, last valid empty]
    | succ tries' =>
      unfold Lines.cut
      split
      · rename_i place found
        obtain ⟨start, stop⟩ := valid.found_bounds found
        have fewer : (rest.onFrom (place + separator.length)).size + 1 ≤ rest.size := by
          simp only [size, Stream.onFrom]
          omega
        rw [later (valid.onFrom stop) (by omega) (by omega : _ ≤ tries')]
      · rfl

/-- The first piece, where a separator is found, and the pieces of what is left behind it. -/
theorem Valid.pieces_found (valid : rest.Valid) (nonempty : separator ≠ []) {place : Nat}
    (found : rest.findText? separator rest.start = some (some place)) :
    Lines.pieces ⟨rest, separator, []⟩ =
      rest.upTo place :: Lines.pieces ⟨rest.onFrom (place + separator.length), separator, []⟩ := by
  have bare : separator.isEmpty = false := by simpa using nonempty
  obtain ⟨start, stop⟩ := valid.found_bounds found
  have some := List.length_pos_iff.mpr nonempty
  have after := valid.onFrom stop
  have more : rest.size = rest.size - 1 + 1 := by
    simp only [size]
    omega
  unfold Lines.pieces
  simp only [bare, Bool.false_eq_true, if_false]
  rw [more, Lines.cut, found]
  dsimp only
  rw [after.cut_enough nonempty _ (Nat.le_refl _)]
  simp only [size, Stream.onFrom]
  omega

theorem pieces_last (nonempty : separator ≠ [])
    (absent : ∀ place, rest.findText? separator rest.start ≠ some (some place)) :
    Lines.pieces ⟨rest, separator, []⟩ = [rest] := by
  have bare : separator.isEmpty = false := by simpa using nonempty
  unfold Lines.pieces
  simp only [bare, Bool.false_eq_true, if_false]
  cases rest.size with
  | zero => rfl
  | succ tries =>
    unfold Lines.cut
    split
    · rename_i place found
      exact absurd found (absent place)
    · rfl

theorem pieces_units (some : rest.start < rest.stop) :
    Lines.pieces ⟨rest, [], []⟩ = rest.between rest.start (rest.start + 1) ::
      Lines.pieces ⟨rest.onFrom (rest.start + 1), [], []⟩ := by
  have more : rest.size = (rest.onFrom (rest.start + 1)).size + 1 := by
    simp only [size, Stream.onFrom]
    omega
  simp only [Lines.pieces, List.isEmpty_nil, if_true]
  rw [more, List.range_succ_eq_map, List.map_cons, List.map_map]
  congr 1
  apply List.map_congr_left
  intro offset _
  simp only [Function.comp_apply, Stream.onFrom, between, Nat.succ_eq_add_one]
  congr 1 <;> omega

theorem pieces_empty (empty : rest.start = rest.stop) : Lines.pieces ⟨rest, [], []⟩ = [] := by
  have none : rest.size = 0 := by
    simp only [size]
    omega
  simp only [Lines.pieces, List.isEmpty_nil, if_true, none, List.range_zero, List.map_nil]

/-- The same window on a buffer that may have grown since. -/
structure Grown (first second : Stream) : Prop where
  start : second.start = first.start
  stop : second.stop = first.stop
  startForm : second.startForm = first.startForm
  stopForm : second.stopForm = first.stopForm
  backing : second.buffer.backing = first.buffer.backing
  units : first.buffer.units <+: second.buffer.units

namespace Grown

theorem unit (grown : first.Grown second) : second.unit = first.unit := by
  rw [Stream.unit, Stream.unit, Buffer.unit, Buffer.unit, grown.backing]

theorem valid (grown : first.Grown second) (valid : first.Valid) : second.Valid := by
  have longer := grown.units.length_le
  have reach := valid.stop_le_size
  refine ⟨?_, ?_⟩
  · rw [grown.start, grown.stop]
    exact valid.start_le_stop
  · rw [grown.stop]
    exact Nat.le_trans reach longer

/-- What stands between places of the old buffer stands there still. -/
theorem between (grown : first.Grown second) (valid : first.Valid) (place : Nat) :
    second.buffer.between place second.stop = first.buffer.between place first.stop := by
  obtain ⟨more, same⟩ := grown.units
  have reach := valid.stop_le_size
  rw [grown.stop]
  unfold Buffer.between
  rw [← same]
  by_cases inside : place ≤ first.buffer.units.length
  · rw [List.drop_append_of_le_length inside, List.take_append_of_le_length]
    rw [List.length_drop]
    exact Nat.sub_le_sub_right reach place
  · have none : first.stop - place = 0 := by
      simp only [Buffer.size] at reach
      omega
    rw [none, List.take_zero, List.take_zero]

theorem content (grown : first.Grown second) (valid : first.Valid) :
    second.content = first.content := by
  rw [content_eq_between, content_eq_between, grown.start]
  exact grown.between valid first.start

theorem findText? (grown : first.Grown second) (valid : first.Valid) :
    second.findText? separator second.start = first.findText? separator first.start := by
  have after := grown.valid valid
  rw [valid.findText?_eq separator valid.start_le_stop,
    after.findText?_eq separator after.start_le_stop, grown.between valid, grown.start]

theorem upTo (grown : first.Grown second) (place : Nat) :
    (first.upTo place).Grown (second.upTo place) :=
  ⟨grown.start, rfl, grown.startForm, rfl, grown.backing, grown.units⟩

theorem onFrom (grown : first.Grown second) (place : Nat) :
    (first.onFrom place).Grown (second.onFrom place) :=
  ⟨rfl, grown.stop, rfl, grown.stopForm, grown.backing, grown.units⟩

/-- Cutting a window of a buffer that has grown gives the same pieces. -/
theorem cut (grown : first.Grown second) (valid : first.Valid) (tries : Nat) :
    List.Forall₂ Grown (Lines.cut separator tries first) (Lines.cut separator tries second) := by
  induction tries generalizing first second with
  | zero => exact .cons grown .nil
  | succ tries later =>
    unfold Lines.cut
    rw [grown.findText? valid]
    split
    · rename_i place found
      obtain ⟨-, stop⟩ := valid.found_bounds found
      exact .cons (grown.upTo place) (later (grown.onFrom _) (valid.onFrom stop))
    · exact .cons grown .nil

theorem pieces (grown : first.Grown second) (valid : first.Valid) :
    List.Forall₂ Grown (Lines.pieces ⟨first, separator, []⟩)
      (Lines.pieces ⟨second, separator, []⟩) := by
  have same : second.size = first.size := by rw [size, size, grown.start, grown.stop]
  unfold Lines.pieces
  dsimp only
  rw [same]
  split
  · rw [List.forall₂_map_left_iff, List.forall₂_map_right_iff, List.forall₂_same, grown.start]
    exact fun offset _ => ⟨rfl, rfl, rfl, rfl, grown.backing, grown.units⟩
  · exact grown.cut valid _

end Grown

end TextScan.Stream
