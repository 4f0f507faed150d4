import Mathlib.Data.List.Forall2
import TextScan.Proofs.Reply
import TextScan.Proofs.Window

/-! Where a window lies in another one on the same buffer, told by the span of the content
it shows. Cutting a window, narrowing it and splitting it into lines give windows on spans
that depend on the content alone. -/

namespace TextScan

open Scan

namespace Stream

/-- A window on the same buffer that lies on a span of another one. -/
structure On (whole : Stream) (span : Span) (window : Stream) : Prop where
  buffer : window.buffer = whole.buffer
  start : window.start = whole.start + span.low
  stop : window.stop = whole.start + span.high
  ordered : span.low ≤ span.high
  inside : span.high ≤ whole.content.length

variable {whole window : Stream} {span : Span}

theorem On.valid (on : whole.On span window) (valid : whole.Valid) : window.Valid := by
  have ordered := on.ordered
  have inside := on.inside
  have reach := valid.stop_le_size
  have bounds := valid.start_le_stop
  rw [valid.length_content, size] at inside
  constructor
  · rw [on.start, on.stop]
    omega
  · rw [on.stop, on.buffer]
    omega

theorem On.content (on : whole.On span window) (valid : whole.Valid) :
    window.content = (whole.content.drop span.low).take (span.high - span.low) := by
  have ordered := on.ordered
  have inside := on.inside
  have bounds := valid.start_le_stop
  rw [valid.length_content, size] at inside
  rw [content_eq_between, content_eq_between, on.buffer, on.start, on.stop,
    Buffer.drop_between, Buffer.take_between]
  congr 1
  omega

theorem On.length_content (on : whole.On span window) (valid : whole.Valid) :
    window.content.length = span.high - span.low := by
  have inside := on.inside
  rw [on.content valid, List.length_take, List.length_drop]
  omega

theorem Valid.on_whole (valid : whole.Valid) : whole.On (Content.whole whole.content) whole := by
  have bounds := valid.start_le_stop
  refine ⟨rfl, rfl, ?_, Nat.zero_le _, Nat.le_refl _⟩
  simp only [Content.whole, valid.length_content, size]
  omega

theorem on_between {low high : Nat} (ordered : low ≤ high)
    (inside : high ≤ whole.content.length) :
    whole.On ⟨low, high⟩ (whole.between (whole.start + low) (whole.start + high)) :=
  ⟨rfl, rfl, rfl, ordered, inside⟩

theorem on_upTo {high : Nat} (inside : high ≤ whole.content.length) :
    whole.On ⟨0, high⟩ (whole.upTo (whole.start + high)) :=
  ⟨rfl, rfl, rfl, Nat.zero_le _, inside⟩

theorem Valid.on_onFrom (valid : whole.Valid) {low : Nat}
    (inside : low ≤ whole.content.length) :
    whole.On ⟨low, whole.content.length⟩ (whole.onFrom (whole.start + low)) := by
  have on := valid.on_whole
  exact ⟨rfl, rfl, on.stop, inside, Nat.le_refl _⟩

theorem On.within {outer inner : Span} {window rest : Stream} (valid : whole.Valid)
    (on : whole.On outer window) (on' : window.On inner rest) :
    whole.On ⟨outer.low + inner.low, outer.low + inner.high⟩ rest := by
  have ordered := on'.ordered
  have inside := on'.inside
  have bound := on.inside
  have length := (on.valid valid).length_content
  rw [size, on.start, on.stop] at length
  refine ⟨on'.buffer.trans on.buffer, ?_, ?_, ?_, ?_⟩
  · rw [on'.start, on.start, Nat.add_assoc]
  · rw [on'.stop, on.start, Nat.add_assoc]
  · dsimp only
    omega
  · have outerOrdered := on.ordered
    dsimp only
    omega

/-- Two windows that lie on two spans. -/
def OnBoth (whole : Stream) (spans : Span × Span) (windows : Stream × Stream) : Prop :=
  whole.On spans.1 windows.1 ∧ whole.On spans.2 windows.2

theorem Valid.onBoth_cutAt (valid : whole.Valid) {offset : Nat}
    (inside : offset ≤ whole.content.length) :
    whole.OnBoth (Content.cutAt whole.content offset)
      (whole.upTo (whole.start + offset), whole.onFrom (whole.start + offset)) :=
  ⟨on_upTo inside, valid.on_onFrom inside⟩

theorem On.reaches {low : Nat} (on : whole.On ⟨low, whole.content.length⟩ window)
    (valid : whole.Valid) : low + window.content.length = whole.content.length := by
  have ordered := on.ordered
  rw [on.length_content valid]
  exact Nat.add_sub_cancel' ordered

theorem Valid.cut_on (valid : whole.Valid) {separator : List Nat} (nonempty : separator ≠ [])
    {tries low : Nat} {rest : Stream} (on : whole.On ⟨low, whole.content.length⟩ rest)
    (enough : rest.content.length ≤ tries) :
    List.Forall₂ whole.On (spansFrom separator low rest.content)
      (Lines.cut separator tries rest) := by
  have last {low : Nat} {rest : Stream} (on : whole.On ⟨low, whole.content.length⟩ rest) :
      List.Forall₂ whole.On [⟨low, low + rest.content.length⟩] [rest] := by
    rw [on.reaches valid]
    exact .cons on .nil
  induction tries generalizing low rest with
  | zero =>
    have empty : rest.content = [] := List.length_eq_zero_iff.mp (Nat.le_zero.mp enough)
    have absent : find? separator rest.content = none := by
      rw [empty]
      exact find?_short (List.length_pos_iff.mpr nonempty)
    rw [spansFrom_none low absent]
    exact last on
  | succ tries ih =>
    have inside := on.valid valid
    unfold Lines.cut
    rw [inside.findText?_eq separator inside.start_le_stop, ← content_eq_between]
    cases found : find? separator rest.content with
    | none =>
      rw [spansFrom_none low found]
      exact last on
    | some offset =>
      have fits := find?_fits found
      have some := List.length_pos_iff.mpr nonempty
      have piece := on.within valid (on_upTo (find?_le found))
      have later := on.within valid (inside.on_onFrom fits)
      rw [on.reaches valid, ← Nat.add_assoc, ← Nat.add_assoc] at later
      have shorter := later.reaches valid
      have all := on.reaches valid
      dsimp only at shorter
      have behind : (rest.onFrom (rest.start + offset + separator.length)).content =
          rest.content.drop (offset + separator.length) := by
        rw [← between_eq_drop, ← Nat.add_assoc]
        rfl
      have lines := ih later (by omega)
      rw [behind] at lines
      rw [spansFrom_some low nonempty found]
      exact .cons piece lines

/-- The spans of the pieces between separators, in what is left from an offset on. -/
theorem Valid.pieces_on (valid : whole.Valid) (separator : List Nat) (forms : List NumberForm)
    {low : Nat} {rest : Stream} (on : whole.On ⟨low, whole.content.length⟩ rest) :
    List.Forall₂ whole.On (pieceSpans separator low rest.content)
      (Lines.pieces ⟨rest, separator, forms⟩) := by
  have inside := on.valid valid
  unfold pieceSpans Lines.pieces
  rw [inside.length_content]
  dsimp only
  split
  · rw [List.forall₂_map_left_iff, List.forall₂_map_right_iff, List.forall₂_same]
    intro offset member
    have held := List.mem_range.mp member
    rw [← inside.length_content] at held
    have piece := on.within valid (on_between (Nat.le_succ offset) held)
    simpa only [Nat.add_assoc] using piece
  · rename_i nonempty
    rw [← inside.length_content]
    exact valid.cut_on (by simpa using nonempty) on (Nat.le_refl _)

/-- The lines of a window lie on the spans of its lines. -/
theorem Valid.lines_on (valid : whole.Valid) (separator : List Nat) (forms : List NumberForm) :
    List.Forall₂ whole.On (lineSpans separator whole.content)
      (Lines.toList ⟨whole, separator, forms⟩) := by
  rw [lineSpans_eq, valid.isEmpty_content]
  unfold Lines.toList
  dsimp only
  split
  · exact .nil
  · exact valid.pieces_on separator forms valid.on_whole

theorem on_pairs {other : Stream} {related : Span → Span → Prop} {spans spans' : List Span}
    {pieces pieces' : List Stream} (same : List.Forall₂ related spans spans')
    (on : List.Forall₂ whole.On spans pieces) (on' : List.Forall₂ other.On spans' pieces') :
    List.Forall₂ (fun piece piece' => ∃ span span', related span span' ∧
      whole.On span piece ∧ other.On span' piece') pieces pieces' := by
  induction same generalizing pieces pieces' with
  | nil =>
    cases on
    cases on'
    exact .nil
  | cons span rest ih =>
    cases on with
    | cons first later =>
      cases on' with
      | cons first' later' => exact .cons ⟨_, _, span, first, first'⟩ (ih later later')

theorem Valid.piece_on (valid : whole.Valid) {separator : List Nat} {forms : List NumberForm}
    {piece : Stream} (cut : piece ∈ Lines.pieces ⟨whole, separator, forms⟩) :
    ∃ span, whole.On span piece := by
  have pieces := valid.pieces_on separator forms valid.on_whole
  generalize pieceSpans separator 0 whole.content = spans at pieces
  generalize Lines.pieces ⟨whole, separator, forms⟩ = windows at pieces cut
  induction pieces with
  | nil => cases cut
  | @cons span first spans rest on _ ih =>
    rcases List.mem_cons.mp cut with rfl | later
    · exact ⟨span, on⟩
    · exact ih later

theorem Valid.line_on (valid : whole.Valid) {separator : List Nat} {forms : List NumberForm}
    {line : Stream} (cut : line ∈ Lines.toList ⟨whole, separator, forms⟩) :
    ∃ span, whole.On span line := by
  unfold Lines.toList at cut
  split at cut
  · cases cut
  · exact valid.piece_on cut

end Stream

end TextScan
