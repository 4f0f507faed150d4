import TextScan.Proofs.Iteration
import TextScan.Proofs.Occurrence

namespace TextScan

open Scan

namespace Stream

/-- A window cut at the separator that stands first in it, and so on with what is left behind
that, up to where none stands. -/
inductive Parts (separator : List Nat) : Stream → List Stream → Prop
  | last {rest : Stream} (absent : ∀ offset, ¬Occurs separator rest.content offset) :
    Parts separator rest [rest]
  | cut {rest : Stream} {offset : Nat} {views : List Stream}
      (first : IsLeast { offset | Occurs separator rest.content offset } offset)
      (later : Parts separator (rest.onFrom (rest.start + offset + separator.length)) views) :
    Parts separator rest (rest.upTo (rest.start + offset) :: views)

/-- The split of a window at a separator, told by the places of its pieces. -/
structure Split (whole : Stream) (separator : List Nat) (views : List Stream) : Prop where
  inside : ∀ view ∈ views, view.buffer = whole.buffer ∧ whole.start ≤ view.start ∧
    view.start ≤ view.stop ∧ view.stop ≤ whole.stop
  head : ∃ first, views.head? = some first ∧ first.start = whole.start
  next : ∀ place view behind, views[place]? = some view → views[place + 1]? = some behind →
    behind.start = view.stop + separator.length ∧
      whole.buffer.between view.stop behind.start = separator ∧
      IsLeast { offset | Occurs separator (whole.buffer.between view.start whole.stop) offset }
        (view.stop - view.start)
  last : ∃ last, views.getLast? = some last ∧ last.stop = whole.stop ∧
    ∀ offset, ¬Occurs separator last.content offset
  free : ∀ view ∈ views, ¬separator <:+: view.content
  joined : separator.intercalate (views.map content) = whole.content
  trailing : ∀ place view behind, views[place]? = some view → views[place + 1]? = some behind →
    view.stop + separator.length = whole.stop →
      behind.content = [] ∧ views.getLast? = some behind

variable {whole rest : Stream} {separator : List Nat} {views : List Stream} {offset : Nat}

theorem Valid.occurs_inside (valid : rest.Valid) (stands : Occurs separator rest.content offset) :
    rest.start + offset + separator.length ≤ rest.stop := by
  have fits := stands.fits
  have bounds := valid.start_le_stop
  rw [valid.length_content, size] at fits
  omega

theorem content_upTo (inside : rest.start + offset ≤ rest.stop) :
    (rest.upTo (rest.start + offset)).content = rest.content.take offset := by
  rw [content_eq_between, content_eq_between, Buffer.take_between, Nat.min_eq_left inside]
  rfl

theorem content_onFrom (rest : Stream) (offset : Nat) :
    (rest.onFrom (rest.start + offset)).content = rest.content.drop offset := by
  rw [← between_eq_drop]
  rfl

theorem Valid.parts (valid : rest.Valid) (nonempty : separator ≠ []) :
    Parts separator rest (Lines.pieces ⟨rest, separator, []⟩) := by
  generalize bound : rest.size = size
  induction size using Nat.strongRecOn generalizing rest with
  | ind size shorter =>
    have searched := valid.findText?_eq separator valid.start_le_stop
    rw [← content_eq_between] at searched
    cases found : find? separator rest.content with
    | none =>
      rw [found] at searched
      rw [pieces_last nonempty fun place same => by cases searched.symm.trans same]
      exact .last (find?_absent found)
    | some offset =>
      rw [found] at searched
      have first := find?_least found
      have stop := valid.occurs_inside first.1
      have some := List.length_pos_iff.mpr nonempty
      rw [valid.pieces_found nonempty searched]
      refine .cut first (shorter _ ?_ (valid.onFrom stop) rfl)
      rw [← bound]
      simp only [Stream.size, Stream.onFrom]
      omega

namespace Parts

theorem head (parts : Parts separator rest views) :
    ∃ first, views.head? = some first ∧ first.start = rest.start := by
  cases parts with
  | last absent => exact ⟨rest, rfl, rfl⟩
  | cut first later => exact ⟨_, rfl, rfl⟩

theorem inside (parts : Parts separator rest views) (valid : rest.Valid) :
    ∀ view ∈ views, view.buffer = rest.buffer ∧ rest.start ≤ view.start ∧
      view.start ≤ view.stop ∧ view.stop ≤ rest.stop := by
  induction parts with
  | last absent =>
    rw [List.forall_mem_singleton]
    exact ⟨rfl, Nat.le_refl _, valid.start_le_stop, Nat.le_refl _⟩
  | @cut rest offset views first later ih =>
    have stop := valid.occurs_inside first.1
    have behind := ih (valid.onFrom stop)
    rw [List.forall_mem_cons]
    refine ⟨⟨rfl, Nat.le_refl _, Nat.le_add_right _ _, ?_⟩, ?_⟩
    · simp only [Stream.upTo]
      omega
    · intro view member
      obtain ⟨buffer, start, ordered, last⟩ := behind view member
      refine ⟨buffer, ?_, ordered, last⟩
      simp only [Stream.onFrom] at start
      omega

/-- Between two parts there is just a separator, and none stands before it. -/
theorem next (parts : Parts separator rest views) (valid : rest.Valid) {place : Nat}
    {view behind : Stream} (here : views[place]? = some view)
    (there : views[place + 1]? = some behind) :
    behind.start = view.stop + separator.length ∧
      rest.buffer.between view.stop behind.start = separator ∧
      IsLeast { offset | Occurs separator (rest.buffer.between view.start rest.stop) offset }
        (view.stop - view.start) := by
  induction parts generalizing place with
  | last absent =>
    rw [List.getElem?_cons_succ] at there
    cases there
  | @cut rest offset views first later ih =>
    have stop := valid.occurs_inside first.1
    rw [List.getElem?_cons_succ] at there
    cases place with
    | succ place => exact ih (valid.onFrom stop) here there
    | zero =>
      cases here
      obtain ⟨head, found, start⟩ := later.head
      rw [List.head?_eq_getElem?] at found
      cases found.symm.trans there
      refine ⟨start, ?_, ?_⟩
      · rw [start]
        have taken := first.1.taken
        rw [← between_eq_drop, Buffer.take_between, Nat.min_eq_left stop] at taken
        exact taken
      · have same : (rest.upTo (rest.start + offset)).stop -
            (rest.upTo (rest.start + offset)).start = offset := Nat.add_sub_cancel_left ..
        rw [same]
        exact first

theorem last_stop (parts : Parts separator rest views) :
    ∃ last, views.getLast? = some last ∧ last.stop = rest.stop ∧
      ∀ offset, ¬Occurs separator last.content offset := by
  induction parts with
  | last absent => exact ⟨_, rfl, rfl, absent⟩
  | @cut rest offset views first later ih =>
    obtain ⟨last, found, stop, absent⟩ := ih
    refine ⟨last, ?_, stop, absent⟩
    rw [List.getLast?_cons, found]
    rfl

/-- No separator stands in a part: one that stands before the first one would be earlier. -/
theorem free (parts : Parts separator rest views) (valid : rest.Valid) (nonempty : separator ≠ []) :
    ∀ view ∈ views, ¬separator <:+: view.content := by
  induction parts with
  | last absent =>
    rw [List.forall_mem_singleton]
    intro occurs
    obtain ⟨offset, stands⟩ := infix_iff_occurs.mp occurs
    exact absent offset stands
  | @cut rest offset views first later ih =>
    have stop := valid.occurs_inside first.1
    rw [List.forall_mem_cons]
    refine ⟨?_, ih (valid.onFrom stop)⟩
    intro occurs
    obtain ⟨earlier, stands⟩ := infix_iff_occurs.mp occurs
    have some := List.length_pos_iff.mpr nonempty
    rw [content_upTo (Nat.le_of_add_right_le stop)] at stands
    have fits := stands.fits
    have least := first.2 (stands.longer (List.take_prefix _ _))
    rw [List.length_take] at fits
    omega

theorem joined (parts : Parts separator rest views) (valid : rest.Valid) :
    separator.intercalate (views.map content) = rest.content := by
  induction parts with
  | last absent => exact List.intercalate_singleton
  | @cut rest offset views first later ih =>
    have stop := valid.occurs_inside first.1
    have some : views.map content ≠ [] := by
      obtain ⟨head, found, -⟩ := later.head
      intro none
      rw [List.map_eq_nil_iff.mp none] at found
      cases found
    rw [List.map_cons, List.intercalate_cons_of_ne_nil some, ih (valid.onFrom stop),
      content_upTo (Nat.le_of_add_right_le stop), Nat.add_assoc, content_onFrom]
    -- what is cut off, the separator and what is left are the content in a row
    calc
      rest.content.take offset ++ separator ++ rest.content.drop (offset + separator.length) =
          rest.content.take offset ++ ((rest.content.drop offset).take separator.length ++
            (rest.content.drop offset).drop separator.length) := by
        rw [first.1.taken, List.drop_drop, List.append_assoc]
      _ = rest.content := by rw [List.take_append_drop, List.take_append_drop]

theorem split (parts : Parts separator whole views) (valid : whole.Valid)
    (nonempty : separator ≠ []) : whole.Split separator views := by
  refine ⟨parts.inside valid, parts.head, ?_, parts.last_stop, parts.free valid nonempty,
    parts.joined valid, ?_⟩
  · intro place view behind here there
    exact parts.next valid here there
  · intro place view behind here there stop
    obtain ⟨start, -, -⟩ := parts.next valid here there
    obtain ⟨buffer, -, ordered, inside⟩ := parts.inside valid behind (List.mem_of_getElem? there)
    have empty : behind.start = behind.stop := by omega
    refine ⟨?_, ?_⟩
    · rw [content, size, empty, Nat.sub_self, List.take_zero]
    · rw [List.getLast?_eq_getElem?]
      cases more : views[place + 1 + 1]? with
      | none =>
        have long := (List.getElem?_eq_some_iff.mp there).1
        have short := List.getElem?_eq_none_iff.mp more
        have last : views.length - 1 = place + 1 := by omega
        rw [last]
        exact there
      | some further =>
        -- a further piece would start behind the end
        obtain ⟨start', -, -⟩ := parts.next valid there more
        obtain ⟨-, -, ordered', inside'⟩ :=
          parts.inside valid further (List.mem_of_getElem? more)
        have some := List.length_pos_iff.mpr nonempty
        omega

end Parts

/-- A window on each unit of a window, in order. -/
structure Units (whole : Stream) (views : List Stream) : Prop where
  count : views.length = whole.size
  each : ∀ offset code, whole.content[offset]? = some code →
    ∃ view, views[offset]? = some view ∧ whole.On ⟨offset, offset + 1⟩ view ∧ view.content = [code]

theorem Valid.units (valid : whole.Valid) (forms : List NumberForm) :
    whole.Units (Lines.pieces ⟨whole, [], forms⟩) := by
  simp only [Lines.pieces, List.isEmpty_nil, if_true]
  refine ⟨by rw [List.length_map, List.length_range], ?_⟩
  intro offset code there
  have inside := (List.getElem?_eq_some_iff.mp there).1
  have on : whole.On ⟨offset, offset + 1⟩
      (whole.between (whole.start + offset) (whole.start + offset + 1)) :=
    on_between (Nat.le_succ offset) inside
  refine ⟨_, ?_, on, ?_⟩
  · rw [List.getElem?_map, List.getElem?_range (valid.length_content ▸ inside)]
    rfl
  · rw [on.content valid, Nat.add_sub_cancel_left, List.take_one, List.head?_drop, there]
    rfl

end Stream

namespace Session

variable {earlier session : Session} {window : Cursor} {separator : List Nat}
  {forms : List NumberForm} {on : String}

/-- A walk over lines tells the lines of the window as it was at any earlier time, each in turn,
and then that it is at its end. -/
theorem lines_told (holds : earlier.store.Holds window)
    (onward : earlier.store.Extends session.store) (sound : session.Sound)
    (held : session.lookup on = .ok (.lines window separator forms)) (name : String)
    {steps : List Step} :
    let id := session.store.walks.length
    let begun := (session.act (.walk on) (some name)).1
    AlongAll (Leaves id) begun steps →
      Tells (lineResults window.buffer
        (Lines.toList ⟨earlier.store.stream window, separator, forms⟩)) (heard id begun steps) := by
  intro id begun leaves
  obtain ⟨-, still, onward', walking⟩ := act_walk sound (walk_lines held) name
  obtain ⟨final, -, follows⟩ := run_follows still walking steps leaves
  exact follows.tells_lines holds (onward.trans onward') forms

theorem walks_unmoved (sound : session.Sound)
    (apart : ∀ id, session.registers.lookup on ≠ some (.stream id)) (name : Option String)
    {id : Nat} (there : session.store.cursors[id]? = some window) :
    (session.act (.walk on) name).1.store.cursors[id]? = some window ∧
      (session.act (.next on) name).1.store.cursors[id]? = some window :=
  ⟨(act_spares sound (.walk on) name).cursors id window (apart id) there,
    (act_spares sound (.next on) name).cursors id window (apart id) there⟩

/-- The lines of a stream are what stands between its separators, found from the front and without
overlap; an empty window has none, and no separator makes each unit a line. The stream is left as
it is, and each walk over its lines tells all of them and then ends. -/
theorem lines_split :
    (∀ (stream : Stream) (environment : Environment) (separator : Value) (codes : List Nat),
      stream.Valid → stream.unit.text (environment.separating separator) = .ok codes →
      ∃ forms, stream.perform environment (.lines separator) =
          .ok (.value (.lines ⟨stream, codes, forms⟩), stream) ∧
        let views := Lines.toList ⟨stream, codes, forms⟩
        (stream.start = stream.stop → views = []) ∧
        (codes ≠ [] → stream.start < stream.stop → stream.Split codes views) ∧
        (codes = [] → stream.Units views)) ∧
    (∀ (session : Session) (on : String) (window : Cursor) (separator : List Nat)
      (forms : List NumberForm) (between : List Step), session.Sound →
      session.lookup on = .ok (.lines window separator forms) →
      let later := (session.run between).1
      later.lookup on = .ok (.lines window separator forms) → ∀ (name : String) (steps : List Step),
      let id := later.store.walks.length
      let begun := (later.act (.walk on) (some name)).1
      AlongAll (Leaves id) begun steps →
        Tells (lineResults window.buffer
          (Lines.toList ⟨session.store.stream window, separator, forms⟩))
          (heard id begun steps)) ∧
    ∀ (session : Session) (on : String) (name : Option String) (id : Nat) (window : Cursor),
      session.Sound → (∀ id, session.registers.lookup on ≠ some (.stream id)) →
      session.store.cursors[id]? = some window →
      (session.act (.walk on) name).1.store.cursors[id]? = some window ∧
        (session.act (.next on) name).1.store.cursors[id]? = some window := by
  refine ⟨?_, ?_, ?_⟩
  · intro stream environment separator codes valid read
    refine ⟨stream.unit.forms (environment.separating separator), ?_, ?_, ?_, ?_⟩
    · rw [Stream.perform, read]
      rfl
    · intro empty
      have none : stream.isEmpty = true := beq_iff_eq.mpr empty
      exact if_pos none
    · intro nonempty some
      have held : ¬stream.isEmpty = true := fun empty => Nat.ne_of_lt some (beq_iff_eq.mp empty)
      unfold Lines.toList
      rw [if_neg held]
      exact (valid.parts nonempty).split valid nonempty
    · rintro rfl
      unfold Lines.toList
      split
      · rename_i empty
        have same : stream.start = stream.stop := beq_iff_eq.mp empty
        have none : stream.size = 0 := by rw [Stream.size, same, Nat.sub_self]
        refine ⟨none.symm, ?_⟩
        intro offset code there
        have inside := (List.getElem?_eq_some_iff.mp there).1
        rw [valid.length_content, none] at inside
        exact absurd inside (Nat.not_lt_zero offset)
      · exact valid.units _
  · intro session on window separator forms between sound held later still name steps id begun
      leaves
    obtain ⟨-, sound', onward⟩ := run_lawful sound between
    exact lines_told (sound.lookup held) onward sound' still name leaves
  · intro session on name id window sound apart there
    exact walks_unmoved sound apart name there

/-- Three units that are alike, and their lines between pairs of them. -/
def pairsHeld : List Step :=
  [.act (.create [.value (.bytes [97, 97, 97])]) (some "s"),
    .act (.call "s" .lines [.value (.bytes [97, 97])]) (some "l")]

def pairsAsked : List Step :=
  [.act (.next "i") none, .act (.next "i") none, .act (.next "i") none]

/-- The first two of three units that are alike are the separator, and the third one is a line,
also when the stream has moved on before it is walked over. -/
theorem lines_split_pairs :
    let stream := Stream.ofBuffer (.ofBytes [97, 97, 97])
    let session := ((start "linux").run pairsHeld).1
    let later := (session.run [.act (.call "s" .drop [.value (.int 2)]) none]).1
    let begun := (later.act (.walk "l") (some "i")).1
    stream.Valid ∧ stream.Split [97, 97] [stream.upTo 0, stream.onFrom 2] ∧
      (∃ window forms, session.lookup "l" = .ok (.lines window [97, 97] forms) ∧
        Tells (lineResults window.buffer
          (Lines.toList ⟨session.store.stream window, [97, 97], forms⟩))
          (heard 0 begun pairsAsked)) ∧
      (heard 0 begun pairsAsked).length = 3 ∧
      begun.store.cursors[0]? = later.store.cursors[0]? := by
  have valid := Stream.ofBuffer_valid (.ofBytes [97, 97, 97])
  have sound : ((start "linux").run pairsHeld).1.Sound := (run_windows "linux" pairsHeld).2
  have after := (run_lawful sound [.act (.call "s" .drop [.value (.int 2)]) none]).2.1
  obtain ⟨forms, -, -, pieces, -⟩ := lines_split.1 _ ⟨Config.default, "linux"⟩ (.bytes [97, 97])
    [97, 97] valid rfl
  refine ⟨valid, pieces (by decide) (by decide), ⟨_, _, rfl, ?_⟩, by decide +kernel, ?_⟩
  · refine lines_split.2.1 _ "l" _ _ _ _ sound rfl rfl "i" pairsAsked ?_
    unfold pairsAsked
    simp only [AlongAll, Along, Leaves]
    decide +kernel
  · refine (lines_split.2.2 _ "l" (some "i") 0 _ after ?_ rfl).1
    intro id same
    cases same

end Session

end TextScan
