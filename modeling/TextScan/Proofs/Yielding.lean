import TextScan.Proofs.Coercion
import TextScan.Proofs.Delimiting
import TextScan.Proofs.Partition
import TextScan.Proofs.Sealing
import TextScan.Proofs.Stops
import TextScan.Session.Store

namespace TextScan

namespace Buffer

/-- An item of a format that can be read is the unit that it is taken for. -/
theorem ofUnit_code {format : ItemFormat} {unit : CharUnit} {item : Item}
    (readable : format.unit? = some unit) (admitted : format.admits item = true) :
    Value.ofUnit unit item.code = .ofItem item := by
  have number : unit.isText = false := by
    by_contra text
    rw [Bool.not_eq_false, CharUnit.isText_iff] at text
    exact format.unit?_ne_wide (text ▸ readable)
  cases item with
  | int code =>
    simp only [ItemFormat.admits, readable, Bool.and_eq_true, decide_eq_true_eq] at admitted
    rw [Value.ofUnit, number, if_neg Bool.false_ne_true, Item.code, Value.ofItem,
      Int.toNat_of_nonneg admitted.1]
  | fraction mantissa places => simp [ItemFormat.admits, readable] at admitted
  | char point => simp [ItemFormat.admits, readable] at admitted

theorem map_ofUnit_items {format : ItemFormat} {unit : CharUnit} {items : List Item}
    (readable : format.unit? = some unit) (admitted : items.all format.admits = true) :
    (items.map Item.code).map (.ofUnit unit) = items.map Value.ofItem := by
  rw [List.map_map]
  exact List.map_congr_left fun item member =>
    ofUnit_code readable (List.all_eq_true.mp admitted item member)

theorem map_ofUnit_bytes (bytes : List UInt8) :
    (byteCodes bytes).map (.ofUnit .narrow) = bytes.map fun byte => Value.int byte.toNat := by
  rw [byteCodes, List.map_map]
  rfl

theorem map_ofUnit_codes (text : Text) :
    text.codes.map (.ofUnit .wide) = text.map fun point => Value.text [point] := by
  rw [Text.codes, List.map_map]
  refine List.map_congr_left fun point _ => ?_
  exact congrArg (fun point => Value.text [point]) (Fin.ext (CodePoint.val_ofNat point.isLt))

theorem elements_buffer {value : Value} {buffer : Buffer} (held : value.buffer = .ok buffer) :
    value.elements? = some (buffer.units.map (.ofUnit buffer.unit)) := by
  cases value with
  | text points =>
    cases held
    exact congrArg some (map_ofUnit_codes points).symm
  | bytes codes =>
    cases held
    exact congrArg some (map_ofUnit_bytes codes).symm
  | byteArray codes =>
    cases held
    exact congrArg some (map_ofUnit_bytes codes).symm
  | array typed =>
    rw [Value.buffer] at held
    cases read : typed.format.unit? with
    | none =>
      rw [ofArray?_unread read] at held
      cases held
    | some unit =>
      rw [ofArray?_readable read] at held
      cases held
      exact congrArg some (map_ofUnit_items read typed.admitted).symm
  | memory view =>
    rw [Value.buffer] at held
    split at held
    · cases held
    · rename_i single
      cases read : view.format.unit? with
      | none =>
        rw [ofMemory?_unread read] at held
        cases held
      | some unit =>
        rw [ofMemory?_readable read] at held
        cases held
        have walked : view.dimensions = 1 ∧ view.format.isIndexed = true :=
          ⟨not_not.mp single, ItemFormat.isIndexed_of_unit? read⟩
        rw [Value.elements?, if_pos walked]
        exact congrArg some (map_ofUnit_items read view.admitted).symm
  | _ => cases held

end Buffer

namespace CharUnit

variable {unit : CharUnit} {code : Nat}

/-- One unit, read again as a character, is the character that it was. -/
theorem readChar_ofUnit (bound : code ≤ unit.maxValue) :
    unit.readChar (.ofUnit unit code) = .ok (.ofUnit unit code) := by
  refine readChar_eq_ok.mpr ⟨code, text_ofUnit bound, ?_⟩
  cases unit with
  | _ => rfl

theorem char_ofUnit (bound : code ≤ unit.maxValue) : unit.char (.ofUnit unit code) = .ok code := by
  rw [char, text_ofUnit bound]
  rfl

theorem charset_ofUnit (bound : code ≤ unit.maxValue) :
    unit.charset (.ofUnit unit code) = .ok [code] := by
  rw [← text_ofUnit bound]
  cases unit with
  | _ => rfl

theorem test?_ofUnit : (Value.ofUnit unit code).test? = none := by
  cases unit with
  | _ => rfl

end CharUnit

namespace Stream

open Scan

/-- A character that a stream yields: at its ends, at an offset or by a subscript, among those that
are extracted or listed, or from a walk over it, at whatever part of the window the walk is. -/
inductive Yields (stream : Stream) (char : Value) : Prop where
  | front {environment : Environment} {rest : Stream}
    (given : stream.perform environment .front = .ok (.value char, rest)) (some : char ≠ .null)
  | back {environment : Environment} {rest : Stream}
    (given : stream.perform environment .back = .ok (.value char, rest)) (some : char ≠ .null)
  | at {environment : Environment} {offset : Number} {rest : Stream}
    (given : stream.perform environment (.at offset) = .ok (.value char, rest))
    (some : char ≠ .null)
  | item {environment : Environment} {key : Value} {rest : Stream} (single : key.slice? = none)
    (given : stream.perform environment (.item key) = .ok (.value char, rest))
    (some : char ≠ .null)
  | extract {environment : Environment} {count : Number} {units : List Value} {rest : Stream}
    (given : stream.perform environment (.extract count) = .ok (.value (.tuple units), rest))
    (member : char ∈ units)
  | list {environment : Environment} {units : List Value} {rest : Stream}
    (given : stream.perform environment .toList = .ok (.value (.list units), rest))
    (member : char ∈ units)
  | walk {store : Session.Store} {cursor : Session.Cursor} {later : Session.Walk} {span : Span}
    (part : stream.On span (store.stream cursor))
    (given : store.next? (.units cursor) = some (.value char, later))

variable {stream : Stream} {char : Value} {environment : Environment}

theorem bounded_content {code : Nat} (member : code ∈ stream.content) :
    code ≤ stream.unit.maxValue :=
  stream.buffer.bounded code (List.mem_of_mem_drop (List.mem_of_mem_take member))

theorem unitValue_some {code : Option Nat} (some : stream.unitValue code ≠ .null) :
    ∃ unit, code = Option.some unit ∧ stream.unitValue code = .ofUnit stream.unit unit := by
  cases code with
  | none => exact absurd rfl some
  | some unit => exact ⟨unit, rfl, rfl⟩

theorem Valid.unitAt_some (valid : stream.Valid) {offset : Number}
    (looked : stream.unitAt offset = .ok char) (some : char ≠ .null) :
    ∃ code ∈ stream.content, char = .ofUnit stream.unit code := by
  cases offset with
  | whole offset =>
    cases looked
    obtain ⟨code, found, same⟩ := unitValue_some some
    rw [valid.at?_eq] at found
    obtain ⟨-, held⟩ := Option.ite_none_left_eq_some.mp found
    exact ⟨code, List.mem_of_getElem? held, same⟩
  | decimal mantissa places =>
    unfold unitAt at looked
    dsimp only at looked
    split at looked
    · cases looked
      exact absurd rfl some
    · cases looked

theorem Yields.content (yields : stream.Yields char) (valid : stream.Valid) :
    ∃ code ∈ stream.content, char = .ofUnit stream.unit code := by
  cases yields with
  | front given some =>
    cases given
    obtain ⟨code, found, same⟩ := unitValue_some some
    rw [valid.front?_eq] at found
    exact ⟨code, List.mem_of_head? found, same⟩
  | back given some =>
    cases given
    obtain ⟨code, found, same⟩ := unitValue_some some
    rw [valid.back?_eq] at found
    exact ⟨code, List.mem_of_getLast? found, same⟩
  | «at» given some =>
    obtain ⟨answer, looked, same⟩ := bind_eq_ok.mp given
    cases same
    exact valid.unitAt_some looked some
  | item single given some =>
    obtain ⟨answer, found, same⟩ := bind_eq_ok.mp given
    cases same
    unfold Stream.item at found
    rw [single] at found
    obtain ⟨offset, -, looked⟩ := bind_eq_ok.mp found
    exact valid.unitAt_some looked some
  | @extract environment count units rest given member =>
    obtain ⟨_, -, given⟩ := bind_eq_ok.mp given
    obtain ⟨taken, found, given⟩ := bind_eq_ok.mp given
    cases taken with
    | none => cases given
    | some taken =>
      cases given
      cases count with
      | whole count =>
        have cut := Except.ok.inj found
        rw [valid.extract?_eq] at cut
        obtain ⟨-, same⟩ := Option.ite_none_left_eq_some.mp cut
        cases same
        obtain ⟨code, held, rfl⟩ := List.mem_map.mp member
        exact ⟨code, List.mem_of_mem_take held, rfl⟩
      | decimal mantissa places =>
        unfold extractExactly at found
        dsimp only at found
        split at found
        · cases found
        · cases found
  | list given member =>
    cases given
    obtain ⟨code, held, rfl⟩ := List.mem_map.mp member
    exact ⟨code, held, rfl⟩
  | walk part given =>
    obtain ⟨code, found, same⟩ := Option.map_eq_some_iff.mp given
    cases same
    rw [(part.valid valid).front?_eq] at found
    have member := List.mem_of_head? found
    rw [part.content valid] at member
    refine ⟨code, List.mem_of_mem_drop (List.mem_of_mem_take member), ?_⟩
    rw [unit, unit, part.buffer]

/-- The characters at the ends of a stream, given back to it. -/
structure EndsAccepted (environment : Environment) (stream : Stream) (first last : Value) :
    Prop where
  front : stream.perform environment .front = .ok (.value first, stream)
  back : stream.perform environment .back = .ok (.value last, stream)
  startsWith : stream.perform environment (.startsWith first) = .ok (.value (.bool true), stream)
  startsWithAny :
    stream.perform environment (.startsWithAny first) = .ok (.value (.bool true), stream)
  endsWith : stream.perform environment (.endsWith last) = .ok (.value (.bool true), stream)
  endsWithAny : stream.perform environment (.endsWithAny last) = .ok (.value (.bool true), stream)
  untilFront : ∃ copy, stream.perform environment .copy = .ok (.value (.stream copy), stream) ∧
    ∃ taken rest, copy.perform environment (.takeTo ⟨false, false, false⟩ first) =
      .ok (.value (.stream taken), rest) ∧ taken.isEmpty = true ∧
        stream.Covers ⟨stream.start, stream.stop⟩ rest
  consume : ∃ rest, stream.perform environment (.consume first) = .ok (.value (.bool true), rest) ∧
    stream.Covers ⟨stream.start + 1, stream.stop⟩ rest ∧
      stream.elements = first :: rest.elements

/-- Consuming the front for as long as the stream is not empty, with the characters that stood
there. -/
inductive Consumes (environment : Environment) : Stream → List Value → Stream → Prop where
  | done {stream : Stream}
    (empty : stream.perform environment .isEmpty = .ok (.value (.bool true), stream)) :
    Consumes environment stream [] stream
  | next {stream rest last : Stream} {char : Value} {chars : List Value} {consumed : Bool}
    (some : stream.perform environment .isEmpty = .ok (.value (.bool false), stream))
    (front : stream.perform environment .front = .ok (.value char, stream))
    (consume : stream.perform environment (.consume char) = .ok (.value (.bool consumed), rest))
    (loop : Consumes environment rest chars last) :
    Consumes environment stream (char :: chars) last

theorem Consumes.unique {chars chars' : List Value} {last last' : Stream}
    (loop : Consumes environment stream chars last)
    (other : Consumes environment stream chars' last') : chars = chars' ∧ last = last' := by
  induction loop generalizing chars' last' with
  | done empty =>
    cases other with
    | done _ => exact ⟨rfl, rfl⟩
    | next some _ _ _ => cases empty.symm.trans some
  | next some front consume _ later =>
    cases other with
    | done empty => cases some.symm.trans empty
    | next _ front' consume' loop' =>
      cases front.symm.trans front'
      cases consume.symm.trans consume'
      obtain ⟨rfl, rfl⟩ := later loop'
      exact ⟨rfl, rfl⟩

section Front

variable {code : Nat} {more : List Nat}

theorem coerce_text (member : code ∈ stream.content) :
    stream.coerce (stream.unit.text (.ofUnit stream.unit code)) = .ok [code] :=
  coerce_ok stream (CharUnit.text_ofUnit (bounded_content member))

theorem coerce_charset (member : code ∈ stream.content) :
    stream.coerce (stream.unit.charset (.ofUnit stream.unit code)) = .ok [code] :=
  coerce_ok stream (CharUnit.charset_ofUnit (bounded_content member))

theorem Valid.consume_front (valid : stream.Valid) (units : stream.content = code :: more) :
    stream.perform environment (.consume (.ofUnit stream.unit code)) =
      .ok (.value (.bool true), stream.onFrom (stream.start + 1)) := by
  have member : code ∈ stream.content := units ▸ List.mem_cons_self
  have read := coerce_ok stream (CharUnit.char_ofUnit (bounded_content member))
  have opens : stream.front? = some code := by rw [valid.front?_eq, units, List.head?_cons]
  rw [perform, read]
  dsimp only [bind, Except.bind]
  rw [consume?, if_pos opens]
  rfl

theorem Valid.rest_front (valid : stream.Valid) (units : stream.content = code :: more) :
    (stream.onFrom (stream.start + 1)).Valid ∧
      (stream.onFrom (stream.start + 1)).content = more := by
  have left := valid.on_onFrom (by simp [units] : 1 ≤ stream.content.length)
  refine ⟨left.valid valid, ?_⟩
  rw [left.content valid, units]
  simp

theorem Valid.until_front (valid : stream.Valid) (units : stream.content = code :: more) :
    ∃ taken rest, stream.perform environment
        (.takeTo ⟨false, false, false⟩ (.ofUnit stream.unit code)) =
          .ok (.value (.stream taken), rest) ∧
      taken.isEmpty = true ∧ stream.Covers ⟨stream.start, stream.stop⟩ rest := by
  have member : code ∈ stream.content := units ▸ List.mem_cons_self
  have sought : stream.unit.sought false (.ofUnit stream.unit code) = .ok (.text [code]) := by
    rw [CharUnit.sought, if_neg Bool.false_ne_true, CharUnit.test?_ofUnit]
    dsimp only
    rw [CharUnit.text_ofUnit (bounded_content member)]
    rfl
  have found : (Scan.Sought.text [code]).find? stream.content = some 0 := by
    rw [Scan.Sought.find?, units, Scan.find?_cons, if_pos (by simp)]
  obtain ⟨taken, rest, done, cuts⟩ :=
    valid.perform_takeTo environment ⟨false, false, false⟩ sought
  rw [if_neg Bool.false_ne_true, found] at cuts
  refine ⟨taken, rest, done, ?_, cuts.rest.buffer, cuts.rest.start, ?_⟩
  · rw [isEmpty, beq_iff_eq, cuts.taken.start, cuts.taken.stop]
    rfl
  · exact cuts.rest.stop.trans valid.on_whole.stop.symm

theorem Valid.endsAccepted (valid : stream.Valid) (some : stream.isEmpty = false)
    (environment : Environment) : ∃ first last, EndsAccepted environment stream first last := by
  have nonempty : stream.content ≠ [] := by
    rw [← valid.isEmpty_content] at some
    simpa using some
  obtain ⟨code, more, units⟩ := List.exists_cons_of_ne_nil nonempty
  obtain ⟨before, final, ends⟩ := (List.eq_nil_or_concat' stream.content).resolve_left nonempty
  have opens : stream.front? = .some code := by rw [valid.front?_eq, units, List.head?_cons]
  have closes : stream.back? = .some final := by rw [valid.back?_eq, ends, List.getLast?_concat]
  have first : code ∈ stream.content := units ▸ List.mem_cons_self
  have last : final ∈ stream.content := by simp [ends]
  obtain ⟨still, content⟩ := valid.rest_front units
  refine ⟨.ofUnit stream.unit code, .ofUnit stream.unit final, ?_, ?_, ?_, ?_, ?_, ?_, ?_, ?_⟩
  · rw [perform, opens]
    rfl
  · rw [perform, closes]
    rfl
  · rw [perform, coerce_text first]
    dsimp only [bind, Except.bind]
    rw [valid.startsWith_eq, units]
    simp [searched, pure, Except.pure]
  · rw [perform, opens, isAnyOf, coerce_charset first]
    simp [bind, Except.bind, pure, Except.pure]
  · rw [perform, coerce_text last]
    dsimp only [bind, Except.bind]
    rw [valid.endsWith_eq, ends]
    simp [searched, pure, Except.pure]
  · rw [perform, closes, isAnyOf, coerce_charset last]
    simp [bind, Except.bind, pure, Except.pure]
  · exact ⟨stream, rfl, valid.until_front units⟩
  · refine ⟨_, valid.consume_front units, ⟨rfl, rfl, rfl⟩, ?_⟩
    rw [elements, elements, content, units]
    rfl

end Front

/-- The loop ends at the stop, after each character in order. -/
theorem Valid.consumes (valid : stream.Valid) (environment : Environment) :
    ∃ last, Consumes environment stream stream.elements last ∧
      stream.Covers ⟨stream.stop, stream.stop⟩ last := by
  generalize units : stream.content = content
  induction content generalizing stream with
  | nil =>
    have empty : stream.isEmpty = true := by rw [← valid.isEmpty_content, units]; rfl
    rw [elements, units]
    refine ⟨stream, .done ?_, rfl, beq_iff_eq.mp empty, rfl⟩
    rw [perform, empty]
  | cons code more later =>
    have some : stream.isEmpty = false := by rw [← valid.isEmpty_content, units]; rfl
    have opens : stream.front? = .some code := by rw [valid.front?_eq, units, List.head?_cons]
    obtain ⟨still, content⟩ := valid.rest_front units
    obtain ⟨last, loop, covers⟩ := later still content
    rw [elements, content] at loop
    rw [elements, units]
    refine ⟨last, .next ?_ ?_ (valid.consume_front units) loop,
      covers.buffer, covers.start, covers.stop⟩
    · rw [perform, some]
    · rw [perform, opens]
      rfl

/-- A stream takes the characters that it yields: each one is read as itself, the ones at its ends
stand there, and consuming the front over and over empties the stream in as many steps as it has
units. What is yielded are the elements of the value that is streamed, which is accepted as a buffer
of that unit. -/
theorem Valid.yields_accepted (valid : stream.Valid) :
    (∀ value : Value, value.buffer = .ok stream.buffer → value.unitOf = .ok stream.unit ∧
      value.elements? = some (stream.buffer.units.map (.ofUnit stream.unit))) ∧
    (∀ char, stream.Yields char → stream.unit.readChar char = .ok char) ∧
    (stream.isEmpty = false → ∀ environment, ∃ first last,
      EndsAccepted environment stream first last) ∧
    ∀ environment, stream.perform environment .toList =
        .ok (.value (.list stream.elements), stream) ∧
      stream.elements.length = stream.size ∧
      ∃ last, Consumes environment stream stream.elements last ∧ last.isEmpty = true ∧
        stream.Covers ⟨stream.stop, stream.stop⟩ last ∧
        ∀ chars final, Consumes environment stream chars final →
          chars = stream.elements ∧ final = last := by
  refine ⟨fun value held => ⟨Value.unitOf_eq_ok.mpr (.inl ⟨_, held, rfl⟩),
    Buffer.elements_buffer held⟩, ?_, ?_, ?_⟩
  · intro char yields
    obtain ⟨code, member, rfl⟩ := yields.content valid
    exact CharUnit.readChar_ofUnit (bounded_content member)
  · exact fun some environment => valid.endsAccepted some environment
  · intro environment
    obtain ⟨last, loop, covers⟩ := valid.consumes environment
    have size : stream.elements.length = stream.size := by
      rw [elements, List.length_map, valid.length_content]
    refine ⟨rfl, size, last, loop, ?_, covers, fun chars final other => other.unique loop⟩
    rw [isEmpty, beq_iff_eq, covers.start, covers.stop]

/-- A lone surrogate between two letters. -/
theorem yields_accepted_surrogate :
    let stream := ofBuffer (.ofText [97, 0xD800, 98])
    stream.Valid ∧ stream.isEmpty = false ∧
      stream.unit.readChar (.text [0xD800]) = .ok (.text [0xD800]) ∧
      ∃ last, Consumes ⟨.default, "linux"⟩ stream [.text [97], .text [0xD800], .text [98]] last ∧
        last.isEmpty = true := by
  have valid : (ofBuffer (.ofText [97, 0xD800, 98])).Valid := ofBuffer_valid _
  obtain ⟨-, accepted, -, loops⟩ := valid.yields_accepted
  obtain ⟨-, -, last, loop, empty, -⟩ := loops ⟨.default, "linux"⟩
  have given : (ofBuffer (.ofText [97, 0xD800, 98])).perform ⟨.default, "linux"⟩ (.at (.whole 1)) =
      .ok (.value (.text [0xD800]), ofBuffer (.ofText [97, 0xD800, 98])) := rfl
  exact ⟨valid, by decide, accepted _ (.at given nofun), last, loop, empty⟩

end Stream

end TextScan
