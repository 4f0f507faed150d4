import TextScan.Argument.Holder
import TextScan.Proofs.ContentOrder
import TextScan.Proofs.SessionInvariant

namespace TextScan

namespace Buffer

variable {buffer : Buffer}

theorem byteCodes_ofNat {units : List Nat} (bounded : ∀ code ∈ units, code ≤ 255) :
    byteCodes (units.map UInt8.ofNat) = units := by
  rw [byteCodes, List.map_map]
  refine (List.map_congr_left fun code member => ?_).trans units.map_id
  exact UInt8.toNat_ofNat_of_lt' (Nat.lt_succ_of_le (bounded code member))

theorem map_code_items (buffer : Buffer) : buffer.items.map Item.code = buffer.units := by
  rw [items, List.map_map]
  exact (List.map_congr_left fun code _ => Int.toNat_natCast code).trans (List.map_id _)

theorem map_ofItem_items (buffer : Buffer) :
    buffer.items.map Value.ofItem = buffer.units.map fun (code : Nat) => Value.int code := by
  rw [items, List.map_map]
  rfl

/-- Items of one byte lie in memory as they are. -/
theorem bytes_viewed (buffer : Buffer) {format : ItemFormat} (readable : format.unit? = some buffer.unit)
    (single : format.size = 1) (bounded : ∀ code ∈ buffer.units, code ≤ 255) :
    byteCodes (buffer.viewed format readable).bytes = buffer.units := by
  have bytes : (buffer.viewed format readable).bytes = buffer.units.map UInt8.ofNat := by
    change (buffer.cells format).flatMap Cell.bytes = _
    rw [cells, List.flatMap_map, List.map_eq_flatMap]
    refine List.flatMap_congr fun code member => ?_
    have small := bounded code member
    have itself : ((code : Int) % 256).toNat = code := by omega
    rw [Cell.ofCode, single, littleEndian, littleEndian, itself]
  rw [bytes, byteCodes_ofNat bounded]

theorem map_code_viewed (buffer : Buffer) {format : ItemFormat}
    (readable : format.unit? = some buffer.unit) :
    (buffer.viewed format readable).items.map Item.code = buffer.units := by
  have items : (buffer.viewed format readable).items = buffer.items := by
    change (buffer.cells format).map Cell.item = _
    rw [cells, List.map_map]
    rfl
  rw [items, map_code_items]

end Buffer

theorem ItemFormat.size_of_narrow {format : ItemFormat} (readable : format.unit? = some .narrow) :
    format.size = 1 := by
  have accepted := accepted?_of_unit? readable
  unfold accepted? at accepted
  split at accepted
  · split at accepted
    · assumption
    all_goals cases accepted
  · cases accepted

/-- Whether what a backing holds is read back as a text in its unit. -/
def Backing.readsBack : Backing → Bool
  | .memory _ unit _ => unit == .narrow
  | _ => true

namespace CharUnit

theorem isText_of_items {format : ItemFormat} {unit : CharUnit}
    (readable : format.unit? = some unit) : unit.isText = false := by
  rw [Bool.eq_false_iff, ne_eq, isText_iff]
  rintro rfl
  exact ItemFormat.unit?_ne_wide format readable

theorem mapM_codeOf (unit : CharUnit) {units : List Nat}
    (bounded : ∀ code ∈ units, code ≤ unit.maxValue) :
    (units.map fun (code : Nat) => Value.int code).mapM unit.codeOf = .ok units := by
  induction units with
  | nil => rfl
  | cons code rest ih =>
    have fits : (0 : Int) ≤ code ∧ (code : Int) ≤ unit.maxValue :=
      ⟨Int.natCast_nonneg code, Int.ofNat_le.mpr (bounded code List.mem_cons_self)⟩
    have first : unit.codeOf (.int code) = .ok code := by
      rw [codeOf, Value.int?]
      exact if_pos fits
    rw [List.map_cons, List.mapM_cons, first, ih fun other member =>
      bounded other (List.mem_cons_of_mem _ member)]
    rfl

theorem text_ofBuffer (buffer : Buffer) (readsBack : buffer.backing.readsBack = true) :
    buffer.unit.text (.ofBuffer buffer) = .ok buffer.units := by
  obtain ⟨backing, units, bounded⟩ := buffer
  cases backing with
  | text =>
    have inRange (code : Nat) (member : code ∈ units) : code < 0x110000 :=
      Buffer.inRange ⟨.text, units, bounded⟩ member rfl
    have whole := (encode_wide (Text.ofCodes units)).trans (Text.codes_ofCodes inRange)
    exact congrArg Except.ok whole
  | bytes => exact congrArg Except.ok (Buffer.byteCodes_ofNat bounded)
  | byteArray => exact congrArg Except.ok (Buffer.byteCodes_ofNat bounded)
  | array format unit readable =>
    have number : unit.isText = false := isText_of_items readable
    have read := mapM_codeOf unit bounded
    rw [← Buffer.map_ofItem_items ⟨.array format unit readable, units, bounded⟩] at read
    simp only [Value.ofBuffer, Buffer.unit, Backing.unit, text, number, Value.int?,
      Value.obstacle?, Value.members?]
    exact read
  | memory format unit readable =>
    cases of_decide_eq_true readsBack
    have single := ItemFormat.size_of_narrow readable
    let buffer : Buffer := ⟨.memory format .narrow readable, units, bounded⟩
    exact congrArg Except.ok (buffer.bytes_viewed readable single bounded)

/-- A view of items wider than bytes is refused in their own unit. -/
theorem text_ofBuffer_wider (buffer : Buffer) (wider : buffer.backing.readsBack = false) :
    buffer.unit.text (.ofBuffer buffer) = .error .bytesForWideUnits := by
  obtain ⟨backing, units, bounded⟩ := buffer
  cases backing with
  | memory format unit readable =>
    have number : unit.isText = false := isText_of_items readable
    have large : unit ≠ .narrow := by simpa [Backing.readsBack] using wider
    simp only [Value.ofBuffer, Buffer.unit, Backing.unit, text, number]
    exact if_neg large
  | _ => cases wider

end CharUnit

namespace Buffer

theorem same_units {backing : Backing} {units units' : List Nat}
    {bounded : ∀ code ∈ units, code ≤ backing.unit.maxValue} (same : units = units') :
    (⟨backing, units, bounded⟩ : Buffer) = ⟨backing, units', same ▸ bounded⟩ := by
  cases same
  rfl

theorem buffer_ofBuffer (buffer : Buffer) : (Value.ofBuffer buffer).buffer = .ok buffer := by
  obtain ⟨backing, units, bounded⟩ := buffer
  cases backing with
  | text =>
    have inRange (code : Nat) (member : code ∈ units) : code < 0x110000 :=
      Buffer.inRange ⟨.text, units, bounded⟩ member rfl
    simp only [Value.ofBuffer, Value.buffer, ofText, Text.codes_ofCodes inRange]
  | bytes => simp only [Value.ofBuffer, Value.buffer, ofBytes, byteCodes_ofNat bounded]
  | byteArray => simp only [Value.ofBuffer, Value.buffer, ofByteArray, byteCodes_ofNat bounded]
  | array format unit readable =>
    let buffer : Buffer := ⟨.array format unit readable, units, bounded⟩
    let array : ItemArray := ⟨format, buffer.items, items_admitted readable⟩
    have read : array.format.unit? = some unit := readable
    have found : ofArray? array = some buffer := by
      rw [ofArray?_readable read]
      exact congrArg some (same_units (map_code_items buffer))
    change Value.buffer (.array array) = _
    rw [Value.buffer, found]
  | memory format unit readable =>
    let buffer : Buffer := ⟨.memory format unit readable, units, bounded⟩
    let view : MemoryView := buffer.viewed format readable
    have read : view.format.unit? = some unit := readable
    have found : ofMemory? view = some buffer := by
      rw [ofMemory?_readable read]
      exact congrArg some (same_units (map_code_viewed buffer readable))
    have single : ¬view.dimensions ≠ 1 := not_not_intro rfl
    change Value.buffer (.memory view) = _
    rw [Value.buffer, if_neg single, found]

theorem window_whole (buffer : Buffer) : buffer.window (.int 0) .null = .ok (.ofBuffer buffer) := by
  have start (size : Int) (natural : 0 ≤ size) :
      ((Bound.ofInt 0).larger (.ofInt 0)).smaller (.ofInt size) = .ofInt 0 := by
    simp [Bound.larger, Bound.smaller, Bound.ofInt, Number.precedes_whole, Int.not_lt.mpr natural]
  have bounds : Value.windowBounds buffer.size (.int 0) .null =
      .ok (.ofInt 0, .ofInt buffer.size) :=
    congrArg (fun low => Except.ok (low, Bound.ofInt buffer.size))
      (start buffer.size (Int.natCast_nonneg _))
  rw [window, bounds]
  simp [bind, Except.bind, pure, Except.pure, Bound.ofInt, Stream.ofBounds, Stream.written,
    Stream.ofBuffer]

end Buffer

namespace Stream

/-- The stream over all that a value holds. -/
def wholeOf (value : Value) : Except Fault Stream := do
  let buffer ← value.buffer.mapError (.unit none)
  buffer.window (.int 0) .null

theorem wholeOf_ofBuffer (buffer : Buffer) :
    wholeOf (.ofBuffer buffer) = .ok (.ofBuffer buffer) := by
  rw [wholeOf, buffer.buffer_ofBuffer]
  exact buffer.window_whole

end Stream

namespace Session

variable {object : Object} {whole : Stream}

/-- The stream of a new cursor is answered as it is, where the store has its buffer. -/
theorem answerStream_ofStream (session : Session) {id : Nat} (pinned : Bool)
    (held : session.store.buffer id = whole.buffer) :
    ∃ after new, session.answerStream (.ofStream id pinned whole) =
      ⟨after, .value (.stream whole), .stream new⟩ := by
  have shown : session.store.stream (.ofStream id pinned whole) = whole := by
    obtain ⟨buffer, start, stop, startForm, stopForm⟩ := whole
    exact congrArg (fun buffer => Stream.mk buffer start stop startForm stopForm) held
  rw [answerStream, shown]
  exact ⟨_, _, rfl⟩

/-- What a session makes over anything but a stream is the stream over all that it holds. -/
theorem createOver_wholeOf (session : Session)
    (alone : (session.valueOf object).stream? = none)
    (made : Stream.wholeOf (session.valueOf object) = .ok whole) :
    ∃ after new, session.createOver object [session.valueOf object] =
      .ok ⟨after, .value (.stream whole), .stream new⟩ := by
  obtain ⟨buffer, read, opened⟩ := bind_eq_ok.mp made
  obtain ⟨own, -⟩ := Stream.window_valid opened
  -- a buffer that the store does not have is put into it before
  have added : ∃ after new,
      session.createOver (.value (session.valueOf object)) [session.valueOf object] =
        .ok ⟨after, .value (.stream whole), .stream new⟩ := by
    have held := (session.store.addBuffer_known ⟨buffer, none⟩).2.trans own.symm
    obtain ⟨after, new, answered⟩ := answerStream_ofStream
      { session with store := (session.store.addBuffer ⟨buffer, none⟩).1 }
      (session.pins buffer) held
    refine ⟨after, new, ?_⟩
    simp only [createOver, List.headD_cons, List.getElem?_cons_succ, List.getElem?_nil,
      Option.getD_none, read, opened, bind, Except.bind]
    exact congrArg Except.ok answered
  cases object with
  | stream id =>
    have shown : session.valueOf (.stream id) =
        ((session.streamOf? id).map Value.stream).getD .null := rfl
    cases found : session.streamOf? id with
    | none =>
      rw [shown, found] at read
      cases read
    | some stream =>
      rw [shown, found] at alone
      cases alone
  | buffer id =>
    have same : (session.valueOf (.buffer id)).buffer = .ok (session.store.buffer id) :=
      (session.store.buffer id).buffer_ofBuffer
    rw [same] at read
    cases read
    obtain ⟨after, new, answered⟩ := session.answerStream_ofStream
      (session.pins (session.store.buffer id)) own.symm
    refine ⟨after, new, ?_⟩
    change (session.store.buffer id).window (.int 0) .null >>= _ = _
    rw [opened]
    exact congrArg Except.ok answered
  | _ => exact added

end Session

namespace Stream

variable {environment : Environment} {stream : Stream} {text : Value}

/-- A stream takes a text as all of its content: they are equal, neither comes first, the
text stands at both ends, and a copy of the stream stops at it before the first unit. -/
structure Takes (environment : Environment) (stream : Stream) (text : Value) : Prop where
  equal : stream.comparison .eq false text = .ok true
  before : stream.comparison .lt false text = .ok false
  starts : stream.perform environment (.startsWith text) = .ok (.value (.bool true), stream)
  ends : stream.perform environment (.endsWith text) = .ok (.value (.bool true), stream)
  stops : ∃ copied window rest,
    stream.perform environment .copy = .ok (.value (.stream copied), stream) ∧
      copied.perform environment (.takeTo ⟨false, false, false⟩ text) =
        .ok (.value (.stream window), rest) ∧ window.isEmpty = true

/-- A stream refuses a text for a cause: the two are not equal and have no order, and every
operation that reads the text faults. -/
structure Refuses (environment : Environment) (stream : Stream) (text : Value)
    (cause : UnitFault) : Prop where
  apart : stream.Apart text
  starts : stream.perform environment (.startsWith text) = .error (.unit (some stream.unit) cause)
  ends : stream.perform environment (.endsWith text) = .error (.unit (some stream.unit) cause)
  stops : stream.perform environment (.takeTo ⟨false, false, false⟩ text) =
    .error (.unit (some stream.unit) cause)

theorem Valid.takes (valid : stream.Valid) (environment : Environment)
    (alone : text.stream? = none) (counted : text.int? = none)
    (tested : text.test? = none) (read : stream.unit.text text = .ok stream.content) :
    stream.Takes environment text := by
  have compared (relation : Relation) (once : relation.readsTwice = false) :=
    valid.comparison_text alone counted read relation false (.inl once)
  have starts : stream.startsWith stream.content = some true := by
    rw [valid.startsWith_eq]
    exact congrArg some (List.isPrefixOf_iff_prefix.mpr List.prefix_rfl)
  have ends : stream.endsWith stream.content = some true := by
    rw [valid.endsWith_eq]
    exact congrArg some (List.isSuffixOf_iff_suffix.mpr List.suffix_rfl)
  have stops : stream.stop? ⟨false, false, false⟩ text = .ok (some stream.start) := by
    have found : stream.findText? stream.content stream.start = some (some stream.start) := by
      rw [valid.findText?_eq stream.content valid.start_le_stop, ← content_eq_between,
        Scan.find?_self]
      rfl
    simp only [stop?, tested, read, coerce, Except.mapError, found, searched, bind, Except.bind,
      Bool.false_eq_true, if_false]
  have cut := valid.advanceTo_eq environment (Nat.zero_le _)
  refine ⟨?_, ?_, ?_, ?_, stream, stream.upTo stream.start, stream.onFrom stream.start, rfl, ?_, ?_⟩
  · rw [compared .eq rfl]
    exact congrArg Except.ok (decide_eq_true rfl)
  · rw [compared .lt rfl]
    exact congrArg Except.ok (decide_eq_false (List.lt_irrefl _))
  · rw [perform, read]
    simp only [coerce, Except.mapError, starts, searched, bind, Except.bind, pure, Except.pure]
  · rw [perform, read]
    simp only [coerce, Except.mapError, ends, searched, bind, Except.bind, pure, Except.pure]
  · rw [perform, stops]
    simp only [takeTo, bind, Except.bind]
    rw [Nat.add_zero] at cut
    rw [cut]
    rfl
  · exact beq_self_eq_true stream.start

theorem Valid.refuses (valid : stream.Valid) (environment : Environment)
    (alone : text.stream? = none) (counted : text.int? = none)
    (tested : text.test? = none) {cause : UnitFault} (clear : ∀ obstacle, cause ≠ .blocked obstacle)
    (refused : stream.unit.text text = .error cause) : stream.Refuses environment text cause := by
  have nothing : stream.operand? text = none := by
    rw [operand?_eq alone counted, refused]
    rfl
  have refusal : (Reading.text text).refusal? stream.unit = some cause :=
    Reading.refusalOf?_eq_some.mpr refused
  have target : (Stopping.mk false false false).reading text = .text text := by
    simp only [Stopping.reading, tested, Bool.false_eq_true, if_false]
  refine ⟨valid.apart alone ?_ nothing, ?_, ?_, ?_⟩
  · intro obstacle blocked
    exact clear obstacle (Except.error.inj (refused.symm.trans blocked))
  · exact (valid.perform_refused environment rfl _).mpr ⟨cause, refusal, rfl⟩
  · exact (valid.perform_refused environment rfl _).mpr ⟨cause, refusal, rfl⟩
  · refine (valid.perform_refused environment rfl _).mpr ⟨cause, ?_, rfl⟩
    rw [← target] at refusal
    exact refusal

theorem ofBuffer_plain (buffer : Buffer) : (Value.ofBuffer buffer).stream? = none ∧
    (Value.ofBuffer buffer).int? = none ∧ (Value.ofBuffer buffer).test? = none := by
  obtain ⟨backing, units, bounded⟩ := buffer
  cases backing with
  | _ => exact ⟨rfl, rfl, rfl⟩

/-- The text of a window makes a stream of the same content, in every session that holds it, and the
window takes it; only a view of items wider than bytes refuses its own text. -/
theorem Valid.text_readback (valid : stream.Valid) (environment : Environment) :
    ∃ text, stream.perform environment .text = .ok (.value text, stream) ∧
      (∃ whole, wholeOf text = .ok whole ∧ whole.size = stream.size ∧ whole.Holds .eq stream ∧
        ∀ (session : Session) object, session.valueOf object = text → ∃ after new,
          session.createOver object [text] = .ok ⟨after, .value (.stream whole), .stream new⟩) ∧
      (stream.buffer.backing.readsBack = true → stream.Takes environment text) ∧
      (stream.buffer.backing.readsBack = false →
        stream.Refuses environment text .bytesForWideUnits) := by
  obtain ⟨alone, counted, tested⟩ := ofBuffer_plain stream.extract
  have whole := ofBuffer_valid stream.extract
  have content : (ofBuffer stream.extract).content = stream.content := content_ofBuffer _
  refine ⟨.ofBuffer stream.extract, rfl, ⟨_, wholeOf_ofBuffer _, ?_, ?_, ?_⟩, ?_, ?_⟩
  · rw [← whole.length_content, content, valid.length_content]
  · exact (whole.holds_eq_iff valid).mpr ⟨content, .inl rfl⟩
  · intro session object same
    rw [← same] at alone ⊢
    exact session.createOver_wholeOf alone (same ▸ wholeOf_ofBuffer _)
  · intro readsBack
    exact valid.takes environment alone counted tested (CharUnit.text_ofBuffer _ readsBack)
  · intro wider
    exact valid.refuses environment alone counted tested (fun _ => nofun)
      (CharUnit.text_ofBuffer_wider _ wider)

/-- The middle of an array of 16-bit units, and all of a view of one such unit. -/
def unitsInside : Stream :=
  .ofBounds ⟨.array .short .utf16 ItemFormat.unit?_short, [44, 97, 98, 44], by decide⟩ 1 (some 3)

def unitsViewed : Stream :=
  .ofBuffer ⟨.memory .short .utf16 ItemFormat.unit?_short, [97], by decide⟩

theorem text_readback_inside :
    ∃ text, unitsInside.perform ⟨.default, "linux"⟩ .text = .ok (.value text, unitsInside) ∧
      unitsInside.Takes ⟨.default, "linux"⟩ text := by
  have valid : unitsInside.Valid := ⟨by decide, by decide⟩
  obtain ⟨text, given, -, takes, -⟩ := valid.text_readback ⟨.default, "linux"⟩
  exact ⟨text, given, takes rfl⟩

theorem view_refuses_own_text :
    ∃ text, unitsViewed.perform ⟨.default, "linux"⟩ .text = .ok (.value text, unitsViewed) ∧
      unitsViewed.comparison .eq false text = .ok false :=
  ⟨_, rfl, rfl⟩

end Stream

end TextScan
