import TextScan.Proofs.BufferSearch
import TextScan.Stream.Lines

namespace TextScan.Stream

variable {stream : Stream}

theorem content_eq_between (stream : Stream) :
    stream.content = stream.buffer.between stream.start stream.stop := rfl

theorem ofBuffer_valid (buffer : Buffer) : (ofBuffer buffer).Valid :=
  ⟨Nat.zero_le _, Nat.le_refl _⟩

theorem content_ofBuffer (buffer : Buffer) : (ofBuffer buffer).content = buffer.units :=
  List.take_length

theorem Valid.length_content (valid : stream.Valid) : stream.content.length = stream.size :=
  Buffer.length_between valid.stop_le_size

theorem Valid.isEmpty_content (valid : stream.Valid) :
    stream.content.isEmpty = stream.isEmpty := by
  have ordered := valid.start_le_stop
  have length := valid.length_content
  rw [Bool.eq_iff_iff, List.isEmpty_iff, ← List.length_eq_zero_iff, length]
  simp only [size, isEmpty, beq_iff_eq]
  omega

theorem Valid.findText?_eq (valid : stream.Valid) (needle : List Nat) {place : Nat}
    (before : place ≤ stream.stop) :
    stream.findText? needle place =
      some ((Scan.find? needle (stream.buffer.between place stream.stop)).map
        (place + ·)) := by
  rw [findText?, Buffer.find?_eq needle valid.stop_le_size, if_pos before]
  simp only [Option.map_some, found, Option.map_map]
  rfl

theorem Valid.findUnit?_eq (valid : stream.Valid) (code place : Nat) :
    stream.findUnit? code place =
      some ((Scan.findWhere? (· == code) (stream.buffer.between place stream.stop)).map
        (place + ·)) := by
  rw [findUnit?, Buffer.findUnit?_eq code valid.stop_le_size]
  simp only [Option.map_some, found, Option.map_map]
  rfl

theorem Valid.findWhere?_eq (valid : stream.Valid) (test : Nat → Bool) :
    stream.findWhere? test =
      some ((Scan.findWhere? test stream.content).map (stream.start + ·)) := by
  rw [findWhere?, Buffer.Itemwise.findWhere?_eq test (Buffer.Itemwise.read_shows _)
    valid.stop_le_size]
  simp only [Option.map_some, found, Option.map_map]
  rfl

theorem Valid.findLast?_eq (valid : stream.Valid) (test : Nat → Bool) :
    stream.findLast? test =
      some ((Scan.findLast? test stream.content).map (stream.start + ·)) := by
  rw [findLast?, Buffer.Itemwise.findLast?_eq test (Buffer.Itemwise.read_shows _)
    valid.stop_le_size]
  simp only [Option.map_some, found, Option.map_map]
  rfl

theorem Valid.stopAfterRepeats?_eq (valid : stream.Valid) (needle : List Nat) :
    stream.stopAfterRepeats? needle =
      some ((Scan.afterRepeats? needle stream.content).map (stream.start + ·)) := by
  unfold stopAfterRepeats? Scan.afterRepeats?
  split
  · exact valid.findWhere?_eq _
  · have ordered := valid.start_le_stop
    have length := valid.length_content
    rw [Buffer.runEnd_eq needle ordered valid.stop_le_size, ← content_eq_between]
    have full : ((stream.start + Scan.runLength needle stream.content : Nat) : Int) =
        stream.stop ↔ Scan.runLength needle stream.content = stream.content.length := by
      rw [length, size]
      omega
    simp only [Option.map_some, full]
    split
    · rfl
    · rfl

theorem Valid.startsWith_eq (valid : stream.Valid) (needle : List Nat) :
    stream.startsWith needle = some (needle.isPrefixOf stream.content) := by
  rw [startsWith, Buffer.matchesAt_eq needle valid.stop_le_size]
  simp [valid.start_le_stop, content_eq_between]

theorem Valid.endsWith_eq (valid : stream.Valid) (needle : List Nat) :
    stream.endsWith needle = some (needle.isSuffixOf stream.content) := by
  rw [endsWith, Buffer.matchesBefore_eq needle valid.stop_le_size]
  simp [valid.start_le_stop, content_eq_between]

theorem Valid.equalsStream_eq {other : Stream} (valid : stream.Valid) (valid' : other.Valid) :
    stream.equalsStream other = decide (stream.content = other.content ∧
      (stream.unit.isText = other.unit.isText ∨ stream.content = [])) := by
  have empty : stream.start = stream.stop ↔ stream.content = [] := by
    have size := valid.length_content
    have ordered := valid.start_le_stop
    rw [← List.length_eq_zero_iff, size, Stream.size]
    omega
  rw [equalsStream, Buffer.equalBetween_eq valid.start_le_stop valid.stop_le_size
    valid'.start_le_stop valid'.stop_le_size]
  simp only [empty, Option.getD_some]
  rfl

theorem getElem?_content (stream : Stream) (offset : Nat) :
    stream.content[offset]? =
      if stream.start + offset < stream.stop then stream.buffer.units[stream.start + offset]?
      else none :=
  Buffer.getElem?_between offset

theorem Valid.front?_eq (valid : stream.Valid) : stream.front? = stream.content.head? := by
  have ordered := valid.start_le_stop
  rw [List.head?_eq_getElem?, getElem?_content, front?, isEmpty]
  by_cases empty : stream.start = stream.stop
  · simp [empty]
  · have held : stream.start + 0 < stream.stop := by omega
    rw [if_pos held, if_neg (by simpa using empty), Nat.add_zero]

theorem Valid.back?_eq (valid : stream.Valid) : stream.back? = stream.content.getLast? := by
  have ordered := valid.start_le_stop
  have length := valid.length_content
  rw [List.getLast?_eq_getElem?, getElem?_content, back?, isEmpty, length, size]
  by_cases empty : stream.start = stream.stop
  · simp [empty]
  · have place : stream.start + (stream.stop - stream.start - 1) = stream.stop - 1 := by omega
    rw [place, if_neg (by simpa using empty), if_pos (by omega)]

theorem Valid.at?_eq (valid : stream.Valid) (offset : Int) :
    stream.at? offset = if offset < 0 then none else stream.content[offset.toNat]? := by
  have ordered := valid.start_le_stop
  rw [at?, getElem?_content, size]
  by_cases negative : offset < 0
  · rw [if_neg (by omega), if_pos negative]
  · rw [if_neg negative]
    by_cases held : stream.start + offset.toNat < stream.stop
    · rw [if_pos (by omega), if_pos held]
    · rw [if_neg (by omega), if_neg held]

theorem Valid.extract?_eq (valid : stream.Valid) (count : Int) :
    stream.extract? count =
      if count < 0 ∨ (stream.content.length : Int) < count then none
      else some (stream.content.take count.toNat,
        stream.onFrom (stream.start + count.toNat)) := by
  have length := valid.length_content
  rw [extract?, length]
  split
  · rfl
  · rename_i fits
    have all : min count.toNat stream.size = count.toNat := by omega
    rw [content, List.take_take, all]

theorem between_eq_drop (stream : Stream) (offset : Nat) :
    stream.buffer.between (stream.start + offset) stream.stop = stream.content.drop offset :=
  (Buffer.drop_between offset).symm

theorem Valid.takeDelimited?_eq (valid : stream.Valid) (delimiter : List Nat) :
    stream.takeDelimited? delimiter =
      some ((Scan.delimited? delimiter stream.content).map fun size =>
        (stream.between (stream.start + delimiter.length)
            (stream.start + delimiter.length + size),
          stream.onFrom (stream.start + delimiter.length + size + delimiter.length))) := by
  rw [takeDelimited?, Scan.delimited?]
  by_cases empty : delimiter = []
  · simp [empty]
  · have some : delimiter.isEmpty = false := by simp [empty]
    simp only [some, Bool.false_eq_true, if_false, valid.startsWith_eq, bind, Option.bind_some,
      List.isPrefixOf_iff_prefix]
    by_cases opens : delimiter <+: stream.content
    · have bound := opens.length_le
      have ordered := valid.start_le_stop
      rw [valid.length_content, size] at bound
      rw [if_pos opens, if_pos ⟨empty, opens⟩, valid.findText?_eq delimiter (by omega),
        between_eq_drop]
      simp only [Option.bind_some, Option.map_map]
      rfl
    · rw [if_neg opens, if_neg fun both => opens both.2]
      rfl

theorem Valid.takeDelimitedBy?_eq (valid : stream.Valid) (delimiters : List Nat) :
    stream.takeDelimitedBy? delimiters =
      some ((Scan.enclosed? delimiters stream.content).map fun size =>
        (stream.between (stream.start + 1) (stream.start + 1 + size),
          stream.onFrom (stream.start + 1 + size + 1))) := by
  rw [takeDelimitedBy?, valid.front?_eq]
  cases front : stream.content with
  | nil => simp [Scan.enclosed?]
  | cons opening rest =>
    have behind : stream.buffer.between (stream.start + 1) stream.stop = rest := by
      rw [between_eq_drop, front, List.drop_one, List.tail_cons]
    simp only [List.head?_cons, Scan.enclosed?]
    split
    · rw [valid.findUnit?_eq, behind]
      simp only [bind, Option.bind_some, Option.map_map]
      rfl
    · rfl

theorem Valid.trimFront_eq (valid : stream.Valid) (test : Nat → Bool) :
    stream.trimFront test =
      some (match Scan.findWhere? (fun code => !test code) stream.content with
        | some offset => stream.onFrom (stream.start + offset)
        | none => stream.atStop) := by
  rw [trimFront, valid.findWhere?_eq]
  cases Scan.findWhere? (fun code => !test code) stream.content with
  | none => rfl
  | some offset => rfl

theorem Valid.trimBack_eq (valid : stream.Valid) (test : Nat → Bool) :
    stream.trimBack test =
      some (match Scan.findLast? (fun code => !test code) stream.content with
        | some offset => stream.upTo (stream.start + offset + 1)
        | none => stream.atStart) := by
  rw [trimBack, valid.findLast?_eq]
  cases Scan.findLast? (fun code => !test code) stream.content with
  | none => rfl
  | some offset => rfl

end TextScan.Stream
