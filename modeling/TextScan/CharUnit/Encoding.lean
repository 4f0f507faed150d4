import TextScan.CharUnit
import TextScan.Text

namespace TextScan

/-- UTF-8: one byte below 0x80, otherwise a lead byte and one to three continuations. -/
def utf8 (code : Nat) : List Nat :=
  if code < 0x80 then [code]
  else if code < 0x800 then [0xC0 + code / 0x40, 0x80 + code % 0x40]
  else if code < 0x10000 then
    [0xE0 + code / 0x1000, 0x80 + code / 0x40 % 0x40, 0x80 + code % 0x40]
  else
    [0xF0 + code / 0x40000, 0x80 + code / 0x1000 % 0x40, 0x80 + code / 0x40 % 0x40,
      0x80 + code % 0x40]

/-- UTF-16: one unit below 0x10000, otherwise a high and a low surrogate. -/
def utf16 (code : Nat) : List Nat :=
  if code < 0x10000 then [code]
  else [0xD800 + (code - 0x10000) / 0x400, 0xDC00 + (code - 0x10000) % 0x400]

namespace CharUnit

def spell : CharUnit → CodePoint → List Nat
  | wide, point => [point.val]
  | narrow, point => TextScan.utf8 point.val
  | utf16, point => TextScan.utf16 point.val
  | utf32, point => [point.val]

def encode (unit : CharUnit) (text : Text) : List Nat := text.flatMap unit.spell

/-- The units of a text, if it has any: surrogates are text only in wide units. -/
def encode? (unit : CharUnit) (text : Text) : Option (List Nat) :=
  if !unit.isText && text.hasSurrogate then none else some (unit.encode text)

theorem encode_append (unit : CharUnit) (first second : Text) :
    unit.encode (first ++ second) = unit.encode first ++ unit.encode second := by
  simp [encode]

theorem encode_wide (text : Text) : wide.encode text = text.codes := by
  simp only [encode, Text.codes, List.map_eq_flatMap]
  rfl

end CharUnit

/-- Reads UTF-8 with `pending` continuation bytes still owed to the code point whose
leading bits are `bits`. -/
def readUtf8 : (pending : Nat) → (bits : Nat) → List Nat → Option (List Nat)
  | 0, _, [] => some []
  | _ + 1, _, [] => none
  | 0, _, byte :: rest =>
    if byte < 0x80 then (readUtf8 0 0 rest).map (byte :: ·)
    else if byte < 0xC0 then none
    else if byte < 0xE0 then readUtf8 1 (byte - 0xC0) rest
    else if byte < 0xF0 then readUtf8 2 (byte - 0xE0) rest
    else if byte < 0xF8 then readUtf8 3 (byte - 0xF0) rest
    else none
  | pending + 1, bits, byte :: rest =>
    if 0x80 ≤ byte ∧ byte < 0xC0 then
      let code := bits * 0x40 + (byte - 0x80)
      if pending = 0 then (readUtf8 0 0 rest).map (code :: ·)
      else readUtf8 pending code rest
    else none

/-- Reads UTF-16, after the high surrogate of an unfinished pair if there is one. -/
def readUtf16 : (high : Option Nat) → List Nat → Option (List Nat)
  | none, [] => some []
  | some _, [] => none
  | none, code :: rest =>
    if code < 0xD800 ∨ 0xDFFF < code then (readUtf16 none rest).map (code :: ·)
    else if code < 0xDC00 then readUtf16 (some code) rest
    else none
  | some high, code :: rest =>
    if 0xDC00 ≤ code ∧ code ≤ 0xDFFF then
      (readUtf16 none rest).map
        ((0x10000 + (high - 0xD800) * 0x400 + (code - 0xDC00)) :: ·)
    else none

namespace CharUnit

/-- The text that units spell, when they spell one. -/
def decode? (unit : CharUnit) (codes : List Nat) : Option Text :=
  (match unit with
    | wide => some codes
    | narrow => readUtf8 0 0 codes
    | utf16 => readUtf16 none codes
    | utf32 => some codes).map Text.ofCodes

example : (utf8 0x1F600, TextScan.utf16 0x1F600) =
    ([0xF0, 0x9F, 0x98, 0x80], [0xD83D, 0xDE00]) := by decide

end CharUnit

end TextScan
