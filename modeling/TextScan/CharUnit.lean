/-! Character units: what one place of a buffer holds. A unit is either a code point of
text or an unsigned number of one, two or four bytes; in both cases it is known by its
code, a natural number no larger than the unit's greatest value. -/

namespace TextScan

inductive CharUnit where
  /-- Code points of text. -/
  | wide
  /-- Bytes, in which text stands as UTF-8. -/
  | narrow
  /-- 16-bit units, in which text stands as UTF-16. -/
  | utf16
  /-- 32-bit units, in which text stands as UTF-32. -/
  | utf32
deriving DecidableEq, Repr, Inhabited

namespace CharUnit

def name : CharUnit → String
  | wide => "wide"
  | narrow => "narrow"
  | utf16 => "utf16"
  | utf32 => "utf32"

def width : CharUnit → Nat
  | wide => 4
  | narrow => 1
  | utf16 => 2
  | utf32 => 4

def isText : CharUnit → Bool
  | wide => true
  | _ => false

/-- The greatest code of one unit. -/
def maxValue : CharUnit → Nat
  | wide => 0x10FFFF
  | unit => (1 <<< (8 * unit.width)) - 1

theorem isText_iff {unit : CharUnit} : unit.isText = true ↔ unit = wide := by
  cases unit <;> simp [isText]

end CharUnit

end TextScan
