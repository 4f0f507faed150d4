import TextScan.Text.Printable

/-! Quoted forms of text and bytes, as messages show them. A quoted form spells every
code point without a printed form as an escape, so it never holds a surrogate. -/

namespace TextScan.Quoted

def hexDigit (digit : Nat) : CodePoint :=
  CodePoint.ofNat (if digit % 16 < 10 then 48 + digit % 16 else 87 + digit % 16)

/-- The last `width` hexadecimal digits of a number, leading zeros included. -/
def hexDigits : Nat → Nat → Text
  | 0, _ => []
  | width + 1, code => hexDigits width (code / 16) ++ [hexDigit code]

/-- An escape by number, in the shortest of the three widths that holds it. -/
def escapeByNumber (code : Nat) : Text :=
  if code < 0x100 then Text.ofString "\\x" ++ hexDigits 2 code
  else if code < 0x10000 then Text.ofString "\\u" ++ hexDigits 4 code
  else Text.ofString "\\U" ++ hexDigits 8 code

/-- The double mark serves only where it saves escaping a single one. -/
def mark (codes : List Nat) : Nat :=
  if codes.contains 0x27 && !codes.contains 0x22 then 0x22 else 0x27

/-- One quoted unit: the backslash and the escaped mark take a backslash, three layout
characters a letter, and what the test does not pass is escaped by number. -/
def escape (escapedMark : Nat) (printable : Nat → Bool) (code : Nat) : Text :=
  if code = 0x5C || code = escapedMark then [CodePoint.ofNat 0x5C, CodePoint.ofNat code]
  else if code = 0x09 then Text.ofString "\\t"
  else if code = 0x0A then Text.ofString "\\n"
  else if code = 0x0D then Text.ofString "\\r"
  else if printable code then [CodePoint.ofNat code]
  else escapeByNumber code

/-- Text between marks. -/
def text (t : Text) : Text :=
  let chosen := mark t.codes
  [CodePoint.ofNat chosen]
    ++ t.codes.flatMap (escape chosen fun code => (CodePoint.ofNat code).isPrintable)
    ++ [CodePoint.ofNat chosen]

def isPlainByte (code : Nat) : Bool := decide (0x20 ≤ code) && decide (code < 0x7F)

/-- Bytes between marks, after the letter `b`. -/
def bytes (codes : List Nat) : Text :=
  let chosen := mark codes
  Text.ofString "b" ++ [CodePoint.ofNat chosen]
    ++ codes.flatMap (escape chosen isPlainByte)
    ++ [CodePoint.ofNat chosen]

/-- A mutable byte buffer chooses its marks as bytes do, and escapes the single mark
even between double ones. -/
def byteArray (codes : List Nat) : Text :=
  let chosen := mark codes
  Text.ofString "bytearray(b" ++ [CodePoint.ofNat chosen]
    ++ codes.flatMap (escape 0x27 isPlainByte)
    ++ [CodePoint.ofNat chosen] ++ Text.ofString ")"

example : text (Text.ofString "it's\t") = Text.ofString "\"it's\\t\"" := by decide +kernel

end TextScan.Quoted
