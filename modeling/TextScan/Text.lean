/-! Text as a list of code points. Lone surrogates are code points too, so a text
may hold what no encoded string can, and its length counts code points. -/

namespace TextScan

/-- A code point of the Unicode range, surrogates included. -/
abbrev CodePoint := Fin 0x110000

namespace CodePoint

/-- Surrogates are reserved for pairs in a 16-bit encoding and encode nothing alone. -/
def isSurrogate (point : CodePoint) : Bool :=
  decide (0xD800 ≤ point.val) && decide (point.val ≤ 0xDFFF)

theorem toNat_lt (c : Char) : c.toNat < 0x110000 := by
  have range := c.valid
  simp only [UInt32.isValidChar, Nat.isValidChar] at range
  have same : c.toNat = c.val.toNat := rfl
  omega

def ofChar (c : Char) : CodePoint := ⟨c.toNat, toNat_lt c⟩

/-- The code point with this number; numbers outside the range wrap around. -/
def ofNat (code : Nat) : CodePoint := Fin.ofNat 0x110000 code

theorem val_ofNat {code : Nat} (h : code < 0x110000) : (ofNat code).val = code := by
  simp only [ofNat, Fin.ofNat]
  exact Nat.mod_eq_of_lt h

end CodePoint

abbrev Text := List CodePoint

namespace Text

def ofString (s : String) : Text := s.toList.map CodePoint.ofChar

def codes (text : Text) : List Nat := text.map Fin.val

def ofCodes (codes : List Nat) : Text := codes.map CodePoint.ofNat

/-- A text with a surrogate in it has no encoding. -/
def hasSurrogate (text : Text) : Bool := text.any CodePoint.isSurrogate

theorem length_codes (text : Text) : text.codes.length = text.length := by
  simp [codes]

theorem codes_lt (text : Text) : ∀ code ∈ text.codes, code < 0x110000 := by
  intro code member
  obtain ⟨point, _, rfl⟩ := List.mem_map.mp member
  exact point.isLt

theorem ofCodes_codes (text : Text) : ofCodes text.codes = text := by
  simp only [ofCodes, codes, List.map_map]
  conv => rhs; rw [← List.map_id text]
  apply List.map_congr_left
  intro point _
  exact Fin.ext (CodePoint.val_ofNat point.isLt)

theorem codes_ofCodes {codes : List Nat} (h : ∀ code ∈ codes, code < 0x110000) :
    (ofCodes codes).codes = codes := by
  simp only [ofCodes, Text.codes, List.map_map]
  conv => rhs; rw [← List.map_id codes]
  apply List.map_congr_left
  intro code member
  exact CodePoint.val_ofNat (h code member)

/-- The text as a string, when none of its code points is a surrogate. -/
def toString? (text : Text) : Option String :=
  if text.hasSurrogate then none
  else some (String.ofList (text.map fun point => Char.ofNat point.val))

def joinWith (separator : Text) : List Text → Text
  | [] => []
  | [text] => text
  | text :: rest => text ++ separator ++ joinWith separator rest

end Text

end TextScan
