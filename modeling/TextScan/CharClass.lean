namespace TextScan

inductive CharClass where
  | whitespace
  | newline
  | digit
  | hexDigit
  | letter
  | alphanumeric
  | identifierStart
  | identifierPart
  | punctuation
deriving DecidableEq, Repr

namespace CharClass

def between (low high code : Int) : Bool := decide (low ≤ code) && decide (code ≤ high)

/-- Tab, line feed, vertical tab, form feed and carriage return are the codes 9 to 13. -/
def contains : CharClass → Int → Bool
  | whitespace, code => code == 0x20 || between 0x09 0x0D code
  | newline, code => code == 0x0A || code == 0x0D
  | digit, code => between 0x30 0x39 code
  | hexDigit, code => between 0x30 0x39 code || between 0x41 0x46 code || between 0x61 0x66 code
  | letter, code => between 0x41 0x5A code || between 0x61 0x7A code
  | alphanumeric, code => between 0x41 0x5A code || between 0x61 0x7A code || between 0x30 0x39 code
  | identifierStart, code => between 0x41 0x5A code || between 0x61 0x7A code || code == 0x5F
  | identifierPart, code =>
    between 0x41 0x5A code || between 0x61 0x7A code || code == 0x5F || between 0x30 0x39 code
  | punctuation, code =>
    between 0x21 0x2F code || between 0x3A 0x40 code || between 0x5B 0x60 code ||
      between 0x7B 0x7E code

def codes (charClass : CharClass) : List Nat :=
  (List.range 128).filter fun code => charClass.contains code

end CharClass

/-- A test on one character. A test may answer any value of `ν`, of which only its truth
counts in a scan. -/
inductive CharTest (ν : Type) where
  | inClass (charClass : CharClass)
  | oneOf (codes : List Int)
  | noneOf (codes : List Int)
  | negate (test : CharTest ν)
  /-- Answers the code itself, which is true unless it is zero. -/
  | ownCode
  /-- Answers the same value for every character. -/
  | constant (value : ν)
deriving DecidableEq, Repr

namespace CharTest

variable {ν : Type}

def holds (truth : ν → Bool) : CharTest ν → Int → Bool
  | inClass charClass, code => charClass.contains code
  | oneOf codes, code => codes.contains code
  | noneOf codes, code => !codes.contains code
  | negate test, code => !test.holds truth code
  | ownCode, code => code != 0
  | constant value, _ => truth value

/-- On codes below a bound, whatever is asked of a code is asked by one of these tests. -/
theorem exists_holds_eq (truth : ν → Bool) (bound : Nat) (passes : Nat → Bool) :
    ∃ test : CharTest ν, ∀ code < bound, test.holds truth code = passes code := by
  refine ⟨.oneOf (((List.range bound).filter passes).map Int.ofNat), ?_⟩
  intro code small
  rw [holds, Bool.eq_iff_iff, List.contains_iff_mem, List.mem_map]
  constructor
  · rintro ⟨listed, member, same⟩
    cases Int.ofNat.inj same
    exact (List.mem_filter.mp member).2
  · intro pass
    exact ⟨code, List.mem_filter.mpr ⟨List.mem_range.mpr small, pass⟩, rfl⟩

end CharTest

end TextScan
