/-! Numbers a caller gives as counts, bounds and codes. They are compared by amount,
whatever they are written as, and of two equal ones the first is kept. -/

namespace TextScan

/-- A whole number, or a decimal with `places` digits after the point. -/
inductive Number where
  | whole (value : Int)
  | decimal (mantissa : Int) (places : Nat)
deriving DecidableEq, Repr

namespace Number

def tens : (places : Nat) → Int
  | 0 => 1
  | places + 1 => 10 * tens places

/-- The number is its mantissa divided by this power of ten. -/
def scale : Number → Int
  | whole _ => 1
  | decimal _ places => tens places

def mantissa : Number → Int
  | whole value => value
  | decimal mantissa _ => mantissa

def precedes (first second : Number) : Bool :=
  decide (first.mantissa * second.scale < second.mantissa * first.scale)

def sameAmount (first second : Number) : Bool :=
  first.mantissa * second.scale == second.mantissa * first.scale

/-- The whole number of this amount, if there is one. -/
def whole? (number : Number) : Option Int :=
  if number.mantissa % number.scale = 0 then some (number.mantissa / number.scale) else none

/-- The larger of two numbers, the first if they are equal. -/
def larger (first second : Number) : Number := if first.precedes second then second else first

/-- The smaller of two numbers, the first if they are equal. -/
def smaller (first second : Number) : Number := if second.precedes first then second else first

/-- The nearest number that is neither negative nor above `size`. -/
def clamp (size : Nat) (number : Number) : Number :=
  (number.larger (.whole 0)).smaller (.whole size)

theorem precedes_whole (first second : Int) :
    (whole first).precedes (whole second) = decide (first < second) := by
  simp [precedes, mantissa, scale]

theorem clamp_whole (size : Nat) (value : Int) :
    clamp size (.whole value) = .whole (min value.toNat size) := by
  simp only [clamp, larger, smaller, precedes_whole, decide_eq_true_eq]
  by_cases negative : value < 0
  · simp only [negative, if_true, precedes_whole, decide_eq_true_eq]
    split <;> congr 1 <;> omega
  · simp only [negative, if_false, precedes_whole, decide_eq_true_eq]
    split <;> congr 1 <;> omega

theorem clamp_negative {size : Nat} {number : Number}
    (negative : number.precedes (.whole 0) = true) :
    clamp size number = .whole 0 := by
  have bounded : (whole size).precedes (whole 0) = false := by
    rw [precedes_whole, decide_eq_false_iff_not]
    omega
  rw [clamp, larger, if_pos negative, smaller, bounded]
  rfl

theorem clamp_bounds {size : Nat} {number : Number} {value : Int}
    (clamped : clamp size number = .whole value) : 0 ≤ value ∧ value ≤ size := by
  cases number with
  | whole given =>
    rw [clamp_whole] at clamped
    cases clamped
    omega
  | decimal mantissa places =>
    simp only [clamp, larger, smaller] at clamped
    split at clamped <;> split at clamped <;> cases clamped <;> omega

end Number

/-- How a zero or a one is written: as a number, or as a truth value. -/
inductive NumberForm where
  | number
  | truth
deriving DecidableEq, Repr, Inhabited

/-- A bound of a window as it was given. -/
structure Bound where
  number : Number
  form : NumberForm
deriving DecidableEq, Repr

namespace Bound

def ofInt (value : Int) : Bound := ⟨.whole value, .number⟩

/-- The name of the type the bound was given in. -/
def typeName : Bound → String
  | ⟨_, .truth⟩ => "bool"
  | ⟨.whole _, .number⟩ => "int"
  | ⟨.decimal _ _, .number⟩ => "float"

def larger (first second : Bound) : Bound :=
  if first.number.precedes second.number then second else first

def smaller (first second : Bound) : Bound :=
  if second.number.precedes first.number then second else first

end Bound

end TextScan
