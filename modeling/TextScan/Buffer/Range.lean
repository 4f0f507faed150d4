import TextScan.Buffer.Items

/-! Ranges of whole numbers: which numbers an item of a format holds, and what is said of
one it does not hold. A number passes through wider ranges first, and the widest that
refuses it is the one that is named. -/

namespace TextScan

/-- Whole numbers of some width, and what is said of one that is below or above them. -/
structure IntegerRange where
  low : Int
  high : Int
  below : String
  above : String
deriving DecidableEq, Repr

namespace IntegerRange

/-- A range whose name tells what a number does not fit. -/
def named (name : String) (low high : Int) : IntegerRange :=
  ⟨low, high, name ++ " is less than minimum", name ++ " is greater than maximum"⟩

/-- A range both of whose ends are too far away to be told apart. -/
def ofWidth (message : String) (low high : Int) : IntegerRange := ⟨low, high, message, message⟩

def holds (range : IntegerRange) (code : Int) : Bool :=
  decide (range.low ≤ code) && decide (code ≤ range.high)

def message (range : IntegerRange) (code : Int) : String :=
  if code < range.low then range.below else range.above

/-- Signed numbers of eight bytes. -/
def long : IntegerRange :=
  ofWidth "Python int too large to convert to C long" (-0x8000000000000000) 0x7FFFFFFFFFFFFFFF

/-- Unsigned numbers of eight bytes. -/
def unsignedLong : IntegerRange :=
  ⟨0, 0xFFFFFFFFFFFFFFFF, "can't convert negative value to unsigned int",
    "Python int too large to convert to C unsigned long"⟩

end IntegerRange

/-- The ranges a number passes on its way into an item, the widest first. -/
def ItemFormat.ranges (format : ItemFormat) : List IntegerRange :=
  match format.name with
  | "b" => [.long, .named "signed short integer" (-0x8000) 0x7FFF,
      .named "signed char" (-0x80) 0x7F]
  | "B" => [.long, .named "unsigned byte integer" 0 0xFF]
  | "h" => [.long, .named "signed short integer" (-0x8000) 0x7FFF]
  | "H" => [.long, .named "signed integer" (-0x80000000) 0x7FFFFFFF,
      .named "unsigned short" 0 0xFFFF]
  | "i" => [.long, .named "signed integer" (-0x80000000) 0x7FFFFFFF]
  | "I" => [.unsignedLong, .named "unsigned int" 0 0xFFFFFFFF]
  | "l" => [.long]
  | "L" => [.unsignedLong]
  | "q" => [.ofWidth "int too big to convert" (-0x8000000000000000) 0x7FFFFFFFFFFFFFFF]
  | "Q" => [⟨0, 0xFFFFFFFFFFFFFFFF, "can't convert negative int to unsigned",
      "int too big to convert"⟩]
  | _ => []

/-- The range that keeps a number from being an item, if one does. -/
def ItemFormat.refusing? (format : ItemFormat) (code : Int) : Option IntegerRange :=
  format.ranges.find? fun range => !range.holds code

end TextScan
