import TextScan.Argument

/-! Walks as arguments. A walk that is read as a text is gone through to its end, whether
what it yields fits the unit or not. Wide units take nothing but text and go through none. -/

namespace TextScan.CharUnit

/-- The walks that reading a text argument goes through. -/
def walksInText (unit : CharUnit) : Value → List Nat
  | .generator walk _ => if unit.isText then [] else [walk]
  | _ => []

/-- The walks among characters that are read one by one, up to the first that is none. -/
def walksInChars (unit : CharUnit) : List Value → List Nat
  | [] => []
  | member :: rest =>
    unit.walksInText member ++
      match unit.char member with
      | .ok _ => walksInChars unit rest
      | .error _ => []

/-- The walks that reading a character set argument goes through. -/
def walksInCharset (unit : CharUnit) : Value → List Nat
  | .set members => unit.walksInChars members
  | .frozenSet members => unit.walksInChars members
  | value => unit.walksInText value

end TextScan.CharUnit
