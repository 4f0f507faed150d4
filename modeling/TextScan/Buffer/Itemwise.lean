import TextScan.Buffer

/-! Searching item by item: units are looked up one place at a time, and nothing is taken out
of the buffer. All that a search knows of a buffer is what it finds at the places where it
looks, and it has no answer at all where it would have to look at a place that is not there. -/

namespace TextScan.Buffer

/-- The unit at a place of the buffer. A negative place counts from the end. -/
def read (buffer : Buffer) (place : Int) : Option Nat :=
  let counted := if place < 0 then place + buffer.size else place
  if counted < 0 then none else buffer.units[counted.toNat]?

theorem read_ofNat (buffer : Buffer) (place : Nat) :
    buffer.read place = buffer.units[place]? := by
  have natural : ¬ (place : Int) < 0 := by omega
  simp [read, natural]

namespace Itemwise

def holdsAt (look : Int → Option Nat) (code : Nat) (place : Int) : Option Bool :=
  (look place).map (· == code)

/-- The first of `count` places from `place` on that passes the test. -/
def firstPlace (test : Int → Option Bool) : (count : Nat) → (place : Int) → Option (Option Int)
  | 0, _ => some none
  | count + 1, place => do
    let passed ← test place
    if passed then pure (some place) else firstPlace test count (place + 1)

/-- The last of `count` places from `start` on that passes the test, tried backwards. -/
def lastPlace (test : Int → Option Bool) (start : Int) : (count : Nat) → Option (Option Int)
  | 0 => some none
  | count + 1 => do
    let passed ← test (start + count)
    if passed then pure (some (start + count)) else lastPlace test start count

/-- How many of `count` places from `place` on pass the test. -/
def countPlaces (test : Int → Option Bool) : (count : Nat) → (place : Int) → Option Nat
  | 0, _ => some 0
  | count + 1, place => do
    let passed ← test place
    let later ← countPlaces test count (place + 1)
    pure (if passed then later + 1 else later)

/-- Whether the units from a place on begin with the needle. -/
def agreesFrom (look : Int → Option Nat) : (needle : List Nat) → (place : Int) → Option Bool
  | [], _ => some true
  | code :: rest, place => do
    let passed ← holdsAt look code place
    if passed then agreesFrom look rest (place + 1) else pure false

def matchesAt (look : Int → Option Nat) (needle : List Nat) (place stop : Int) : Option Bool :=
  if stop < place + needle.length then some false else agreesFrom look needle place

def matchesBefore (look : Int → Option Nat) (needle : List Nat) (start stop : Int) :
    Option Bool :=
  if stop - needle.length < start then some false
  else matchesAt look needle (stop - needle.length) stop

def find? (look : Int → Option Nat) (needle : List Nat) (start stop : Int) :
    Option (Option Int) :=
  match needle with
  | [] => some (if start ≤ stop then some start else none)
  | first :: rest =>
    firstPlace
      (fun place => do
        let passed ← holdsAt look first place
        if passed then matchesAt look (first :: rest) place stop else pure false)
      (stop - rest.length - start).toNat start

def findUnit? (look : Int → Option Nat) (code : Nat) (start stop : Int) : Option (Option Int) :=
  firstPlace (holdsAt look code) (stop - start).toNat start

def findLastUnit? (look : Int → Option Nat) (code : Nat) (start stop : Int) :
    Option (Option Int) :=
  lastPlace (holdsAt look code) start (stop - start).toNat

def countUnit (look : Int → Option Nat) (code : Nat) (start stop : Int) : Option Nat :=
  countPlaces (holdsAt look code) (stop - start).toNat start

def findWhere? (look : Int → Option Nat) (test : Nat → Bool) (start stop : Int) :
    Option (Option Int) :=
  firstPlace (fun place => (look place).map test) (stop - start).toNat start

def findLast? (look : Int → Option Nat) (test : Nat → Bool) (start stop : Int) :
    Option (Option Int) :=
  lastPlace (fun place => (look place).map test) start (stop - start).toNat

/-- Whether `count` units from two places on agree. Units of different kinds do not. -/
def agreesWith (alike : Bool) (look look' : Int → Option Nat) :
    (count : Nat) → (place place' : Int) → Option Bool
  | 0, _, _ => some true
  | count + 1, place, place' => do
    let code ← look place
    let code' ← look' place'
    if alike = true ∧ code = code' then
      agreesWith alike look look' count (place + 1) (place' + 1)
    else pure false

end Itemwise

end TextScan.Buffer
