import TextScan.Buffer
import TextScan.Scan

namespace TextScan.Buffer

/-- The units between two bounds. -/
def between (buffer : Buffer) (start stop : Nat) : List Nat :=
  (buffer.units.drop start).take (stop - start)

namespace Stretch

def find? (buffer : Buffer) (needle : List Nat) (start stop : Nat) : Option Nat :=
  if start ≤ stop then (Scan.find? needle (buffer.between start stop)).map (start + ·) else none

def findUnit? (buffer : Buffer) (code : Nat) (start stop : Nat) : Option Nat :=
  (Scan.findWhere? (· == code) (buffer.between start stop)).map (start + ·)

def findLastUnit? (buffer : Buffer) (code : Nat) (start stop : Nat) : Option Nat :=
  (Scan.findLast? (· == code) (buffer.between start stop)).map (start + ·)

def countUnit (buffer : Buffer) (code : Nat) (start stop : Nat) : Nat :=
  (buffer.between start stop).count code

def matchesAt (buffer : Buffer) (needle : List Nat) (start stop : Nat) : Bool :=
  decide (start ≤ stop) && needle.isPrefixOf (buffer.between start stop)

def matchesBefore (buffer : Buffer) (needle : List Nat) (start stop : Nat) : Bool :=
  decide (start ≤ stop) && needle.isSuffixOf (buffer.between start stop)

/-- Whether the first stretch begins with the second; stretches of one length then hold
the same units. -/
def equal (first : Buffer) (start stop : Nat) (second : Buffer) (start' stop' : Nat) : Bool :=
  decide (start ≤ stop) && (second.between start' stop').isPrefixOf (first.between start stop)

end Stretch

end TextScan.Buffer
